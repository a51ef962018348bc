import IdIssuer.Proofs.Allocator
import IdIssuer.Proofs.Trial.Books
import IdIssuer.Proofs.Trial.Plan
import IdIssuer.Trial.Report

/-!
# How a trial begins

The tags of a plan can all be registered, since they are distinct and the step is not zero
(`registerAll_plan`). Creating their buffers fails only if the id space has no room for a single
reservation (`warmAll_cases`). Otherwise the trial begins with nothing handed out (`start_cases`).
-/

namespace IdIssuer

open Pool

namespace Allocator

/-- The allocator finds the first buffer of each tag. -/
structure Serves (a : Allocator) (tags : List String) (p : Pool) : Prop where
  usable : a.poisoned = false
  known : ∀ tag ∈ tags, a.buffers.get? tag = some ⟨tag, 0⟩ ∧ (p.buffer? ⟨tag, 0⟩).isSome

variable {a : Allocator} {tags : List String} {tag : String} {p : Pool}

theorem Serves.find? (h : a.Serves tags p) (htag : tag ∈ tags) :
    ∃ b, p.buffer? ⟨tag, 0⟩ = some b ∧ a.find? tag p = some (⟨tag, 0⟩, b) := by
  obtain ⟨hid, hsome⟩ := h.known tag htag
  obtain ⟨b, hb⟩ := Option.isSome_iff_exists.1 hsome
  exact ⟨b, hb, by simp [Allocator.find?, hid, hb]⟩

theorem Serves.play (h : a.Serves tags p) (move : Move) : a.Serves tags (p.play move) :=
  ⟨h.usable, fun tag htag => (h.known tag htag).imp_right (p.played move).isSome_buffer?⟩

end Allocator

namespace Trial

variable {tags rest : List String} {step : ℕ} {p : Pool} {a : Allocator} {tag : String}

/-! ## Registration -/

theorem registerAll_eq {word : UInt64} (hstep : word ≠ 0) {l : Ledger} (distinct : tags.Nodup)
    (hnew : ∀ tag ∈ tags, l.rows.get? tag = none) :
    ∃ l', registerAll word tags l = .ok l' ∧ (∀ tag ∈ tags, l'.rows.get? tag = some ⟨0, word⟩) ∧
      ∀ tag, tag ∉ tags → l'.rows.get? tag = l.rows.get? tag := by
  induction tags generalizing l with
  | nil => exact ⟨l, rfl, nofun, fun _ _ => rfl⟩
  | cons tag rest ih =>
    obtain ⟨hnot, hrest⟩ := List.nodup_cons.1 distinct
    have hregister : l.register tag 0 word =
        (.ok (), { l with rows := l.rows.insert tag ⟨0, word⟩ }) := by
      have hzero : ¬ idLimit < 0 := by decide
      unfold Ledger.register
      rw [if_neg hstep, if_neg hzero, hnew tag List.mem_cons_self]
    obtain ⟨l', hl', hmem, hother⟩ := ih (l := { l with rows := l.rows.insert tag ⟨0, word⟩ }) hrest
      fun t ht => by
        have hne : tag ≠ t := fun he => hnot (he ▸ ht)
        rw [Table.get?_insert, if_neg hne]
        exact hnew t (List.mem_cons_of_mem _ ht)
    refine ⟨l', by rw [registerAll, hregister]; exact hl', fun t ht => ?_, fun t ht => ?_⟩
    · rcases List.mem_cons.1 ht with rfl | ht
      · rw [hother t hnot, Table.get?_insert, if_pos rfl]
      · exact hmem t ht
    · rw [List.mem_cons, not_or] at ht
      rw [hother t ht.2, Table.get?_insert, if_neg (Ne.symm ht.1)]

/-- All tags of a plan can be registered. -/
theorem registerAll_plan {plan : Plan} (sound : plan.IsSound) :
    ∃ l, registerAll plan.step plan.tags .empty = .ok l ∧
      ∀ tag ∈ plan.tags, l.rows.get? tag = some ⟨0, plan.step⟩ := by
  obtain ⟨l, hl, hrows, -⟩ :=
    registerAll_eq sound.step_ne_zero (l := .empty) sound.distinct fun _ _ => rfl
  exact ⟨l, hl, hrows⟩

/-- The books of a pool without buffers, all of whose tags are registered from zero. -/
theorem books_new {l : Ledger} {word : UInt64} (hstep : word ≠ 0)
    (hrows : ∀ tag ∈ tags, l.rows.get? tag = some ⟨0, word⟩) :
    Books tags word.toNat (.new (.new l .free)) fun _ => [] := by
  have stands (tag : String) (htag : tag ∈ tags) : (Store.new l .free).Stands tag 0 :=
    ⟨word, hstep, hrows tag htag⟩
  refine ⟨isFiled_new _, isWaiting_new _, rfl, fun tag htag row hrow => ?_,
    fun tag htag => .unused (stands tag htag) rfl, fun tag htag => ⟨fun _ => rfl, ?_, nofun⟩⟩
  · cases (hrows tag htag).symm.trans hrow
    rfl
  · intro m₀ hm
    rw [List.mem_singleton.1 hm]
    have hnone : (Store.new l .free).grants tag = [] := rfl
    exact ⟨0, stands tag htag, by simp [Pool.new, hnone]⟩

/-! ## First segments -/

/-- Opening a buffer keeps the books. -/
theorem Books.opening {ids : String → List UInt64} (h : Books tags step p ids)
    (owns : ∀ tag ∈ tags, a.Owns tag p) (tag : String) :
    Books tags step (p.plays (a.opening tag p)) ids := by
  rcases a.opening_cases tag p with he | ⟨-, hf, told, he⟩
  · rw [he]
    exact h
  · have hcreated : Books tags step (p.play (.create tag a.config a.spawner)) ids := by
      refine h.play_quiet (fun _ => nofun) (fun t ht => ?_) rfl rfl
      rintro rfl
      exact (owns tag ht).buffersOf_nil hf
    rw [he, plays_cons]
    generalize p.play (.create tag a.config a.spawner) = created at hcreated ⊢
    clear he
    induction told generalizing created with
    | nil => exact hcreated
    | cons events told ih =>
      have htold : Books tags step (created.play (.tell events)) ids :=
        hcreated.play_quiet (fun _ => nofun) (fun _ _ => trivial) rfl rfl
      exact ih _ htold

/-- Making sure that a tag has a buffer fails only for want of room for a single reservation. -/
theorem Books.warmUp (h : Books tags step p fun _ => []) (owns : a.Owns tag p) (htag : tag ∈ tags)
    (unused : a.buffers.get? tag = none) :
    (a.warmUp tag p).1 = .done () ∧ ((a.warmUp tag p).2.2.buffer? ⟨tag, 0⟩).isSome ∨
    (∃ e, (a.warmUp tag p).1 = .failed e) ∧ idLimit.toNat < step := by
  have hopened := a.opened tag p
  have hbuffer := fun id b => @Allocator.buffer?_buffer p a tag id b
  unfold Allocator.warmUp
  generalize a.buffer tag p = made at hopened hbuffer ⊢
  have free : p.store.script.GivesNothing := h.free ▸ Script.givesNothing_free
  have calm : p.store.script.IsCalm := h.free ▸ isCalm_free
  have hnil : p.buffersOf tag = [] := by
    rcases owns.known with hnil | ⟨hid, -⟩
    · exact hnil
    · cases unused.symm.trans hid
  obtain ⟨m, stands, hm⟩ := (h.metered tag htag).meters 0 List.mem_cons_self
  have hzero : m.toNat = 0 := by
    rw [hm, (h.metered tag htag).blank hnil, List.length_nil, Nat.zero_mul]
    rfl
  cases hopened with
  | locked hp => exact absurd hp (by simp [owns.usable])
  | found hp hf => cases unused.symm.trans (Allocator.find?_eq_some hf).1
  | @created g log hp hf ha hv =>
    have hsome := hbuffer _ _ rfl
    have hlength : (p.buffersOf tag).length = 0 := by rw [hnil, List.length_nil]
    refine .inl ⟨rfl, Option.isSome_iff_exists.2 ⟨.new tag a.config a.spawner g, ?_⟩⟩
    rw [hlength] at hsome
    exact hsome
  | invalid hp hf ha hv =>
    rcases stands.fetch free calm with ⟨e, he, -⟩ | ⟨g, hg, hfresh, -⟩
    · cases he.symm.trans ha
    · cases hg.symm.trans ha
      rw [hfresh.1] at hv
      cases hv
  | refused hp hf ha =>
    have hlimit := stands.lt_of_failed h.free (h.fixed tag htag) ha
    rw [hzero, Nat.zero_add] at hlimit
    exact .inr ⟨⟨_, rfl⟩, hlimit⟩
  | unwound hp hf ha => exact absurd ha (Store.fetch_ne_panicked calm tag _)

theorem warmAll_cases (h : Books tags step p fun _ => []) (owns : ∀ tag ∈ tags, a.Owns tag p)
    (hrest : rest ⊆ tags) (distinct : rest.Nodup)
    (unused : ∀ tag ∈ rest, a.buffers.get? tag = none) :
    (∃ a' p', warmAll rest a p = .ok (a', p') ∧ (Books tags step p' fun _ => []) ∧
      (∀ tag ∈ tags, a'.Owns tag p') ∧ (∀ id, (p.buffer? id).isSome → (p'.buffer? id).isSome) ∧
      ∀ tag ∈ rest, (p'.buffer? ⟨tag, 0⟩).isSome) ∨
    (∃ e, warmAll rest a p = .error (.warmUp e)) ∧ idLimit.toNat < step := by
  induction rest generalizing a p with
  | nil => exact .inl ⟨a, p, rfl, h, owns, fun _ => id, nofun⟩
  | cons tag rest ih =>
    obtain ⟨htag, hrest⟩ := List.cons_subset.1 hrest
    obtain ⟨hnew, distinct⟩ := List.nodup_cons.1 distinct
    have calm : p.store.script.IsCalm := h.free ▸ isCalm_free
    have hpool : (a.warmUp tag p).2.2 = p.plays (a.opening tag p) := (a.plays_opening tag p).symm
    have hbooks : Books tags step (a.warmUp tag p).2.2 fun _ => [] := hpool ▸ h.opening owns tag
    have howns : ∀ t ∈ tags, (a.warmUp tag p).2.1.Owns t (a.warmUp tag p).2.2 :=
      fun t ht => (owns t ht).warmUp calm tag
    have hkept (id : BufferId) (hid : (p.buffer? id).isSome) :
        ((a.warmUp tag p).2.2.buffer? id).isSome := hpool ▸ isSome_buffer?_plays _ hid
    have hunused : ∀ t ∈ rest, (a.warmUp tag p).2.1.buffers.get? t = none := by
      intro t ht
      have hne : tag ≠ t := fun he => hnew (he ▸ ht)
      exact ((a.opened tag p).get?_of_ne hne).trans (unused t (List.mem_cons_of_mem _ ht))
    have hwarm := h.warmUp (owns tag htag) htag (unused tag List.mem_cons_self)
    unfold warmAll
    generalize a.warmUp tag p = warmed at hbooks howns hkept hunused hwarm
    obtain ⟨outcome, a₁, p₁⟩ := warmed
    rcases hwarm with ⟨rfl, hsome⟩ | ⟨⟨e, rfl⟩, hlimit⟩
    · rcases ih hbooks howns hrest distinct hunused with ⟨a', p', hok, hb, ho, hk, hr⟩ | hrefused
      · refine .inl ⟨a', p', hok, hb, ho, fun id hid => hk id (hkept id hid), fun t ht => ?_⟩
        rcases List.mem_cons.1 ht with rfl | ht
        · exact hk _ hsome
        · exact hr t ht
      · exact .inr hrefused
    · exact .inr ⟨⟨e, rfl⟩, hlimit⟩

/-- A trial begins with nothing handed out, or is refused for want of room. -/
theorem start_cases {plan : Plan} (sound : plan.IsSound) :
    (∃ a p, start plan = .ok ⟨plan, a, p, List.replicate plan.workers.toNat .new⟩ ∧
      (Books plan.tags plan.step.toNat p fun _ => []) ∧ a.Serves plan.tags p) ∨
    (∃ e, start plan = .error (.warmUp e)) ∧ ¬ plan.Fits := by
  obtain ⟨l, hl, hrows⟩ := registerAll_plan sound
  have hbooks := books_new sound.step_ne_zero hrows
  have howns (tag : String) (_ : tag ∈ plan.tags) :
      (Allocator.new plan.config .queueing).Owns tag (.new (.new l .free)) :=
    Allocator.owns_new _ _ rfl
  unfold start
  rw [hl]
  dsimp only
  rcases warmAll_cases hbooks howns (List.Subset.refl _) sound.distinct fun _ _ => rfl with
    ⟨a, p, hwarm, hbooks', howns', -, hsome⟩ | ⟨⟨e, hwarm⟩, hlimit⟩
  · rw [hwarm]
    obtain ⟨first, hfirst⟩ := List.exists_mem_of_ne_nil _ sound.tags
    refine .inl ⟨a, p, rfl, hbooks', (howns' first hfirst).usable, fun tag htag => ?_⟩
    rcases (howns' tag htag).known with hnil | hknown
    · have hthere := hsome tag htag
      rw [buffer?, hnil] at hthere
      cases hthere
    · exact hknown
  · rw [hwarm]
    exact .inr ⟨⟨e, rfl⟩, Plan.not_fits_of_step sound hlimit⟩

end Trial

end IdIssuer

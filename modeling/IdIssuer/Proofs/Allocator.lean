import IdIssuer.Proofs.Allocator.Opening

/-!
# An allocator and the buffer of a tag

An allocator owns a tag if no other has a buffer for it: either there is none, or the allocator
finds it. Using any of its tags keeps that so (`Owns.buffer`), and so does whatever creates no
buffer for the tag (`Owns.plays`).
-/

namespace IdIssuer

open Pool

namespace Allocator

/-- The allocator can be used, and finds the buffer of the tag if there is one. -/
structure Owns (a : Allocator) (tag : String) (p : Pool) : Prop where
  usable : a.poisoned = false
  known : p.buffersOf tag = [] ∨
    a.buffers.get? tag = some ⟨tag, 0⟩ ∧ (p.buffer? ⟨tag, 0⟩).isSome

variable {a : Allocator} {tag : String} {p : Pool}

theorem owns_new (config : Config) (spawner : Spawner) (h : p.buffersOf tag = []) :
    (new config spawner).Owns tag p := ⟨rfl, .inl h⟩

theorem Owns.find?_eq_some (h : a.Owns tag p) (hb : p.buffersOf tag ≠ []) :
    ∃ b, a.find? tag p = some (⟨tag, 0⟩, b) ∧ p.buffer? ⟨tag, 0⟩ = some b := by
  rcases h.known with hnil | ⟨hid, hsome⟩
  · exact absurd hnil hb
  · obtain ⟨b, hb'⟩ := Option.isSome_iff_exists.1 hsome
    exact ⟨b, by simp [find?, hid, hb'], hb'⟩

/-- A tag that the allocator does not find has no buffer. -/
theorem Owns.buffersOf_nil (h : a.Owns tag p) (hf : a.find? tag p = none) :
    p.buffersOf tag = [] := by
  by_contra hb
  obtain ⟨b, hb', -⟩ := h.find?_eq_some hb
  rw [hf] at hb'
  cases hb'

theorem Owns.plays {moves : List Move} (h : a.Owns tag p)
    (hm : ∀ d ∈ p.deeds moves, ¬ d.move.Creates tag) : a.Owns tag (p.plays moves) :=
  ⟨h.usable, h.known.imp (buffersOf_nil_plays hm)
    fun ⟨hid, hsome⟩ => ⟨hid, isSome_buffer?_plays moves hsome⟩⟩

theorem create_ne_panicked (calm : p.store.script.IsCalm) (tag : String) (config : Config)
    (spawner : Spawner) (call : ℕ) : (p.create tag config spawner).1 ≠ .panicked call := by
  have hcalm := Store.fetch_ne_panicked calm tag
  unfold create Buffer.create
  generalize p.store.fetch tag = fetched at hcalm
  obtain ⟨answer, σ⟩ := fetched
  cases answer with
  | panicked call => exact absurd rfl (hcalm call)
  | failed error => simp
  | segment g =>
    dsimp only
    split_ifs <;> simp

/-- Using a tag, be it the one or another, leaves the one to the allocator. -/
theorem Owns.buffer (h : a.Owns tag p) (calm : p.store.script.IsCalm) (t : String) :
    (a.buffer t p).2.1.Owns tag (a.buffer t p).2.2 := by
  have hopened := a.opened t p
  generalize a.buffer t p = made at hopened
  cases hopened with
  | locked | found | invalid | refused => exact ⟨h.usable, h.known⟩
  | @unwound call _ _ ha => exact absurd ha (Store.fetch_ne_panicked calm t call)
  | @created g log _ hf _ _ =>
    refine ⟨h.usable, ?_⟩
    by_cases ht : t = tag
    · subst ht
      have hlength : (p.buffersOf t).length = 0 := by rw [h.buffersOf_nil hf, List.length_nil]
      have hb : (⟨(p.store.fetch t).2,
          p.buffers.insert t (p.buffersOf t ++ [.new t a.config a.spawner g]), p.pending,
          log⟩ : Pool).buffer? ⟨t, (p.buffersOf t).length⟩ =
          some (.new t a.config a.spawner g) := buffer?_created _ _ _
      rw [hlength] at hb ⊢
      exact .inr ⟨by simp, Option.isSome_iff_exists.2 ⟨_, hb⟩⟩
    · have hbuffers : (⟨(p.store.fetch t).2,
          p.buffers.insert t (p.buffersOf t ++ [.new t a.config a.spawner g]), p.pending,
          log⟩ : Pool).buffersOf tag = p.buffersOf tag := by
        rw [buffersOf_insert, if_neg ht]
        rfl
      refine h.known.imp hbuffers.trans fun hfound => ⟨?_, ?_⟩
      · simp [ht, hfound.1]
      · have hsome := hfound.2
        unfold buffer? at hsome ⊢
        exact (congrArg (fun list : List Buffer => list[0]?.isSome) hbuffers).trans hsome

/-- Using a tag touches the buffers that the allocator knows, and its lock. -/
theorem buffer_frame (a : Allocator) (tag : String) (p : Pool) :
    ∃ buffers poisoned, (a.buffer tag p).2.1 = { a with buffers, poisoned } := by
  have hopened := a.opened tag p
  generalize a.buffer tag p = made at hopened ⊢
  cases hopened <;> exact ⟨_, _, rfl⟩

/-! ## Asking for an id -/

theorem get_allocator (a : Allocator) (tag : String) (p : Pool) :
    (a.get tag p).2.1 = (a.buffer tag p).2.1 := by
  unfold get
  generalize a.buffer tag p = opened
  obtain ⟨outcome, a', p'⟩ := opened
  cases outcome <;> rfl

theorem Owns.get (h : a.Owns tag p) (calm : p.store.script.IsCalm) (t : String) :
    (a.get t p).2.1.Owns tag (a.get t p).2.2 := by
  rw [get_allocator, (a.get_eq t p).1, moves, plays_append, plays_opening]
  refine (h.buffer calm t).plays fun d hd => ?_
  have hmove := mem_moves_of_mem_deeds hd
  cases ho : (a.buffer t p).1 with
  | done found =>
    rw [ho] at hmove
    rw [List.mem_singleton.1 hmove]
    exact id
  | failed _ | panicked _ =>
    rw [ho] at hmove
    cases hmove

theorem Owns.warmUp (h : a.Owns tag p) (calm : p.store.script.IsCalm) (t : String) :
    (a.warmUp t p).2.1.Owns tag (a.warmUp t p).2.2 := h.buffer calm t

/-- An allocator asks the buffer that it finds. -/
theorem get_of_find? {id : BufferId} {b : Buffer} (usable : a.poisoned = false)
    (hf : a.find? tag p = some (id, b)) : a.get tag p = ((p.next id b).1, a, (p.next id b).2) := by
  simp [get, Allocator.buffer, usable, hf]

end Allocator

end IdIssuer

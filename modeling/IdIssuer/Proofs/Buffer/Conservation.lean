import IdIssuer.Proofs.Buffer.Counter
import IdIssuer.Proofs.Buffer.Holdings

/-!
# Buffers that lose nothing

Where a tag has several buffers, the segments of one of them need not follow one another, but they
rise: the staged one starts no lower than the one being served ends, and whatever the store yields
next starts no lower than the end of either. If besides the flags of the buffer tell the truth, and
no prefetch is under way while the slot is filled, then no segment is dropped while it has an id
left. An orderly operation neither loses an id nor makes one up (`conserves_operate`).
-/

namespace IdIssuer

open Note

namespace Buffer

/-- The segments of the buffer rise, all of them within what the store has reserved, and its flags
tell the truth. -/
structure Tidy (b : Buffer) (σ : Store) : Prop where
  usable : b.poisoned = false
  ready : b.ready = b.staged.isSome
  loading : b.loading = true → b.staged = none
  reserved : σ.ledger.reserved b.tag b.current.max = 1
  staged : ∀ g, b.staged = some g →
    g.IsFresh ∧ b.current.max ≤ g.base ∧ σ.ledger.reserved b.tag g.max = 1

/-- Ids that the buffer held or that the store has reserved on the way are claimed or held now, each
of them once, and no others. -/
def Conserves (b : Buffer) (σ : Store) (b' : Buffer) (σ' : Store) (ids : List UInt64) : Prop :=
  ∀ n, b'.holds n + ids.count n + σ.ledger.reserved b.tag n =
    b.holds n + σ'.ledger.reserved b.tag n

variable {b b' : Buffer} {σ σ' : Store}

theorem conserves_of_eq (hb : ∀ n, b'.holds n = b.holds n)
    (hσ : ∀ n, σ'.ledger.reserved b.tag n = σ.ledger.reserved b.tag n) :
    b.Conserves σ b' σ' [] := by
  intro n
  rw [hb, hσ, List.count_nil, Nat.add_zero]

theorem Conserves.trans {b'' : Buffer} {σ'' : Store} {ids ids' : List UInt64}
    (h : b.Conserves σ b' σ' ids) (h' : b'.Conserves σ' b'' σ'' ids') (ht : b'.tag = b.tag) :
    b.Conserves σ b'' σ'' (ids ++ ids') := by
  intro n
  have hn := h n
  have hn' := h' n
  rw [ht] at hn'
  rw [List.count_append]
  omega

/-- A buffer stays tidy while others reserve ids of its tag. -/
theorem Tidy.mono (h : b.Tidy σ)
    (hle : ∀ n, σ.ledger.reserved b.tag n ≤ σ'.ledger.reserved b.tag n) : b.Tidy σ' := by
  have still {n : UInt64} (hn : σ.ledger.reserved b.tag n = 1) :
      σ'.ledger.reserved b.tag n = 1 := by
    have hmono := hle n
    have hone := σ'.ledger.reserved_le_one b.tag n
    omega
  exact ⟨h.usable, h.ready, h.loading, still h.reserved,
    fun g hg => ⟨(h.staged g hg).1, (h.staged g hg).2.1, still (h.staged g hg).2.2⟩⟩

theorem Tidy.staged_of_not_ready (h : b.Tidy σ) (hr : b.ready = false) : b.staged = none := by
  rw [h.ready] at hr
  simpa using hr

theorem holds_of_le (h : b.current.max ≤ b.current.cursor) (n : UInt64) :
    b.holds n = b.staged.elim 0 (·.holds n) := by
  rw [holds, Segment.holds_of_le h, Nat.zero_add]

section

variable (free : σ.script.GivesNothing)

include free

theorem tidy_new {tag : String} {config : Config} {spawner : Spawner} {g : Segment}
    (ha : (σ.fetch tag).1 = .segment g) :
    (Buffer.new tag config spawner g).Tidy (σ.fetch tag).2 :=
  ⟨rfl, rfl, fun _ => rfl, (Store.reserved_of_fetch free ha).2.1, nofun⟩

/-- A prefetch for an empty slot stages what the store yields. -/
theorem Tidy.receive (h : b.Tidy σ) (hbare : b.staged = none) :
    Tidy { (b.receive (σ.fetch b.tag).1).1 with loading := false } (σ.fetch b.tag).2 ∧
      b.Conserves σ (b.receive (σ.fetch b.tag).1).1 (σ.fetch b.tag).2 [] := by
  have hcalls : σ.Calls b.tag (σ.fetch b.tag).2 := .inr rfl
  have hmono := h.mono (hcalls.reserved_le free b.tag)
  have hreserved := Store.reserved_fetch free b.tag
  rcases b.receive_cases (σ.fetch b.tag).1 with ⟨he, hwhy⟩ | ⟨g, ha, hv, -, -, he⟩
  · rw [he]
    refine ⟨⟨h.usable, h.ready, by simp, hmono.reserved, hmono.staged⟩,
      conserves_of_eq (fun _ => rfl) fun n => ?_⟩
    -- Nothing that the store could yield is refused, so it has yielded nothing.
    rw [hreserved n]
    cases ha : (σ.fetch b.tag).1 with
    | failed _ | panicked _ => rfl
    | segment g =>
      rcases hwhy with hinvalid | hpoisoned | hfull
      · have hvalid := (Store.reserved_of_fetch free ha).1.1
        rw [hinvalid g ha] at hvalid
        cases hvalid
      · rw [h.usable] at hpoisoned
        cases hpoisoned
      · rw [hbare] at hfull
        cases hfull
  · obtain ⟨hfresh, hmax, habove⟩ := Store.reserved_of_fetch free ha
    rw [he]
    refine ⟨⟨h.usable, rfl, by simp, hmono.reserved, fun g' hg' => ?_⟩, fun n => ?_⟩
    · cases hg'
      exact ⟨hfresh, habove _ h.reserved, hmax⟩
    · rw [hreserved n, ha, Answer.holds, holds, holds, hbare, List.count_nil]
      simp only [Option.elim_some, Option.elim_none]
      omega

/-- A change that an orderly operation makes of a tidy buffer leaves it tidy, and loses nothing. -/
theorem tidy_change {note : Note} (calm : σ.script.IsCalm) (hc : Change b σ note b' σ')
    (hn : note.IsOrderly b) (h : b.Tidy σ) :
    b'.Tidy σ' ∧ b.Conserves σ b' σ' note.claim?.toList := by
  have hmono := h.mono ((calls_change hc).reserved_le free b.tag)
  cases hc with
  | claimed hlt =>
    refine ⟨⟨h.usable, h.ready, h.loading, h.reserved, h.staged⟩, fun n => ?_⟩
    have := Segment.holds_advance_of_lt hlt n
    simp only [claim, holds, claim?, Option.toList_some]
    omega
  | missed hle hw =>
    refine ⟨⟨h.usable, h.ready, h.loading, h.reserved, h.staged⟩,
      conserves_of_eq (fun n => ?_) fun _ => rfl⟩
    simp only [claim, holds, Segment.holds_advance_of_le hle hw, Segment.holds_of_le hle]
  | @promoted g hx hr hst hg =>
    obtain ⟨-, -, hmax⟩ := h.staged g hst
    refine ⟨⟨h.usable, rfl, fun _ => rfl, hmax, by simp⟩,
      conserves_of_eq (fun n => ?_) fun _ => rfl⟩
    rw [holds_of_le hx, hst]
    exact Nat.add_zero _
  | cleared hr hst =>
    rw [h.ready, Option.isSome_iff_exists] at hr
    obtain ⟨g, hg⟩ := hr
    exact absurd (h.staged g hg).2.1 (UInt64.not_le.2 (hst g hg))
  | @refilled g hx hr ha hv =>
    have hbare := h.staged_of_not_ready hr
    refine ⟨⟨h.usable, rfl, fun _ => rfl, (Store.reserved_of_fetch free ha).2.1, by simp⟩,
      fun n => ?_⟩
    have hempty : b.holds n = 0 := by rw [holds_of_le hx, hbare, Option.elim_none]
    rw [Store.reserved_fetch free, ha, hempty]
    simp only [holds, Option.elim_none, claim?, Option.toList_none, List.count_nil, Answer.holds]
    omega
  | refused ha =>
    refine ⟨hmono, conserves_of_eq (fun _ => rfl) fun n => ?_⟩
    rw [Store.reserved_fetch free]
    cases hf : (σ.fetch b.tag).1 with
    | failed _ | panicked _ => rfl
    | segment g =>
      have hvalid := (Store.reserved_of_fetch free hf).1.1
      rw [ha g hf] at hvalid
      cases hvalid
  | poisoned ha => exact absurd ha (Store.fetch_ne_panicked calm _ _)
  | due hw =>
    obtain ⟨hready, hloading⟩ := flags_of_wantsPrefetch hw
    obtain ⟨htidy, hconserves⟩ := h.receive free (h.staged_of_not_ready hready)
    refine ⟨?_, hconserves⟩
    have hsame : { b with loading := false } = b := by rw [← hloading]
    have hreceive := b.receive_loading (σ.fetch b.tag).1 false
    rw [hsame] at hreceive
    rwa [← hreceive] at htidy
  | started hw =>
    have hbare := h.staged_of_not_ready (flags_of_wantsPrefetch hw).1
    exact ⟨⟨h.usable, h.ready, fun _ => hbare, h.reserved, h.staged⟩,
      conserves_of_eq (fun _ => rfl) fun _ => rfl⟩
  | finished => exact h.receive free (h.loading hn)
  | dropped =>
    exact ⟨⟨h.usable, h.ready, by simp, h.reserved, h.staged⟩,
      conserves_of_eq (fun _ => rfl) fun _ => rfl⟩
  | direct | put | marked => cases hn

/-- An orderly operation leaves a tidy buffer tidy, and loses nothing. -/
theorem conserves_operate {op : Operation} (calm : σ.script.IsCalm) (h : b.Tidy σ)
    (room : b.HasRoom) (hop : op.IsOrderly b) :
    (b.operate σ op).buffer.Tidy (b.operate σ op).store ∧
      b.Conserves σ (b.operate σ op).buffer (b.operate σ op).store
        (b.operate σ op).outcome.issued.toList := by
  apply orderly_induction (I := fun ids b' σ' => b'.Tidy σ' ∧ b.Conserves σ b' σ' ids) calm room hop
  · exact ⟨h, conserves_of_eq (fun _ => rfl) fun _ => rfl⟩
  · rintro ids b₁ σ₁ note b₂ σ₂ hc hn htag hscript ⟨h₁, hconserves₁⟩
    obtain ⟨h₂, hconserves₂⟩ := tidy_change (hscript ▸ free) (hscript ▸ calm) hc hn h₁
    exact ⟨h₂, hconserves₁.trans hconserves₂ htag⟩

end

end Buffer

end IdIssuer

import IdIssuer.Buffer.Snapshot
import IdIssuer.Proofs.Buffer.Course

/-!
# What a failure leaves behind

If asking for an id fails because the store refuses a segment, or yields an invalid one, no segment
of the store is installed. The buffer is then as it was, unless a segment was staged: that segment
has been taken out of the slot before the store is called, to be served if it follows the current
one and to be dropped if it does not (`next_of_failed`). It is served only if it holds no id, since
the call would not have come to the store otherwise.
-/

namespace IdIssuer

/-- The error says that the store came up with nothing to install. -/
def BufferError.installsNothing : BufferError → Bool
  | allocation .. | invalidSegment .. => true
  | initialization .. | emptySegment _ | lockPoisoned => false

/-- The slot is handled by hand. -/
def Operation.handles : Operation → Bool
  | put .. | mark => true
  | next | check | prefetch | finish | drop => false

/-- The slot is handled by hand. -/
def Note.handles : Note → Bool
  | put .. | marked => true
  | _ => false

namespace Buffer

variable {b b' : Buffer} {σ σ' : Store} {note : Note} {notes : List Note}

/-! ## The flag of the slot -/

/-- The slot is said to be filled if it is. -/
def IsFlagged (b : Buffer) : Prop := b.ready = b.staged.isSome

theorem IsFlagged.receive (h : b.IsFlagged) (answer : Answer) :
    (b.receive answer).1.IsFlagged := by
  rcases b.receive_cases answer with ⟨he, -⟩ | ⟨g, -, -, -, -, he⟩
  · rwa [he]
  · rw [he]
    rfl

/-- Only by hand is the slot filled without saying so, or said to be filled without being so. -/
theorem IsFlagged.change (h : b.IsFlagged) (hc : Change b σ note b' σ')
    (hn : note.handles = false) : b'.IsFlagged := by
  cases hc with
  | promoted | cleared | refilled => rfl
  | due | direct => exact h.receive _
  | finished => exact h.receive (σ.fetch b.tag).1
  | put | marked => cases hn
  | claimed | missed | refused | poisoned | started | dropped => exact h

theorem IsFlagged.changes (h : b.IsFlagged) (hc : Changes b σ notes b' σ')
    (hn : ∀ note ∈ notes, note.handles = false) : b'.IsFlagged := by
  induction hc with
  | nil => exact h
  | cons hhead _ ih =>
    exact ih (h.change hhead (hn _ List.mem_cons_self))
      fun note hmem => hn note (List.mem_cons_of_mem _ hmem)

theorem IsFlagged.check (h : b.IsFlagged) (σ : Store) : (b.check σ).buffer.IsFlagged := by
  obtain ⟨notes, hc, hshape, -⟩ := changes_check b σ
  apply h.changes hc
  rcases hshape with rfl | rfl | rfl <;> decide

theorem IsFlagged.promote (h : b.IsFlagged) : b.promote.2.1.IsFlagged := by
  unfold Buffer.promote
  split_ifs
  · cases b.staged with
    | none => rfl
    | some g =>
      dsimp only
      split_ifs <;> rfl
  · exact h

theorem IsFlagged.refill (h : b.IsFlagged) (answer : Answer) :
    (b.refill answer).2.IsFlagged := by
  cases answer with
  | panicked call => exact h
  | failed error => exact h
  | segment g =>
    unfold Buffer.refill serve claim
    dsimp only
    split_ifs
    · cases g.advance.1 <;> rfl
    · exact h

theorem IsFlagged.nextWaiting (h : b.IsFlagged) (σ : Store) :
    (b.nextWaiting σ).buffer.IsFlagged := by
  unfold Buffer.nextWaiting
  split_ifs
  · exact h
  · have hclaim : b.claim.2.IsFlagged := h
    generalize b.claim = claimed at hclaim
    obtain ⟨id?, b₁⟩ := claimed
    cases id? with
    | some id => exact hclaim
    | none =>
      have hpromote : b₁.promote.2.1.IsFlagged := hclaim.promote
      dsimp only
      generalize b₁.promote = promoted at hpromote
      obtain ⟨id?, b₂, events⟩ := promoted
      cases id? with
      | some id => exact hpromote
      | none => exact hpromote.refill _

/-- What else is done to the buffer keeps to that, even if the cursor has wrapped. -/
theorem IsFlagged.operate (h : b.IsFlagged) {op : Operation} (hop : op.handles = false) :
    (b.operate σ op).buffer.IsFlagged := by
  cases op with
  | next =>
    unfold Buffer.operate Buffer.next
    rw [show b.claim = (b.claim.1, b.claim.2) from rfl]
    cases b.claim.1 with
    | some id => exact IsFlagged.check (b := b.claim.2) h σ
    | none => exact IsFlagged.nextWaiting (b := b.claim.2) h σ
  | check => exact h.check σ
  | prefetch => exact h.receive _
  | finish => exact IsFlagged.receive (b := b) h (σ.fetch b.tag).1
  | drop => exact h
  | put | mark => cases hop

/-! ## Failures -/

theorem refill_of_failed {answer : Answer} {e : BufferError}
    (h : (b.refill answer).1 = .failed e) (he : e.installsNothing = true) :
    (b.refill answer).2 = b := by
  cases answer with
  | panicked call => cases h
  | failed error => rfl
  | segment g =>
    unfold refill serve claim at h ⊢
    dsimp only at h ⊢
    split_ifs at h ⊢ with hv
    · cases hg : g.advance.1 <;> rw [hg] at h <;> cases h
      cases he
    · rfl

/-- A caller who fails so has first emptied the slot, and found no id there. -/
theorem renew_of_failed {e : BufferError} (h : (b.renew σ).outcome = .failed e)
    (he : e.installsNothing = true) :
    b.promote.1 = none ∧ (b.renew σ).buffer = b.promote.2.1 := by
  unfold renew at h ⊢
  generalize b.promote = promoted at h ⊢
  obtain ⟨id?, b', events⟩ := promoted
  cases id? with
  | some id => cases h
  | none => exact ⟨rfl, refill_of_failed h he⟩

/-- What is left of a buffer after a failure: all of it if nothing was staged. What was staged is
gone from the slot, and is served now if it was to be served next, though it holds no id. -/
def Spent (b b' : Buffer) : Prop :=
  match b.staged with
  | none => b'.snapshot = b.snapshot ∧ b'.staged = none
  | some g =>
    b'.staged = none ∧
      (g.base < b.current.max ∧ b'.snapshot = { b.snapshot with nextReady := false } ∨
        b.current.max ≤ g.base ∧ g.base = g.max ∧
          b'.snapshot = { b.snapshot with
            base := g.base, max := g.max, step := g.step, cursor := g.max, nextReady := false })

theorem Spent.staged (h : b.Spent b') : b'.staged = none := by
  unfold Spent at h
  cases hs : b.staged <;> rw [hs] at h
  · exact h.2
  · exact h.1

/-- The buffer is as it was if nothing was staged, and only then. -/
theorem Spent.snapshot_iff (h : b.Spent b') (flagged : b.IsFlagged) :
    b'.snapshot = b.snapshot ↔ b.staged = none := by
  unfold Spent at h
  cases hs : b.staged with
  | none =>
    rw [hs] at h
    exact ⟨fun _ => rfl, fun _ => h.1⟩
  | some g =>
    have hready : b.snapshot.nextReady = true := flagged.trans (congrArg Option.isSome hs)
    have hlow : b'.snapshot.nextReady = false := by
      rw [hs] at h
      rcases h.2 with ⟨-, he⟩ | ⟨-, -, he⟩ <;> rw [he]
    refine ⟨fun hsame => ?_, nofun⟩
    rw [hsame, hready] at hlow
    cases hlow

theorem snapshot_claim (h : b.current.max ≤ b.current.cursor)
    (hw : b.current.cursor.toNat + 1 < 2 ^ 64) : b.claim.2.snapshot = b.snapshot := by
  simp only [snapshot, claim, Segment.base_advance, Segment.max_advance, Segment.step_advance,
    Segment.position_advance_of_le h hw, Segment.position_of_le h]

theorem spent_renew {e : BufferError} (fresh : ∀ g, b.staged = some g → g.IsFresh)
    (flagged : b.IsFlagged) (h : (b.renew σ).outcome = .failed e)
    (he : e.installsNothing = true) : b.Spent (b.renew σ).buffer := by
  obtain ⟨hnone, hbuffer⟩ := renew_of_failed h he
  rw [hbuffer]
  unfold Spent
  unfold IsFlagged at flagged
  cases hs : b.staged with
  | none =>
    have hpromote : b.promote = (none, b, []) := by simp [promote, flagged, hs]
    rw [hpromote]
    exact ⟨rfl, hs⟩
  | some g =>
    have hready : b.ready = true := flagged.trans (congrArg Option.isSome hs)
    by_cases hg : b.current.max ≤ g.base
    · obtain ⟨events, hpromote⟩ :=
        promote_of_successor (successor?_eq_some_iff.2 ⟨hready, hs, hg⟩)
      have hempty : g.max ≤ g.cursor := by
        by_contra hlt
        rw [hpromote, Segment.advance_of_lt (UInt64.not_le.1 hlt)] at hnone
        cases hnone
      obtain ⟨hvalid, hcursor⟩ := fresh g hs
      have hmax : g.base = g.max := by
        apply UInt64.toNat_inj.1
        rw [hcursor, UInt64.le_iff_toNat_le] at hempty
        exact Nat.le_antisymm (Segment.isValid_iff.1 hvalid).1 hempty
      rw [hpromote]
      refine ⟨rfl, .inr ⟨hg, hmax, ?_⟩⟩
      have hw : g.cursor.toNat + 1 < 2 ^ 64 := (fresh g hs).cursor_lt
      simp only [snapshot, Segment.base_advance, Segment.max_advance, Segment.step_advance,
        Segment.position_advance_of_le hempty hw]
    · have hlow := UInt64.not_le.1 hg
      obtain ⟨events, hpromote⟩ := promote_of_no_successor hready
        (successor?_eq_none_iff.2 fun _ g' hs' => by
          cases hs.symm.trans hs'
          exact hlow)
      rw [hpromote]
      exact ⟨rfl, .inl ⟨hlow, rfl⟩⟩

theorem check_ne_failed_map {α : Type} (b : Buffer) (σ : Store) (f : Unit → α) (e : BufferError) :
    (b.check σ).outcome.map f ≠ .failed e := by
  have hne := b.check_ne_failed σ
  cases ho : (b.check σ).outcome with
  | failed error => exact absurd ho (hne error)
  | done _ | panicked _ => simp [Outcome.map]

/-- A call that fails so has tried twice to claim an id before it turns to the slot. -/
theorem next_of_failed {e : BufferError} (room : b.HasRoom) (flagged : b.IsFlagged)
    (h : (b.next σ).outcome = .failed e) (he : e.installsNothing = true) :
    b.Spent (b.next σ).buffer := by
  rcases UInt64.lt_or_le b.current.cursor b.current.max with hlt | hle
  · rw [next_of_lt hlt] at h
    exact absurd h (check_ne_failed_map _ _ _ _)
  cases hp : b.poisoned with
  | true =>
    rw [next_of_poisoned hle hp] at h
    cases h
    cases he
  | false =>
    have hw := room.first
    have hw' := room.second
    have hsame : b.claim.2.claim.2.snapshot = b.snapshot :=
      (snapshot_claim (max_le_cursor_claim hle hw) hw').trans (snapshot_claim hle hw)
    rw [next_of_le hle hw hp] at h ⊢
    have hspent := spent_renew (b := b.claim.2.claim.2) room.staged flagged h he
    unfold Spent at hspent ⊢
    rw [hsame] at hspent
    exact hspent

end Buffer

end IdIssuer

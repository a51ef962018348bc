import IdIssuer.Proofs.Buffer.Stock

/-!
# Current segment and slot agree

A sound buffer whose flag is right is coherent: what it serves is valid, what it stages is fresh,
and what it shows of itself is in order (`Sound.isCoherent`). A prefetch leaves the segment being
served alone, and fills the slot only if it is empty (`fills_prefetch`). A call for an id does no
more as long as the current segment lasts (`fills_next`), and after that leaves the slot empty or as
it was (`staged_next`).
-/

namespace IdIssuer

namespace Buffer

variable {b b' : Buffer} {σ : Store} {c : ℕ}

/-- The flag tells whether the slot is filled, what is in the slot is valid and unclaimed, and the
segment being served is valid and claimed from within its bounds. -/
structure IsCoherent (b : Buffer) : Prop where
  flag : b.ready = true ↔ ∃ g, b.staged = some g
  staged : ∀ g, b.staged = some g → g.isValid = true ∧ g.cursor = g.base
  current : b.current.isValid = true
  snapshot : b.snapshot.base ≤ b.snapshot.cursor ∧ b.snapshot.cursor ≤ b.snapshot.max ∧
    b.snapshot.max ≤ idLimit

theorem Sound.isCoherent (h : b.Sound c) (flagged : b.IsFlagged) : b.IsCoherent := by
  have hbounds := Segment.isValid_iff.1 h.valid
  have hposition := b.current.toNat_position
  have hcursor := h.cursor
  refine ⟨?_, h.staged, h.valid, ?_, ?_, ?_⟩
  · rw [show b.ready = b.staged.isSome from flagged, Option.isSome_iff_exists]
  · show b.current.base ≤ b.current.position
    rw [UInt64.le_iff_toNat_le]
    omega
  · show b.current.position ≤ b.current.max
    rw [UInt64.le_iff_toNat_le]
    omega
  · show b.current.max ≤ idLimit
    rw [UInt64.le_iff_toNat_le]
    exact hbounds.2

/-! ## Prefetches -/

/-- The segment being served is the same as before, and so is what was in the slot, if anything
was. -/
structure Fills (b b' : Buffer) : Prop where
  current : b'.current = b.current
  staged : ∀ g, b.staged = some g → b'.staged = some g

theorem Fills.refl (b : Buffer) : b.Fills b := ⟨rfl, fun _ h => h⟩

theorem fills_receive (b : Buffer) (answer : Answer) : b.Fills (b.receive answer).1 := by
  rcases b.receive_cases answer with ⟨he, -⟩ | ⟨g, -, -, -, hempty, he⟩
  · rw [he]
    exact .refl b
  · rw [he]
    refine ⟨rfl, fun g' hg' => ?_⟩
    cases hempty.symm.trans hg'

theorem fills_prefetch (b : Buffer) (σ : Store) : b.Fills (b.prefetch σ).buffer :=
  b.fills_receive _

theorem fills_check (b : Buffer) (σ : Store) : b.Fills (b.check σ).buffer := by
  rcases b.check_cases σ with ⟨he, -⟩ | ⟨he, -⟩ | ⟨he, -⟩
  · rw [he]
    exact .refl b
  · rw [he]
    exact b.fills_receive _
  · rw [he]
    exact ⟨rfl, fun _ h => h⟩

/-- Nothing but a call for an id does more than a prefetch, unless the slot is handled by hand. -/
theorem fills_operate {op : Operation} (hne : op ≠ .next) (hop : op.handles = false) :
    b.Fills (b.operate σ op).buffer := by
  cases op with
  | next => exact absurd rfl hne
  | check => exact b.fills_check σ
  | prefetch => exact b.fills_prefetch σ
  | finish =>
    obtain ⟨hcurrent, hstaged⟩ := b.fills_prefetch σ
    exact ⟨hcurrent, hstaged⟩
  | drop => exact ⟨rfl, fun _ h => h⟩
  | put | mark => cases hop

/-! ## Calls for an id -/

/-- As long as the current segment lasts, a call claims from it and does no more than a prefetch. -/
theorem fills_next (hlt : b.current.cursor < b.current.max) :
    b.claim.2.Fills (b.next σ).buffer := by
  rw [next_of_lt hlt]
  exact b.claim.2.fills_check σ

/-- After that, the slot is left as it was if the lock is poisoned, and empty if not. -/
theorem staged_next (room : b.HasRoom) (flagged : b.IsFlagged)
    (hle : b.current.max ≤ b.current.cursor) :
    (b.next σ).buffer.staged = b.staged ∨ (b.next σ).buffer.staged = none := by
  cases hp : b.poisoned with
  | true =>
    rw [next_of_poisoned hle hp]
    exact .inl rfl
  | false =>
    rw [next_of_le hle room.first hp]
    exact .inr (staged_renew flagged)

end Buffer

end IdIssuer

import IdIssuer.Segment
import Mathlib.Algebra.BigOperators.Group.List.Basic

/-!
# Claims on a segment

What a claim does to a segment, said in natural numbers: the cursor moves up by one as long as the
word does not wrap, and an id is there to be claimed exactly if it lies above the cursor and not
above `max`. `holds` counts that, so that ids in several places can be added up.
-/

namespace IdIssuer

namespace Segment

variable {s : Segment}

theorem toNat_idLimit : idLimit.toNat = 2 ^ 63 - 1 := rfl

theorem isValid_iff :
    s.isValid = true ↔ s.base.toNat ≤ s.max.toNat ∧ s.max.toNat ≤ 2 ^ 63 - 1 := by
  simp only [isValid, Bool.and_eq_true, decide_eq_true_eq, UInt64.le_iff_toNat_le, toNat_idLimit]

theorem toNat_position (s : Segment) : s.position.toNat = min s.cursor.toNat s.max.toNat := by
  unfold position
  split_ifs with h <;> rw [UInt64.le_iff_toNat_le] at h <;> omega

/-! ## One claim -/

theorem advance_of_lt (h : s.cursor < s.max) : s.advance.1 = some (s.cursor + 1) := by
  simp [advance, h]

theorem advance_of_le (h : s.max ≤ s.cursor) : s.advance.1 = none := by
  simp [advance, UInt64.not_lt.2 h]

theorem toNat_cursor_succ (h : s.cursor.toNat + 1 < 2 ^ 64) :
    (s.cursor + 1).toNat = s.cursor.toNat + 1 := by
  rw [UInt64.toNat_add]
  exact Nat.mod_eq_of_lt h

/-- A claim that succeeds cannot wrap the cursor. -/
theorem succ_lt_of_lt (h : s.cursor < s.max) : s.cursor.toNat + 1 < 2 ^ 64 := by
  have hm := s.max.toNat_lt
  rw [UInt64.lt_iff_toNat_lt] at h
  omega

theorem position_of_lt (h : s.cursor < s.max) : s.position = s.cursor := by
  rw [position, if_pos (UInt64.le_of_lt h)]

theorem position_of_le (h : s.max ≤ s.cursor) : s.position = s.max := by
  apply UInt64.toNat_inj.1
  rw [UInt64.le_iff_toNat_le] at h
  rw [toNat_position]
  omega

theorem toNat_position_advance (h : s.cursor.toNat + 1 < 2 ^ 64) :
    s.advance.2.position.toNat = min (s.cursor.toNat + 1) s.max.toNat := by
  rw [toNat_position, cursor_advance, max_advance, toNat_cursor_succ h]

theorem position_advance_of_lt (h : s.cursor < s.max) : s.advance.2.position = s.cursor + 1 := by
  have hw := succ_lt_of_lt h
  apply UInt64.toNat_inj.1
  rw [toNat_position_advance hw, toNat_cursor_succ hw]
  rw [UInt64.lt_iff_toNat_lt] at h
  omega

theorem position_advance_of_le (h : s.max ≤ s.cursor) (hw : s.cursor.toNat + 1 < 2 ^ 64) :
    s.advance.2.position = s.max := by
  apply UInt64.toNat_inj.1
  rw [toNat_position_advance hw]
  rw [UInt64.le_iff_toNat_le] at h
  omega

/-- What is left runs from where readers see the cursor to `max`. -/
theorem toNat_remaining (s : Segment) : s.remaining.toNat = s.max.toNat - s.position.toNat := by
  rw [toNat_position]
  unfold remaining
  split_ifs with h
  · rw [UInt64.toNat_sub_of_le _ _ h]
    rw [UInt64.le_iff_toNat_le] at h
    omega
  · rw [UInt64.le_iff_toNat_le] at h
    rw [UInt64.toNat_zero]
    omega

theorem remaining_of_le (h : s.max ≤ s.cursor) : s.remaining = 0 := by
  apply UInt64.toNat_inj.1
  rw [toNat_remaining, position_of_le h, Nat.sub_self]
  rfl

theorem isExhausted_iff : s.isExhausted = true ↔ s.max ≤ s.cursor := by
  unfold isExhausted
  rw [beq_iff_eq, ← UInt64.toNat_inj, toNat_remaining, toNat_position, UInt64.toNat_zero,
    UInt64.le_iff_toNat_le]
  omega

/-- The segment is valid, and nothing has been claimed from it. -/
def IsFresh (g : Segment) : Prop := g.isValid = true ∧ g.cursor = g.base

theorem IsFresh.cursor_lt {g : Segment} (h : g.IsFresh) : g.cursor.toNat + 1 < 2 ^ 64 := by
  obtain ⟨hv, hc⟩ := h
  rw [isValid_iff] at hv
  rw [hc]
  omega

theorem IsFresh.position (h : s.IsFresh) : s.position = s.base := by
  have hv := isValid_iff.1 h.1
  apply UInt64.toNat_inj.1
  rw [toNat_position, h.2]
  omega

/-! ## Ids that are left to claim -/

/-- How often an id is left to claim: once or not at all. -/
def holds (s : Segment) (n : UInt64) : ℕ := if s.cursor < n ∧ n ≤ s.max then 1 else 0

theorem holds_of_le (h : s.max ≤ s.cursor) (n : UInt64) : s.holds n = 0 := by
  rw [holds, if_neg]
  rintro ⟨h₁, h₂⟩
  rw [UInt64.le_iff_toNat_le] at h h₂
  rw [UInt64.lt_iff_toNat_lt] at h₁
  omega

/-- A claim that succeeds takes away the id that it yields. -/
theorem holds_advance_of_lt (h : s.cursor < s.max) (n : UInt64) :
    s.advance.2.holds n + [s.cursor + 1].count n = s.holds n := by
  have hc := toNat_cursor_succ (succ_lt_of_lt h)
  have he : s.cursor + 1 = n ↔ s.cursor.toNat + 1 = n.toNat := by
    rw [← hc, UInt64.toNat_inj]
  rw [UInt64.lt_iff_toNat_lt] at h
  simp only [holds, cursor_advance, max_advance, List.count_singleton, beq_iff_eq, he,
    UInt64.lt_iff_toNat_lt, UInt64.le_iff_toNat_le, hc]
  split_ifs <;> omega

/-- A claim that fails leaves nothing to claim either. -/
theorem holds_advance_of_le (h : s.max ≤ s.cursor) (hw : s.cursor.toNat + 1 < 2 ^ 64)
    (n : UInt64) : s.advance.2.holds n = 0 := by
  apply holds_of_le
  rw [UInt64.le_iff_toNat_le] at h ⊢
  rw [cursor_advance, max_advance, toNat_cursor_succ hw]
  omega

end Segment

end IdIssuer

import IdIssuer.Proofs.Store.Grants

/-!
# What has been reserved

`reserved` says how often an id of a tag lies at or below the boundary of the tag, once or not at
all. A call of the store raises it by what the segment it yields has left to claim, and nothing but
a call or a registration changes it.
-/

namespace IdIssuer

/-- How often an id is left to claim from the segment that the store yields, if it yields one. -/
def Answer.holds (n : UInt64) : Answer → ℕ
  | segment g => g.holds n
  | failed _ | panicked _ => 0

namespace Ledger

/-- How often an id of a tag has been reserved, counting all ids up to the boundary. -/
def reserved (l : Ledger) (tag : String) (n : UInt64) : ℕ :=
  match l.rows.get? tag with
  | some row => if n ≤ row.boundary then 1 else 0
  | none => 0

theorem reserved_le_one (l : Ledger) (tag : String) (n : UInt64) : l.reserved tag n ≤ 1 := by
  unfold reserved
  split
  · split_ifs <;> omega
  · omega

theorem reserved_eq_one_iff {l : Ledger} {tag : String} {n : UInt64} :
    l.reserved tag n = 1 ↔ ∃ row, l.rows.get? tag = some row ∧ n ≤ row.boundary := by
  unfold reserved
  cases l.rows.get? tag with
  | none => simp
  | some row => by_cases h : n ≤ row.boundary <;> simp [h]

theorem reserved_insert (rows : Table Row) (fetches : UInt64) (tag : String) (row : Row)
    (t : String) (n : UInt64) :
    (⟨rows.insert tag row, fetches⟩ : Ledger).reserved t n =
      if tag = t then (if n ≤ row.boundary then 1 else 0)
      else (⟨rows, fetches⟩ : Ledger).reserved t n := by
  unfold reserved
  by_cases h : tag = t <;> simp [h]

end Ledger

/-- The reservation of a segment adds what the segment has left to claim. -/
theorem Row.Yields.holds_add {row : Row} {g : Segment} (h : row.Yields g) (n : UInt64) :
    (if n ≤ row.boundary then 1 else 0) + g.holds n = if n ≤ g.max then 1 else 0 := by
  have hm := h.max
  have hc := h.cursor
  simp only [Segment.holds, hc, UInt64.lt_iff_toNat_lt, UInt64.le_iff_toNat_le]
  split_ifs <;> omega

namespace Store

variable {s : Store} {tag t : String}

theorem reserved_fetch (free : s.script.GivesNothing) (tag : String) (n : UInt64) :
    (s.fetch tag).2.ledger.reserved tag n =
      s.ledger.reserved tag n + (s.fetch tag).1.holds n := by
  rcases fetch_cases free tag with ⟨hnone, hl⟩ | ⟨row, g, hrow, hy, hg, hl⟩
  · rw [hl]
    cases ha : (s.fetch tag).1 with
    | segment g => exact absurd ha (hnone g)
    | failed _ | panicked _ => rfl
  · rw [hl, hg, Ledger.reserved_insert, if_pos rfl, Answer.holds, ← hy.holds_add n]
    simp only [Ledger.reserved, hrow]

/-- A segment that the store yields is reserved by the call, above all that was reserved before. -/
theorem reserved_of_fetch (free : s.script.GivesNothing) {g : Segment}
    (ha : (s.fetch tag).1 = .segment g) :
    g.IsFresh ∧ (s.fetch tag).2.ledger.reserved tag g.max = 1 ∧
      ∀ n, s.ledger.reserved tag n = 1 → n ≤ g.base := by
  rcases fetch_cases free tag with ⟨hnone, -⟩ | ⟨row, g', hrow, hy, hg, hl⟩
  · exact absurd ha (hnone g)
  · cases ha.symm.trans hg
    refine ⟨hy.isFresh, ?_, fun n hn => ?_⟩
    · rw [hl, Ledger.reserved_insert, if_pos rfl, if_pos (UInt64.le_refl _)]
    · obtain ⟨row', hrow', hle⟩ := Ledger.reserved_eq_one_iff.1 hn
      cases hrow.symm.trans hrow'
      rwa [hy.base]

/-- A call for one tag leaves the rows of the others as they are. -/
theorem row_fetch_of_ne (s : Store) (h : tag ≠ t) :
    (s.fetch tag).2.ledger.rows.get? t = s.ledger.rows.get? t := by
  unfold fetch
  cases s.script (s.calls + 1) with
  | some act => rfl
  | none =>
    simp only [consult]
    rcases s.ledger.fetch_cases tag with ⟨e, he⟩ | ⟨row, g, -, -, hg⟩
    · rw [he]
    · rw [hg]
      simp [h]

/-- A call neither adds nor removes a row. -/
theorem isSome_row_fetch (s : Store) (tag t : String) :
    ((s.fetch tag).2.ledger.rows.get? t).isSome = (s.ledger.rows.get? t).isSome := by
  unfold fetch
  cases s.script (s.calls + 1) with
  | some act => rfl
  | none =>
    simp only [consult]
    rcases s.ledger.fetch_cases tag with ⟨e, he⟩ | ⟨row, g, hrow, -, hg⟩
    · rw [he]
    · rw [hg]
      by_cases ht : tag = t
      · subst ht
        simp [hrow]
      · simp [ht]

theorem Calls.isSome_row {s' : Store} (h : s.Calls tag s') (t : String) :
    (s'.ledger.rows.get? t).isSome = (s.ledger.rows.get? t).isSome := by
  rcases h with rfl | rfl
  · rfl
  · exact s.isSome_row_fetch tag t

theorem Calls.row_of_ne {s' : Store} (h : s.Calls tag s') (ht : tag ≠ t) :
    s'.ledger.rows.get? t = s.ledger.rows.get? t := by
  rcases h with rfl | rfl
  · rfl
  · exact s.row_fetch_of_ne ht

theorem Calls.reserved_of_ne {s' : Store} (h : s.Calls tag s') (ht : tag ≠ t) (n : UInt64) :
    s'.ledger.reserved t n = s.ledger.reserved t n := by
  simp only [Ledger.reserved, h.row_of_ne ht]

/-- What is reserved stays reserved. -/
theorem Calls.reserved_le {s' : Store} (h : s.Calls tag s') (free : s.script.GivesNothing)
    (t : String) (n : UInt64) : s.ledger.reserved t n ≤ s'.ledger.reserved t n := by
  by_cases ht : tag = t
  · subst ht
    rcases h with rfl | rfl
    · exact Nat.le_refl _
    · rw [reserved_fetch free]
      exact Nat.le_add_right _ _
  · exact Nat.le_of_eq (h.reserved_of_ne ht n).symm

end Store

end IdIssuer

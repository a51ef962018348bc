/-!
# Segments of ids

A segment is the range `(base, max]` that one reservation yields, with a cursor that every claim
moves by one. The cursor is a 64-bit word that is moved also when nothing is left: it overshoots
`max`, and wraps after `2 ^ 64 - base` claims. Readers see it clamped to `max`.
-/

namespace IdIssuer

/-- The largest id that a store may reserve, `2 ^ 63 - 1`. -/
def idLimit : UInt64 := 9223372036854775807

/-- A reserved range of ids `(base, max]`, the step it was reserved with, and the claims so far. -/
structure Segment where
  base : UInt64
  max : UInt64
  step : UInt64
  /-- The last id claimed, or `base` before the first claim; it runs past `max`. -/
  cursor : UInt64
deriving Repr, DecidableEq

namespace Segment

/-- The range `(base, max]` with nothing claimed. -/
def new (base max step : UInt64) : Segment := ⟨base, max, step, base⟩

/-- The segment that ends at a boundary and reaches down by one step, or to zero. -/
def ofBoundary (max step : UInt64) : Segment :=
  new (if step ≤ max then max - step else 0) max step

/-- The cursor as readers see it. -/
def position (s : Segment) : UInt64 := if s.cursor ≤ s.max then s.cursor else s.max

/-- The number of ids that are left to claim. -/
def remaining (s : Segment) : UInt64 := if s.cursor ≤ s.max then s.max - s.cursor else 0

/-- A segment is valid if its bounds are in order and within the id space. -/
def isValid (s : Segment) : Bool := s.base ≤ s.max && s.max ≤ idLimit

/-- Nothing is left to claim. -/
def isExhausted (s : Segment) : Bool := s.remaining == 0

/-- Claims the next id, if one is left, and moves the cursor in either case. -/
def advance (s : Segment) : Option UInt64 × Segment :=
  (if s.cursor < s.max then some (s.cursor + 1) else none, { s with cursor := s.cursor + 1 })

/-- The results of a number of claims in a row. -/
def advanceMany : Nat → Segment → List (Option UInt64) × Segment
  | 0, s => ([], s)
  | n + 1, s =>
    let (id, s) := s.advance
    let (ids, s) := advanceMany n s
    (id :: ids, s)

/-- The segment as a diagnostic shows it, with the cursor as it stands. -/
def describe (s : Segment) : String :=
  s!"Segment \x7b base: {s.base}, max: {s.max}, step: {s.step}, cursor: {s.cursor} \x7d"

@[simp] theorem base_new (base max step : UInt64) : (new base max step).base = base := rfl

@[simp] theorem max_new (base max step : UInt64) : (new base max step).max = max := rfl

@[simp] theorem step_new (base max step : UInt64) : (new base max step).step = step := rfl

@[simp] theorem cursor_new (base max step : UInt64) : (new base max step).cursor = base := rfl

@[simp] theorem base_advance (s : Segment) : s.advance.2.base = s.base := rfl

@[simp] theorem max_advance (s : Segment) : s.advance.2.max = s.max := rfl

@[simp] theorem step_advance (s : Segment) : s.advance.2.step = s.step := rfl

@[simp] theorem cursor_advance (s : Segment) : s.advance.2.cursor = s.cursor + 1 := rfl

end Segment

end IdIssuer

import IdIssuer.Segment
import IdIssuer.Store.Error
import IdIssuer.Table

/-!
# The ledger of boundaries

A ledger keeps one row per tag: the boundary, which is the largest id reserved so far, and the step
that the next reservation takes. `fetch` moves the boundary by one step and yields the range passed
over. A request that is refused changes nothing.
-/

namespace IdIssuer

/-- What a ledger knows of one tag. -/
structure Row where
  /-- The largest id reserved so far. -/
  boundary : UInt64
  /-- The size of the next reservation. -/
  step : UInt64
deriving Repr, DecidableEq

/-- The sum of two words, unless it overflows. -/
def checkedAdd? (x y : UInt64) : Option UInt64 :=
  if x.toNat + y.toNat < UInt64.size then some (x + y) else none

/-- The boundary after the next reservation, unless it would lie past the id space. -/
def Row.next? (row : Row) : Option UInt64 :=
  (checkedAdd? row.boundary row.step).filter (· ≤ idLimit)

theorem toNat_add_of_lt {x y : UInt64} (h : x.toNat + y.toNat < UInt64.size) :
    (x + y).toNat = x.toNat + y.toNat := by
  rw [UInt64.toNat_add]
  exact Nat.mod_eq_of_lt h

theorem lt_size_of_fits {sum : Nat} (h : sum ≤ idLimit.toNat) : sum < UInt64.size :=
  Nat.lt_of_le_of_lt h (by decide)

/-- An overflow lies past the id space as well, so that the exact sum decides. -/
theorem Row.next?_eq (row : Row) :
    row.next? = if row.boundary.toNat + row.step.toNat ≤ idLimit.toNat
      then some (row.boundary + row.step) else none := by
  unfold next? checkedAdd?
  by_cases hsum : row.boundary.toNat + row.step.toNat < UInt64.size
  · rw [if_pos hsum, Option.filter_some]
    simp only [decide_eq_true_eq, UInt64.le_iff_toNat_le, toNat_add_of_lt hsum]
  · have hpast : ¬ row.boundary.toNat + row.step.toNat ≤ idLimit.toNat := mt lt_size_of_fits hsum
    rw [if_neg hsum, if_neg hpast]
    rfl

/-- Rows by tag, and the number of successful reservations as a 64-bit word. -/
structure Ledger where
  rows : Table Row
  fetches : UInt64
deriving Repr, DecidableEq

namespace Ledger

/-- The ledger without rows. -/
def empty : Ledger := ⟨.empty, 0⟩

/-- Gives a tag a row that starts at a boundary. -/
def register (l : Ledger) (tag : String) (boundary step : UInt64) :
    Except StoreError Unit × Ledger :=
  if step = 0 then (.error (.invalidStep tag), l)
  else if idLimit < boundary then (.error (.overflow tag boundary step), l)
  else
    match l.rows.get? tag with
    | some _ => (.error (.duplicateTag tag), l)
    | none => (.ok (), { l with rows := l.rows.insert tag ⟨boundary, step⟩ })

/-- Changes the size of the reservations that follow. -/
def setStep (l : Ledger) (tag : String) (step : UInt64) : Except StoreError Unit × Ledger :=
  if step = 0 then (.error (.invalidStep tag), l)
  else
    match l.rows.get? tag with
    | none => (.error (.unknownTag tag), l)
    | some row => (.ok (), { l with rows := l.rows.insert tag { row with step } })

/-- The largest id reserved for a tag so far. -/
def boundary (l : Ledger) (tag : String) : Except StoreError UInt64 :=
  match l.rows.get? tag with
  | none => .error (.unknownTag tag)
  | some row => .ok row.boundary

/-- Reserves the next segment of a tag. -/
def fetch (l : Ledger) (tag : String) : Except StoreError Segment × Ledger :=
  match l.rows.get? tag with
  | none => (.error (.unknownTag tag), l)
  | some row =>
    match row.next? with
    | none => (.error (.overflow tag row.boundary row.step), l)
    | some boundary =>
      (.ok (.ofBoundary boundary row.step),
        ⟨l.rows.insert tag { row with boundary }, l.fetches + 1⟩)

/-! ## Requests -/

/-- A request to a ledger. -/
inductive Request where
  | register (tag : String) (boundary step : UInt64)
  | setStep (tag : String) (step : UInt64)
  | boundary (tag : String)
  | fetch (tag : String)
deriving Repr, DecidableEq

/-- What a ledger answers. -/
inductive Response where
  | done
  | boundary (value : UInt64)
  | segment (segment : Segment)
deriving Repr, DecidableEq

namespace Request

/-- The tag that a request names. -/
def tag : Request → String
  | register tag _ _ | setStep tag _ | boundary tag | fetch tag => tag

end Request

/-- Answers one request. -/
def answer (l : Ledger) : Request → Except StoreError Response × Ledger
  | .register tag boundary step =>
    let (result, l) := l.register tag boundary step
    (result.map fun _ => .done, l)
  | .setStep tag step =>
    let (result, l) := l.setStep tag step
    (result.map fun _ => .done, l)
  | .boundary tag => ((l.boundary tag).map .boundary, l)
  | .fetch tag =>
    let (result, l) := l.fetch tag
    (result.map .segment, l)

end Ledger

end IdIssuer

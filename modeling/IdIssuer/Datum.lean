/-!
# Data of documents

A `Datum` is a value as a structured document carries it, with whole numbers told apart from all
other numbers. The readers below take one kind of value each and convert nothing.
-/

namespace IdIssuer

/-- A value in a document. -/
inductive Datum where
  | null
  | bool (b : Bool)
  /-- A whole number that is not negative. -/
  | natural (n : Nat)
  /-- Any other number. -/
  | otherNumber
  | text (s : String)
  | list (items : List Datum)
  | record (fields : List (String × Datum))
deriving Inhabited

namespace Datum

/-- A whole number that fits a 64-bit word. -/
def word? : Datum → Option UInt64
  | natural n => if n < UInt64.size then some (.ofNat n) else none
  | _ => none

/-- A truth value. -/
def bool? : Datum → Option Bool
  | bool b => some b
  | _ => none

/-- A text. -/
def text? : Datum → Option String
  | text s => some s
  | _ => none

/-- The value of a record's field. -/
def field? (name : String) : Datum → Option Datum
  | record fields => fields.lookup name
  | _ => none

end Datum

end IdIssuer

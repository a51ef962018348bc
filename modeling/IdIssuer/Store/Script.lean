import IdIssuer.Store.Ledger

/-!
# Scripted answers

A script may take the answer to a numbered call out of the ledger's hands: the call then fails,
panics, or yields a segment of the script's choosing. Since a script is any function of the call
number, a statement about every script is one about every way in which a store may behave.
-/

namespace IdIssuer

/-- What a script has a call do. -/
inductive Act where
  | fail
  | panic
  | give (base max step : UInt64)
deriving Repr, DecidableEq

/-- The acts of the calls that are scripted, by call number. -/
abbrev Script := Nat → Option Act

/-- The script that leaves every call to the ledger. -/
def Script.free : Script := fun _ => none

/-- The script that a list of numbered acts spells out; of two for one call the first counts. -/
def Script.ofList (acts : List (Nat × Act)) : Script := fun call =>
  (acts.find? (·.1 == call)).map (·.2)

/-- What a caller gets from a store. -/
inductive Answer where
  | segment (segment : Segment)
  | failed (error : StoreError)
  /-- The call unwinds through its caller. -/
  | panicked (call : Nat)
deriving Repr, DecidableEq

/-- The answer to a scripted call. -/
def Act.answer (call : Nat) : Act → Answer
  | fail => .failed (.injected call)
  | panic => .panicked call
  | give base max step => .segment (.new base max step)

/-- The text of a panic that a script injects. -/
def panicText (call : Nat) : String := s!"injected panic on call {call}"

end IdIssuer

/-!
# Errors of a store

One constructor per cause; `StoreError.message` holds the wording.
-/

namespace IdIssuer

/-- Why a store refuses a request. -/
inductive StoreError where
  /-- No row for the tag. -/
  | unknownTag (tag : String)
  /-- The tag has a row already. -/
  | duplicateTag (tag : String)
  /-- A step of zero reserves nothing. -/
  | invalidStep (tag : String)
  /-- The boundary or the reservation lies past the id space. -/
  | overflow (tag : String) (boundary step : UInt64)
  /-- The script lets this call fail. -/
  | injected (call : Nat)
deriving Repr, DecidableEq

namespace StoreError

/-- The text of an error. -/
def message : StoreError → String
  | unknownTag tag => s!"unknown business tag `{tag}`"
  | duplicateTag tag => s!"business tag `{tag}` is already registered"
  | invalidStep tag => s!"step for `{tag}` must be greater than zero"
  | overflow tag boundary step =>
    s!"advancing `{tag}` from {boundary} by {step} exceeds the id space"
  | injected call => s!"injected failure on call {call}"

end StoreError

end IdIssuer

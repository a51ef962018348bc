import IdIssuer.Store.Error

/-!
# Errors of buffers and allocators

One constructor per cause. `BufferError.message` holds the wording, `BufferError.source?` the
store's error behind it, if there is one.
-/

namespace IdIssuer

/-- Why no id is issued. -/
inductive BufferError where
  /-- The first segment of a buffer could not be reserved. -/
  | initialization (tag : String) (source : StoreError)
  /-- All segments are exhausted and the store refuses another. -/
  | allocation (tag : String) (source : StoreError)
  /-- The segment reserved while the caller waited holds no id. -/
  | emptySegment (tag : String)
  /-- The store answered with bounds that are out of order or past the id space. -/
  | invalidSegment (tag : String) (base max : UInt64)
  /-- A call panicked while it held the lock. -/
  | lockPoisoned
deriving Repr, DecidableEq

namespace BufferError

/-- The text of an error. -/
def message : BufferError → String
  | initialization tag _ => s!"failed to initialize segment buffer for tag `{tag}`"
  | allocation tag _ => s!"failed to fetch a fallback segment for tag `{tag}`"
  | emptySegment tag => s!"store returned an empty segment for tag `{tag}`"
  | invalidSegment tag base max =>
    s!"store returned segment ({base}, {max}] for tag `{tag}`, outside the id space"
  | lockPoisoned => "lock poisoned"

/-- The store's error that an error passes on. -/
def source? : BufferError → Option StoreError
  | initialization _ source | allocation _ source => some source
  | emptySegment _ | invalidSegment .. | lockPoisoned => none

/-- The tag that an error is about. -/
def tag? : BufferError → Option String
  | initialization tag _ | allocation tag _ | emptySegment tag | invalidSegment tag _ _ => some tag
  | lockPoisoned => none

end BufferError

/-- How an operation ends. -/
inductive Outcome (α : Type) where
  | done (value : α)
  | failed (error : BufferError)
  /-- The store's call with this number panicked, and the operation unwound. -/
  | panicked (call : Nat)
deriving Repr, DecidableEq

namespace Outcome

/-- The outcome with another value. -/
def map {α β : Type} (f : α → β) : Outcome α → Outcome β
  | done value => .done (f value)
  | failed error => .failed error
  | panicked call => .panicked call

end Outcome

end IdIssuer

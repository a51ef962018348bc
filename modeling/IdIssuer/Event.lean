import IdIssuer.Store.Error

/-!
# Events

What buffers and allocators tell about their work, for whoever keeps a log: one constructor per
kind of event, with its severity, its wording and its fields.
-/

namespace IdIssuer

/-- The severity of an event. -/
inductive Level where
  | trace
  | debug
  | info
  | warn
deriving Repr, DecidableEq

/-- The name of a severity. -/
def Level.name : Level → String
  | trace => "TRACE"
  | debug => "DEBUG"
  | info => "INFO"
  | warn => "WARN"

/-- The value of an event's field. -/
inductive Field where
  | number (n : UInt64)
  | text (s : String)
deriving Repr, DecidableEq

/-- Something worth telling about. -/
inductive Event where
  /-- A buffer came to be, with this first segment. -/
  | loaded (tag : String) (base max : UInt64)
  /-- The low-water mark was reached. -/
  | prefetchStarted (tag : String) (remaining : UInt64)
  /-- A prefetch put its segment into the slot. -/
  | staged (tag : String) (base max : UInt64)
  /-- A prefetch came back with a segment that is not valid. -/
  | prefetchInvalid (tag : String) (base max : UInt64)
  /-- A prefetch found the slot taken. -/
  | slotTaken (tag : String) (stagedBase base max : UInt64)
  /-- A prefetch came back with an error. -/
  | prefetchFailed (tag : String) (error : StoreError)
  /-- The staged segment took over. -/
  | promoted (base max : UInt64)
  /-- The staged segment lay below the one being served. -/
  | discarded (base currentMax : UInt64)
  /-- A caller has to wait for the store. -/
  | fallback
  /-- An allocator has a buffer for one more tag. -/
  | registered (tags : Nat)
deriving Repr, DecidableEq

namespace Event

/-- How severe an event is. -/
def level : Event → Level
  | prefetchStarted .. => .trace
  | loaded .. | staged .. | promoted .. | discarded .. => .debug
  | registered .. => .info
  | prefetchInvalid .. | slotTaken .. | prefetchFailed .. | fallback => .warn

/-- The text of an event. -/
def message : Event → String
  | loaded .. => "loaded initial segment"
  | prefetchStarted .. => "starting prefetch"
  | staged .. => "staged prefetched segment"
  | prefetchInvalid .. => "prefetched segment is outside the id space, dropping it"
  | slotTaken .. => "a segment is already staged, dropping the prefetched one"
  | prefetchFailed _ error => s!"prefetch failed: {error.message}"
  | promoted .. => "promoting staged segment"
  | discarded .. => "discarding stale staged segment"
  | fallback => "no staged segment, fetching synchronously"
  | registered .. => "registered business tag"

/-- The named values that go with an event. -/
def fields : Event → List (String × Field)
  | loaded tag base max | staged tag base max | prefetchInvalid tag base max =>
    [("tag", .text tag), ("base", .number base), ("max", .number max)]
  | prefetchStarted tag remaining => [("tag", .text tag), ("remaining", .number remaining)]
  | slotTaken tag stagedBase base max =>
    [("tag", .text tag), ("staged_base", .number stagedBase), ("base", .number base),
      ("max", .number max)]
  | prefetchFailed tag _ => [("tag", .text tag)]
  | promoted base max => [("base", .number base), ("max", .number max)]
  | discarded base currentMax => [("base", .number base), ("current_max", .number currentMax)]
  | fallback => []
  | registered tags => [("tags", .number (.ofNat tags))]

end Event

end IdIssuer

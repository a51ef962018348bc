import IdIssuer.Allocator

/-!
# Steps and replies

What the users of a store may ask for, one step at a time, and what they are told.
-/

namespace IdIssuer

/-- What a buffer may be asked for. -/
inductive BufferStep where
  /-- Issue an id. -/
  | next
  /-- Start a prefetch if one is due. -/
  | check
  /-- Say where it stands. -/
  | snapshot
  /-- Describe itself. -/
  | info
  /-- Run a prefetch at once, due or not. -/
  | prefetch
  /-- Put a segment into the slot, and say so if `mark` holds. -/
  | stage (base max step : UInt64) (mark : Bool)
  /-- Say that the slot is filled. -/
  | markReady
  /-- Show what is in the slot. -/
  | staged
deriving Repr, DecidableEq

/-- What an allocator may be asked for. -/
inductive AllocatorStep where
  /-- Issue an id of a tag. -/
  | get (tag : String)
  /-- Make sure that a tag has a buffer. -/
  | warmUp (tag : String)
  /-- Say where the buffer of a tag stands. -/
  | snapshot (tag : String)
  /-- List the tags. -/
  | tags
  /-- Describe itself. -/
  | info
deriving Repr, DecidableEq

/-- One step. -/
inductive Step where
  /-- A request to the store's ledger. -/
  | ledger (request : Ledger.Request)
  /-- Ask the store for a segment. -/
  | fetch (tag : String)
  /-- Run the prefetches that wait. -/
  | runQueue
  /-- Give up the prefetches that wait. -/
  | dropQueue
  /-- Create a buffer for a tag and give it a name, which another buffer may have had. -/
  | create (name tag : String) (ratio : Option Float)
  | buffer (name : String) (step : BufferStep)
  /-- Create an allocator and give it a name; a `standard` one has the default configuration and
  prefetches that run by themselves. -/
  | newAllocator (name : String) (ratio : Option Float) (standard : Bool)
  | allocator (name : String) (step : AllocatorStep)

/-- What a step is answered with. -/
inductive Reply where
  | done
  | ledger (response : Ledger.Response)
  | refused (error : StoreError)
  | failed (error : BufferError)
  | ratioRefused (error : ConfigError)
  /-- The step unwound from the store's call with this number. -/
  | panicked (call : Nat)
  | segment (segment : Segment)
  | issued (issue : Issue)
  /-- So many prefetches were run. -/
  | ran (count : Nat)
  /-- So many prefetches were given up. -/
  | dropped (count : Nat)
  /-- The lock of the slot is poisoned. -/
  | slotLocked
  | staged (segment : Option Segment)
  | snapshot (result : Except BufferError (Option Snapshot))
  | tags (tags : List String)
  | bufferInfo (buffer : Buffer)
  | allocatorInfo (allocator : Allocator) (calls : Nat)
  | noSuchBuffer
  | noSuchAllocator

namespace Reply

/-- The reply to an operation that ended in some way. -/
def ofOutcome {α : Type} (done : α → Reply) : Outcome α → Reply
  | .done value => done value
  | .failed error => .failed error
  | .panicked call => .panicked call

/-- The reply to a request of the ledger. -/
def ofLedger : Except StoreError Ledger.Response → Reply
  | .ok response => .ledger response
  | .error error => .refused error

/-- The reply to a call of the store. -/
def ofAnswer : Answer → Reply
  | .segment s => .segment s
  | .failed error => .refused error
  | .panicked call => .panicked call

/-- The id that a reply hands out, with the buffer that issued it. -/
def issue? : Reply → Option Issue
  | issued issue => some issue
  | _ => none

end Reply

end IdIssuer

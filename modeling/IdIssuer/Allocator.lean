import IdIssuer.Pool

/-!
# Allocators

An allocator issues ids for any number of tags, each from a buffer of its own that it creates when
the tag is first used. A first use that fails leaves nothing behind, so that the next one starts
over. A store that panics during a first use does so under the lock of the allocator's map, and
nobody gets past that lock again.
-/

namespace IdIssuer

/-- The buffers of some tags, one for each. -/
structure Allocator where
  config : Config
  spawner : Spawner
  /-- The buffer of each tag that has been used. -/
  buffers : Table BufferId
  /-- A first use panicked. -/
  poisoned : Bool

namespace Allocator

/-- An allocator that no tag has been used with. -/
def new (config : Config) (spawner : Spawner) : Allocator := ⟨config, spawner, .empty, false⟩

/-- The buffer of a tag, if the tag has been used. -/
def find? (a : Allocator) (tag : String) (p : Pool) : Option (BufferId × Buffer) :=
  (a.buffers.get? tag).bind fun id => (p.buffer? id).map (id, ·)

/-- The buffer of a tag, which is created if the tag has not been used. -/
def buffer (a : Allocator) (tag : String) (p : Pool) :
    Outcome (BufferId × Buffer) × Allocator × Pool :=
  if a.poisoned then (.failed .lockPoisoned, a, p)
  else
    match a.find? tag p with
    | some found => (.done found, a, p)
    | none =>
      match p.create tag a.config a.spawner with
      | (.done created, p) =>
        let a := { a with buffers := a.buffers.insert tag created.1 }
        (.done created, a, p.tell [.registered a.buffers.size])
      | (.failed error, p) => (.failed error, a, p)
      | (.panicked call, p) => (.panicked call, { a with poisoned := true }, p)

/-- Issues an id of a tag. -/
def get (a : Allocator) (tag : String) (p : Pool) : Outcome Issue × Allocator × Pool :=
  match a.buffer tag p with
  | (.done (id, b), a, p) =>
    let (outcome, p) := p.next id b
    (outcome, a, p)
  | (.failed error, a, p) => (.failed error, a, p)
  | (.panicked call, a, p) => (.panicked call, a, p)

/-- Makes sure that a tag has a buffer, without issuing an id. -/
def warmUp (a : Allocator) (tag : String) (p : Pool) : Outcome Unit × Allocator × Pool :=
  let (outcome, a, p) := a.buffer tag p
  (outcome.map fun _ => (), a, p)

/-- Where the buffer of a tag stands; `none` if the tag has not been used. -/
def snapshot (a : Allocator) (tag : String) (p : Pool) : Except BufferError (Option Snapshot) :=
  if a.poisoned then .error .lockPoisoned else .ok ((a.find? tag p).map (·.2.snapshot))

/-- The tags that have been used, in the order of their code points. -/
def tags (a : Allocator) : Except BufferError (List String) :=
  if a.poisoned then .error .lockPoisoned else .ok (a.buffers.keys.mergeSort (· ≤ ·))

/-- The allocator as a diagnostic shows it. -/
def describe (a : Allocator) : String :=
  s!"SegmentAllocator \x7b config: {a.config.describe}, .. \x7d"

end Allocator

end IdIssuer

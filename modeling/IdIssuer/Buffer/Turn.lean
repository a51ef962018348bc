import IdIssuer.Buffer.Basic

/-!
# Operations of a buffer on its store

Each operation takes a buffer and the store it reserves from, and ends in a `Turn`: how it ended,
what became of the two, what it has to tell, and whether it left a prefetch to be run later.
`Buffer.next` issues an id. As long as the current segment lasts, it claims from it and then looks
whether a prefetch is due; after that it promotes the staged segment, or waits for the store.
-/

namespace IdIssuer

/-- What an operation on a buffer leaves behind. -/
structure Turn (α : Type) where
  outcome : Outcome α
  buffer : Buffer
  store : Store
  /-- What happened, in order. -/
  events : List Event
  /-- A prefetch was left to be run later. -/
  queued : Bool

namespace Buffer

/-- Creates a buffer by reserving its first segment. -/
def create (tag : String) (config : Config) (spawner : Spawner) (store : Store) :
    Outcome Buffer × Store × List Event :=
  match store.fetch tag with
  | (.panicked call, store) => (.panicked call, store, [])
  | (.failed error, store) => (.failed (.initialization tag error), store, [])
  | (.segment first, store) =>
    if first.isValid then
      (.done (new tag config spawner first), store, [.loaded tag first.base first.max])
    else (.failed (.invalidSegment tag first.base first.max), store, [])

/-- Reserves a segment for the slot. -/
def prefetch (b : Buffer) (store : Store) : Turn Unit :=
  let (answer, store) := store.fetch b.tag
  let (buffer, events) := b.receive answer
  let outcome := match answer with
    | .panicked call => .panicked call
    | _ => .done ()
  { outcome, buffer, store, events, queued := false }

/-- Runs a prefetch that was started earlier; whatever comes of it, it is under way no more. -/
def finishPrefetch (b : Buffer) (store : Store) : Turn Unit :=
  let turn := b.prefetch store
  { turn with buffer := { turn.buffer with loading := false } }

/-- Gives up a prefetch that was started earlier. -/
def dropPrefetch (b : Buffer) : Buffer := { b with loading := false }

/-- Starts a prefetch, which the spawner runs, keeps or drops. -/
def startPrefetch (b : Buffer) (store : Store) : Turn Unit :=
  let started := { b with loading := true }
  let event := .prefetchStarted b.tag b.current.remaining
  match b.spawner with
  | .inline =>
    let turn := started.finishPrefetch store
    { turn with events := event :: turn.events }
  | .detached =>
    let turn := started.finishPrefetch store
    { turn with outcome := .done (), events := event :: turn.events }
  | .dropping =>
    { outcome := .done (), buffer := started.dropPrefetch, store, events := [event],
      queued := false }
  | .queueing =>
    { outcome := .done (), buffer := started, store, events := [event], queued := true }

/-- Starts a prefetch if one is due. -/
def check (b : Buffer) (store : Store) : Turn Unit :=
  if b.wantsPrefetch then b.startPrefetch store
  else { outcome := .done (), buffer := b, store, events := [], queued := false }

/-- Issues an id after the current segment has run out: under the lock, from the current segment if
it has been replaced meanwhile, else from the staged one, else from one that the store yields while
the caller waits. -/
def nextWaiting (b : Buffer) (store : Store) : Turn UInt64 :=
  if b.poisoned then
    { outcome := .failed .lockPoisoned, buffer := b, store, events := [], queued := false }
  else
    match b.claim with
    | (some id, b) => { outcome := .done id, buffer := b, store, events := [], queued := false }
    | (none, b) =>
      match b.promote with
      | (some id, b, events) =>
        { outcome := .done id, buffer := b, store, events, queued := false }
      | (none, b, events) =>
        let (answer, store) := store.fetch b.tag
        let (outcome, buffer) := b.refill answer
        { outcome, buffer, store, events := events ++ [.fallback], queued := false }

/-- Issues an id. If the claim succeeds and the prefetch that it sets off panics in the caller, the
id is lost. -/
def next (b : Buffer) (store : Store) : Turn UInt64 :=
  match b.claim with
  | (some id, b) =>
    let turn := b.check store
    { turn with outcome := turn.outcome.map fun _ => id }
  | (none, b) => b.nextWaiting store

end Buffer

end IdIssuer

import IdIssuer.Session.Basic

/-!
# Many ids at a time

A batch takes a step that issues an id many times over, and notes after which of them the store had
been called. A race has several callers take their batches at once; it is settled here by letting
one caller finish before the next begins, which is one of the orders in which a race may go.
-/

namespace IdIssuer

/-- The results of a step taken many times. -/
structure Batch where
  results : List (Except BufferError UInt64)
  /-- The places at which the store was called, with the number of calls by then. -/
  callsAt : List (Nat × Nat)

namespace Batch

/-- The ids among the results. -/
def ids (b : Batch) : List UInt64 := b.results.filterMap fun
  | .ok id => some id
  | .error _ => none

end Batch

/-- What a number of callers got. -/
structure Race where
  /-- The ids of each caller, in the order in which they came. -/
  callers : List (List UInt64)

namespace Race

/-- All ids. -/
def ids (r : Race) : List UInt64 := r.callers.flatten

/-- The number of different ids. -/
def unique (r : Race) : Nat := r.ids.eraseDups.length

/-- The ids of every caller rise. -/
def isIncreasing (r : Race) : Bool :=
  r.callers.all fun ids => (ids.zip ids.tail).all fun (x, y) => x < y

end Race

namespace Session

/-- The reply to a step on a buffer or an allocator that does not exist. -/
def missing? (s : Session) : Step → Option Reply
  | .buffer name _ => if (s.buffer? name).isNone then some .noSuchBuffer else none
  | .allocator name _ => if (s.allocators.get? name).isNone then some .noSuchAllocator else none
  | _ => none

/-- Takes a step so many times more, the next of them at a given place. A reply that is neither an
id nor an error ends the batch. -/
def repeatStep (s : Session) (step : Step) (place : Nat) : Nat → Except Reply Batch × Session
  | 0 => (.ok ⟨[], []⟩, s)
  | n + 1 =>
    let before := s.pool.store.calls
    let (reply, s) := s.step step
    let after := s.pool.store.calls
    let note := if before = after then [] else [(place, after)]
    let more (result : Except BufferError UInt64) : Except Reply Batch × Session :=
      let (rest, s) := s.repeatStep step (place + 1) n
      (rest.map fun batch => ⟨result :: batch.results, note ++ batch.callsAt⟩, s)
    match reply with
    | .issued issue => more (.ok issue.id)
    | .failed error => more (.error error)
    | reply => (.error reply, s)

/-- Takes a step so many times. -/
def batch (s : Session) (step : Step) (n : Nat) : Except Reply Batch × Session :=
  match s.missing? step with
  | some reply => (.error reply, s)
  | none => s.repeatStep step 0 n

/-- Lets so many callers take a step so many times each. -/
def race (s : Session) (step : Step) (perCaller : Nat) : Nat → Except Reply Race × Session
  | 0 => (.ok ⟨[]⟩, s)
  | n + 1 =>
    match s.batch step perCaller with
    | (.error reply, s) => (.error reply, s)
    | (.ok batch, s) =>
      let (rest, s) := s.race step perCaller n
      (rest.map fun race => ⟨batch.ids :: race.callers⟩, s)

end Session

end IdIssuer

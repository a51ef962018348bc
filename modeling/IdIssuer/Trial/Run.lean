import IdIssuer.Allocator
import IdIssuer.Trial.Plan

/-!
# The run of a trial

The workers of a trial ask one allocator for ids, each of them for the tags in turn. In which order
their calls come, and when the prefetches run in between, is left to a schedule: `State.play` makes
its moves, and `State.finish` lets the workers finish one after another from wherever they stand, so
that every schedule leads to the end.
-/

namespace IdIssuer

namespace Trial

/-- Why a worker stopped. -/
inductive WorkerError where
  /-- No id was issued. -/
  | allocation (worker : Nat) (tag : String) (error : BufferError)
  /-- An id did not rise above the one before it. -/
  | notIncreasing (worker : Nat) (tag : String) (id last : UInt64)
  /-- The call never came back. -/
  | panicked
deriving Repr, DecidableEq

/-- A worker on its way. -/
structure Worker where
  /-- The number of ids it got. -/
  done : Nat
  /-- Its ids by tag, latest first. -/
  ids : Table (List UInt64)
  /-- Why it stopped, if it did. -/
  error : Option WorkerError

namespace Worker

/-- A worker that has not begun. -/
def new : Worker := ⟨0, .empty, none⟩

/-- The ids of a tag, latest first. -/
def idsOf (w : Worker) (tag : String) : List UInt64 := (w.ids.get? tag).getD []

/-- The worker after it got an id. -/
def take (w : Worker) (number : Nat) (tag : String) (id : UInt64) : Worker :=
  let refused := match w.idsOf tag with
    | last :: _ => if id ≤ last then some (.notIncreasing number tag id last) else none
    | [] => none
  match refused with
  | some error => { w with error := some error }
  | none => { w with done := w.done + 1, ids := w.ids.insert tag (id :: w.idsOf tag) }

end Worker

/-- A move of a schedule. -/
inductive Move where
  /-- A worker makes its next call. -/
  | call (worker : Nat)
  /-- One of the prefetches that wait is run. -/
  | prefetch (place : Nat)
deriving Repr, DecidableEq

/-- A trial on its way. -/
structure State where
  plan : Plan
  allocator : Allocator
  pool : Pool
  workers : List Worker

namespace State

/-- The tag that a worker asks for after so many ids. -/
def tagAt? (s : State) (done : Nat) : Option String := s.plan.tags[done % s.plan.tags.length]?

/-- The worker with a number, if it has calls to make. -/
def active? (s : State) (number : Nat) : Option Worker :=
  s.workers[number]?.filter fun w => w.error.isNone && w.done < s.plan.idsPerWorker.toNat

/-- A worker makes its next call; one that has stopped or finished makes none. -/
def call (s : State) (number : Nat) : State :=
  match s.active? number with
  | none => s
  | some w =>
    match s.tagAt? w.done with
    | none => s
    | some tag =>
      let (outcome, allocator, pool) := s.allocator.get tag s.pool
      let w := match outcome with
        | .done issue => w.take number tag issue.id
        | .failed error => { w with error := some (.allocation number tag error) }
        | .panicked _ => { w with error := some .panicked }
      { s with allocator, pool, workers := s.workers.set number w }

/-- Runs one of the prefetches that wait. -/
def prefetch (s : State) (place : Nat) : State := { s with pool := s.pool.runOne place }

/-- Makes one move. -/
def move (s : State) : Move → State
  | .call number => s.call number
  | .prefetch place => s.prefetch place

/-- Makes the moves of a schedule. -/
def play (s : State) (schedule : List Move) : State := schedule.foldl move s

/-- A worker makes so many calls, and every prefetch runs as soon as it is started. -/
def finishWorker (s : State) (number : Nat) : Nat → State
  | 0 => s
  | n + 1 => finishWorker ((s.call number).prefetch 0) number n

/-- The workers make the calls that they have left, one worker after another. -/
def finish (s : State) : State :=
  (List.range s.workers.length).foldl
    (fun s number => s.finishWorker number s.plan.idsPerWorker.toNat) s

end State

end Trial

end IdIssuer

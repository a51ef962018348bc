import IdIssuer.Buffer.Error
import IdIssuer.Config
import IdIssuer.Event
import IdIssuer.Store.Basic
import IdIssuer.Text.Quoted

/-!
# Buffers

A buffer issues the ids of one tag from the segment that it serves, its `current` one, and keeps a
slot for a segment that a prefetch has `staged`. This module has the state of a buffer and what
each part of an operation does to it: a claim, the promotion of the staged segment, and what a
prefetch or a waiting caller does with the store's answer. None of them calls the store.
-/

namespace IdIssuer

/-- What becomes of a prefetch that a buffer starts. -/
inductive Spawner where
  /-- It runs inside the call that started it. -/
  | inline
  /-- It runs by itself, and has ended before anyone looks again. -/
  | detached
  /-- It is dropped without being run. -/
  | dropping
  /-- It waits in a queue. -/
  | queueing
deriving Repr, DecidableEq

/-- A buffer for the ids of one tag. -/
structure Buffer where
  tag : String
  config : Config
  spawner : Spawner
  /-- The segment being served. -/
  current : Segment
  /-- The slot for the segment to be served next. -/
  staged : Option Segment
  /-- The slot is said to be filled. -/
  ready : Bool
  /-- A prefetch is under way. -/
  loading : Bool
  /-- A caller panicked while it held the lock of the slot, which nobody gets again. -/
  poisoned : Bool

namespace Buffer

/-- A buffer that serves its first segment. -/
def new (tag : String) (config : Config) (spawner : Spawner) (first : Segment) : Buffer :=
  { tag, config, spawner, current := first, staged := none, ready := false, loading := false,
    poisoned := false }

/-! ## Claims and promotion -/

/-- Claims an id from the segment being served. -/
def claim (b : Buffer) : Option UInt64 × Buffer :=
  (b.current.advance.1, { b with current := b.current.advance.2 })

/-- Makes a segment the one being served and claims its first id. -/
def serve (b : Buffer) (segment : Segment) : Option UInt64 × Buffer :=
  claim { b with current := segment }

/-- Empties the slot if it is said to be filled. A segment found there takes over if it starts no
lower than the one being served ends, and is dropped otherwise. -/
def promote (b : Buffer) : Option UInt64 × Buffer × List Event :=
  if b.ready then
    match b.staged with
    | none => (none, { b with ready := false }, [])
    | some segment =>
      let emptied := { b with ready := false, staged := none }
      if b.current.max ≤ segment.base then
        let (id, b') := emptied.serve segment
        (id, b', [.promoted segment.base segment.max])
      else (none, emptied, [.discarded segment.base b.current.max])
  else (none, b, [])

/-! ## Answers of the store -/

/-- What a caller who waited for the store gets, and what becomes of the buffer: a valid segment
takes over and the slot is emptied; an error leaves the buffer as it is; a panic poisons it. -/
def refill (b : Buffer) : Answer → Outcome UInt64 × Buffer
  | .panicked call => (.panicked call, { b with poisoned := true })
  | .failed error => (.failed (.allocation b.tag error), b)
  | .segment segment =>
    if segment.isValid then
      match { b with staged := none, ready := false }.serve segment with
      | (some id, b') => (.done id, b')
      | (none, b') => (.failed (.emptySegment b.tag), b')
    else (.failed (.invalidSegment b.tag segment.base segment.max), b)

/-- What a prefetch does with the store's answer: a valid segment goes into the slot if that is
free, and everything else is dropped. -/
def receive (b : Buffer) : Answer → Buffer × List Event
  | .panicked _ => (b, [])
  | .failed error => (b, [.prefetchFailed b.tag error])
  | .segment segment =>
    if segment.isValid then
      if b.poisoned then (b, [])
      else
        match b.staged with
        | some old => (b, [.slotTaken b.tag old.base segment.base segment.max])
        | none =>
          ({ b with staged := some segment, ready := true },
            [.staged b.tag segment.base segment.max])
    else (b, [.prefetchInvalid b.tag segment.base segment.max])

/-- A prefetch is due: no segment is staged, none is on its way, and what is left of the current
one has reached the low-water mark. -/
def wantsPrefetch (b : Buffer) : Bool :=
  !b.ready && !b.loading && b.current.remaining ≤ b.config.threshold b.current.step

theorem wantsPrefetch_iff (b : Buffer) :
    b.wantsPrefetch = true ↔
      b.ready = false ∧ b.loading = false ∧
        b.current.remaining ≤ b.config.threshold b.current.step := by
  rw [wantsPrefetch, Bool.and_eq_true, Bool.and_eq_true, Bool.not_eq_true', Bool.not_eq_true',
    decide_eq_true_eq, and_assoc]

/-! ## Handling the slot by hand -/

/-- Fills the slot with a segment, over one that may be there, and says so if `mark` holds; `none`
if the lock is poisoned. -/
def putStaged? (b : Buffer) (segment : Segment) (mark : Bool) : Option Buffer :=
  if b.poisoned then none
  else some { b with staged := some segment, ready := b.ready || mark }

/-- Says that the slot is filled. -/
def markReady (b : Buffer) : Buffer := { b with ready := true }

/-- What is in the slot; `none` if the lock is poisoned. -/
def staged? (b : Buffer) : Option (Option Segment) := if b.poisoned then none else some b.staged

/-- The buffer as a diagnostic shows it. -/
def describe (b : Buffer) : String :=
  s!"DoubleBuffer \x7b tag: {Quoted.encode b.tag}, next_ready: {b.ready}, " ++
    s!"loading: {b.loading}, config: {b.config.describe}, .. \x7d"

end Buffer

end IdIssuer

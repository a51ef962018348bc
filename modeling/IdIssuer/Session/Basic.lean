import IdIssuer.Session.Step

/-!
# Sessions

A session is a pool with names for some of its buffers and for the allocators over it.
`Session.step` takes one step, and `Session.run` a list of them. What happens is determined by the
steps, the script of the store, and the spawner.
-/

namespace IdIssuer

/-- Named buffers and allocators over one store. -/
structure Session where
  /-- What becomes of the prefetches of new buffers and allocators. -/
  spawner : Spawner
  pool : Pool
  /-- The buffers that have names. -/
  names : Table BufferId
  allocators : Table Allocator

namespace Session

/-- A session over a store, in which nothing has a name. -/
def new (spawner : Spawner) (store : Store) : Session := ⟨spawner, .new store, .empty, .empty⟩

/-- The buffer with a name. -/
def buffer? (s : Session) (name : String) : Option (BufferId × Buffer) :=
  (s.names.get? name).bind fun id => (s.pool.buffer? id).map (id, ·)

/-- Asks a buffer for something. -/
def bufferStep (s : Session) (id : BufferId) (b : Buffer) : BufferStep → Reply × Session
  | .next =>
    let (outcome, pool) := s.pool.next id b
    (.ofOutcome .issued outcome, { s with pool })
  | .check =>
    let turn := b.check s.pool.store
    (.ofOutcome (fun _ => .done) turn.outcome, { s with pool := s.pool.settle id turn })
  | .prefetch =>
    let turn := b.prefetch s.pool.store
    (.ofOutcome (fun _ => .done) turn.outcome, { s with pool := s.pool.settle id turn })
  | .snapshot => (.snapshot (.ok (some b.snapshot)), s)
  | .info => (.bufferInfo b, s)
  | .stage base max step mark =>
    match b.putStaged? (.new base max step) mark with
    | some b => (.done, { s with pool := s.pool.put id b })
    | none => (.slotLocked, s)
  | .markReady => (.done, { s with pool := s.pool.put id b.markReady })
  | .staged =>
    match b.staged? with
    | some segment => (.staged segment, s)
    | none => (.slotLocked, s)

/-- Asks an allocator for something. -/
def allocatorStep (s : Session) (name : String) (a : Allocator) : AllocatorStep → Reply × Session
  | .get tag =>
    let (outcome, a, pool) := a.get tag s.pool
    (.ofOutcome .issued outcome, { s with pool, allocators := s.allocators.insert name a })
  | .warmUp tag =>
    let (outcome, a, pool) := a.warmUp tag s.pool
    (.ofOutcome (fun _ => .done) outcome,
      { s with pool, allocators := s.allocators.insert name a })
  | .snapshot tag => (.snapshot (a.snapshot tag s.pool), s)
  | .tags =>
    match a.tags with
    | .ok tags => (.tags tags, s)
    | .error error => (.failed error, s)
  | .info => (.allocatorInfo a s.pool.store.calls, s)

/-- Creates a buffer and gives it a name. -/
def create (s : Session) (name tag : String) (config : Config) : Reply × Session :=
  match s.pool.create tag config s.spawner with
  | (.done (id, _), pool) => (.done, { s with pool, names := s.names.insert name id })
  | (.failed error, pool) => (.failed error, { s with pool })
  | (.panicked call, pool) => (.panicked call, { s with pool })

/-- Takes one step. -/
def step (s : Session) : Step → Reply × Session
  | .ledger request =>
    let (result, pool) := s.pool.answer request
    (.ofLedger result, { s with pool })
  | .fetch tag =>
    let (answer, pool) := s.pool.fetch tag
    (.ofAnswer answer, { s with pool })
  | .runQueue =>
    let (outcome, pool) := s.pool.runPending
    (.ofOutcome .ran outcome, { s with pool })
  | .dropQueue =>
    let (count, pool) := s.pool.dropPending
    (.dropped count, { s with pool })
  | .create name tag ratio =>
    match Config.ofRatio ratio with
    | .error error => (.ratioRefused error, s)
    | .ok config => s.create name tag config
  | .buffer name step =>
    match s.buffer? name with
    | none => (.noSuchBuffer, s)
    | some (id, b) => s.bufferStep id b step
  | .newAllocator name ratio standard =>
    match Config.ofRatio ratio with
    | .error error => (.ratioRefused error, s)
    | .ok config =>
      let a := if standard then .new .default .detached else .new config s.spawner
      (.done, { s with allocators := s.allocators.insert name a })
  | .allocator name step =>
    match s.allocators.get? name with
    | none => (.noSuchAllocator, s)
    | some a => s.allocatorStep name a step

/-- Takes steps in order. -/
def run (s : Session) : List Step → List Reply × Session
  | [] => ([], s)
  | step :: rest =>
    let (reply, s) := s.step step
    let (replies, s) := s.run rest
    (reply :: replies, s)

/-! ## Runs -/

theorem run_append (s : Session) (first second : List Step) :
    s.run (first ++ second) =
      ((s.run first).1 ++ ((s.run first).2.run second).1, ((s.run first).2.run second).2) := by
  induction first generalizing s with
  | nil => rfl
  | cons step rest ih => simp [run, ih]

end Session

end IdIssuer

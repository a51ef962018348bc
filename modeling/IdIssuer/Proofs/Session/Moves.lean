import IdIssuer.Proofs.Pool.Deed
import IdIssuer.Session.Basic

/-!
# Sessions as moves of a pool

Each step of a session comes down to a list of moves of its pool (`pool_step`), and a run to the
moves of its steps (`pool_run`). The ids that the replies of a run hand out are those of its deeds,
in the same order (`issues_eq`).
-/

namespace IdIssuer

open Pool

/-! ## The queue -/

namespace Pool

/-- The moves by which the prefetches in the queue are run: after one that panics, the others are
given up. -/
def runMoves (p : Pool) : List BufferId → List Move
  | [] => []
  | id :: rest =>
    .finish ::
      match p.buffer? id with
      | none => (p.play .finish).runMoves rest
      | some b =>
        match (b.finishPrefetch p.store).outcome with
        | .panicked _ => rest.map fun _ => .drop
        | _ => (p.play .finish).runMoves rest

theorem resolve_none {p : Pool} {id : BufferId} {rest : List BufferId} {op : Operation}
    (hp : p.pending = id :: rest) (hb : p.buffer? id = none) :
    p.resolve op = { p with pending := rest } := by
  have hb' : { p with pending := rest }.buffer? id = none := hb
  simp only [resolve, hp, operate, hb']

theorem resolve_some {p : Pool} {id : BufferId} {rest : List BufferId} {op : Operation} {b : Buffer}
    (hp : p.pending = id :: rest) (hb : p.buffer? id = some b) :
    p.resolve op = { p with pending := rest }.settle id (b.operate p.store op) := by
  have hb' : { p with pending := rest }.buffer? id = some b := hb
  simp only [resolve, hp, operate, hb']

theorem dropAll_eq (ids : List BufferId) :
    ∀ p : Pool, p.pending = ids →
      { p with pending := [] }.dropAll ids = p.plays (ids.map fun _ => .drop) := by
  induction ids with
  | nil =>
    intro p hp
    simp only [dropAll, List.foldl_nil, List.map_nil, plays_nil]
    rw [← hp]
  | cons id rest ih =>
    intro p hp
    rw [List.map_cons, plays_cons, dropAll, List.foldl_cons, ← dropAll]
    have hbuffer : { p with pending := [] }.buffer? id = p.buffer? id := rfl
    rw [hbuffer]
    cases hb : p.buffer? id with
    | none =>
      rw [play, resolve_none hp hb, ← ih _ rfl]
    | some b =>
      rw [play, resolve_some hp hb, ← ih _ rfl]
      rfl

theorem runAll_eq (ids : List BufferId) :
    ∀ p : Pool, p.pending = ids →
      ({ p with pending := [] }.runAll ids).2 = p.plays (p.runMoves ids) := by
  induction ids with
  | nil =>
    intro p hp
    simp only [runAll, runMoves, plays_nil]
    rw [← hp]
  | cons id rest ih =>
    intro p hp
    rw [runMoves, plays_cons, runAll]
    have hbuffer : { p with pending := [] }.buffer? id = p.buffer? id := rfl
    rw [hbuffer]
    cases hb : p.buffer? id with
    | none =>
      rw [play, resolve_none hp hb]
      exact ih { p with pending := rest } rfl
    | some b =>
      rw [play, resolve_some hp hb]
      let q := { p with pending := rest }.settle id (b.operate p.store .finish)
      dsimp only
      cases (b.finishPrefetch p.store).outcome with
      | panicked call => exact dropAll_eq rest q rfl
      | done _ | failed _ => exact ih q rfl

end Pool

/-! ## Steps -/

/-- What a step does to the buffer that it is addressed to. -/
def BufferStep.operation? : BufferStep → Option Operation
  | next => some .next
  | check => some .check
  | prefetch => some .prefetch
  | stage base max step mark => some (.put (.new base max step) mark)
  | markReady => some .mark
  | snapshot | info | staged => none

namespace Allocator

/-- The moves by which an allocator gets at the buffer of a tag. -/
def opening (a : Allocator) (tag : String) (p : Pool) : List Move :=
  if a.poisoned then []
  else
    match a.find? tag p with
    | some _ => []
    | none =>
      .create tag a.config a.spawner ::
        match (p.create tag a.config a.spawner).1 with
        | .done (id, _) => [.tell [.registered (a.buffers.insert tag id).size]]
        | _ => []

/-- The moves by which an allocator operates on the buffer of a tag. -/
def moves (a : Allocator) (tag : String) (p : Pool) (ops : List Operation) : List Move :=
  a.opening tag p ++
    match (a.buffer tag p).1 with
    | .done (id, _) => ops.map (.operate id)
    | _ => []

end Allocator

namespace Session

/-- A session over a ledger without rows. -/
def blank (spawner : Spawner) (script : Script) : Session := .new spawner (.new .empty script)

/-- The moves that a step comes down to. -/
def stepMoves (s : Session) : Step → List Move
  | .ledger request => [.request request]
  | .fetch tag => [.fetch tag]
  | .runQueue => s.pool.runMoves s.pool.pending
  | .dropQueue => s.pool.pending.map fun _ => .drop
  | .create _ tag ratio =>
    match Config.ofRatio ratio with
    | .error _ => []
    | .ok config => [.create tag config s.spawner]
  | .buffer name step =>
    match s.buffer? name with
    | none => []
    | some (id, _) => step.operation?.toList.map (.operate id)
  | .newAllocator .. => []
  | .allocator name step =>
    match s.allocators.get? name, step with
    | some a, .get tag => a.moves tag s.pool [.next]
    | some a, .warmUp tag => a.moves tag s.pool []
    | _, _ => []

/-- The moves of a run. -/
def moves (s : Session) : List Step → List Move
  | [] => []
  | step :: rest => s.stepMoves step ++ (s.step step).2.moves rest

/-- The deeds of a run. -/
def deeds (s : Session) (steps : List Step) : List Deed := s.pool.deeds (s.moves steps)

/-- The ids that are handed out in a run. -/
def issues (s : Session) (steps : List Step) : List Issue :=
  (s.run steps).1.filterMap Reply.issue?

end Session

/-! ## What the moves amount to -/

namespace Pool

/-- The move asks for an id. -/
def Move.asks : Move → Bool
  | operate _ .next => true
  | _ => false

variable {p : Pool} {move : Move} {id : BufferId} {b : Buffer}

theorem issue?_of_not_asks (h : move.asks = false) : (⟨p, move⟩ : Deed).issue? = none := by
  unfold Deed.issue?
  cases hop : move.operation? p with
  | none => rfl
  | some found =>
    obtain ⟨id, op⟩ := found
    have hne : op ≠ .next := by
      rintro rfl
      cases move with
      | operate id' op' =>
        cases hop
        cases h
      | finish | drop => simp [Move.operation?] at hop
      | request _ | fetch _ | create _ _ _ | tell _ => cases hop
    cases hb : p.buffer? id with
    | none => simp [hb]
    | some b => simp [hb, issued_operate_of_ne hne]

theorem issues_of_not_ask {moves : List Move} (h : ∀ move ∈ moves, move.asks = false) :
    (p.deeds moves).filterMap Deed.issue? = [] := by
  rw [List.filterMap_eq_nil_iff]
  intro d hd
  exact issue?_of_not_asks (h d.move (mem_moves_of_mem_deeds hd))

theorem eq_of_mem_runMoves (ids : List BufferId) :
    ∀ p : Pool, ∀ move ∈ p.runMoves ids, move = .finish ∨ move = .drop := by
  induction ids with
  | nil => exact fun _ _ h => absurd h List.not_mem_nil
  | cons id rest ih =>
    intro p move h
    rw [runMoves] at h
    rcases List.mem_cons.1 h with rfl | h
    · exact .inl rfl
    · split at h
      · exact ih _ _ h
      · split at h
        · obtain ⟨_, -, rfl⟩ := List.mem_map.1 h
          exact .inr rfl
        · exact ih _ _ h

theorem not_asks_runMoves (ids : List BufferId) (p : Pool) :
    ∀ move ∈ p.runMoves ids, move.asks = false := by
  intro move h
  rcases eq_of_mem_runMoves ids p move h with rfl | rfl <;> rfl

/-- Asking a buffer for an id is one move, and hands out what the reply says. -/
theorem next_eq (hb : p.buffer? id = some b) :
    (p.next id b).2 = p.plays [.operate id .next] ∧
      (p.deeds [.operate id .next]).filterMap Deed.issue? =
        (Reply.ofOutcome Reply.issued (p.next id b).1).issue?.toList := by
  constructor
  · simp only [plays_cons, plays_nil, play, operate, hb]
    rfl
  · simp only [deeds, List.filterMap_cons, List.filterMap_nil]
    rw [issue?_of_operation rfl hb]
    simp only [next, Buffer.operate]
    cases (b.next p.store).outcome <;> rfl

end Pool

namespace Allocator

variable {p : Pool} {a : Allocator} {tag : String}

theorem find?_eq_some {id : BufferId} {b : Buffer} (h : a.find? tag p = some (id, b)) :
    a.buffers.get? tag = some id ∧ p.buffer? id = some b := by
  obtain ⟨id', hid, h⟩ := Option.bind_eq_some_iff.1 h
  obtain ⟨b', hb, h⟩ := Option.map_eq_some_iff.1 h
  cases h
  exact ⟨hid, hb⟩

theorem buffer?_created {tag : String} {b : Buffer} (σ : Store) (pending : List BufferId)
    (log : List Event) :
    (⟨σ, p.buffers.insert tag (p.buffersOf tag ++ [b]), pending, log⟩ : Pool).buffer?
      ⟨tag, (p.buffersOf tag).length⟩ = some b := by
  simp [buffer?, buffersOf_insert]

theorem plays_opening (a : Allocator) (tag : String) (p : Pool) :
    p.plays (a.opening tag p) = (a.buffer tag p).2.2 := by
  unfold opening buffer
  by_cases hp : a.poisoned = true
  · simp only [hp, if_true]
    rfl
  · simp only [hp, Bool.false_eq_true, if_false]
    cases a.find? tag p with
    | some found => rfl
    | none =>
      simp only [plays_cons, play]
      generalize p.create tag a.config a.spawner = made
      obtain ⟨outcome, p'⟩ := made
      cases outcome <;> rfl

/-- The buffer that an allocator gets at is there. -/
theorem buffer?_buffer {id : BufferId} {b : Buffer} (h : (a.buffer tag p).1 = .done (id, b)) :
    (a.buffer tag p).2.2.buffer? id = some b := by
  unfold buffer at h ⊢
  by_cases hp : a.poisoned = true
  · simp [hp] at h
  simp only [hp, Bool.false_eq_true, if_false] at h ⊢
  cases hf : a.find? tag p with
  | some found =>
    rw [hf] at h
    cases h
    exact (find?_eq_some hf).2
  | none =>
    rw [hf] at h
    dsimp only at h ⊢
    rcases p.create_cases tag a.config a.spawner with ⟨g, log, -, -, hc⟩ | ⟨-, hnot, -⟩
    · rw [hc] at h ⊢
      cases h
      exact buffer?_created _ _ _
    · generalize p.create tag a.config a.spawner = made at h hnot
      obtain ⟨outcome, p'⟩ := made
      cases outcome with
      | done created => exact absurd rfl (hnot created)
      | failed error => cases h
      | panicked call => cases h

/-- Opening the buffer of a tag creates it if the tag has not been used, and tells so. -/
theorem opening_cases (a : Allocator) (tag : String) (p : Pool) :
    a.opening tag p = [] ∨
      a.poisoned = false ∧ a.find? tag p = none ∧ ∃ told : List (List Event),
        a.opening tag p = .create tag a.config a.spawner :: told.map .tell := by
  unfold opening
  cases hp : a.poisoned with
  | true => exact .inl (if_pos rfl)
  | false =>
    rw [if_neg Bool.false_ne_true]
    cases a.find? tag p with
    | some found => exact .inl rfl
    | none =>
      refine .inr ⟨rfl, rfl, ?_⟩
      cases (p.create tag a.config a.spawner).1 with
      | done created => exact ⟨[_], rfl⟩
      | failed _ | panicked _ => exact ⟨[], rfl⟩

theorem mem_opening {move : Move} (h : move ∈ a.opening tag p) :
    move = .create tag a.config a.spawner ∨ ∃ events, move = .tell events := by
  rcases a.opening_cases tag p with he | ⟨-, -, told, he⟩
  · rw [he] at h
    cases h
  · rw [he] at h
    rcases List.mem_cons.1 h with rfl | h
    · exact .inl rfl
    · obtain ⟨events, -, rfl⟩ := List.mem_map.1 h
      exact .inr ⟨events, rfl⟩

theorem not_asks_opening : ∀ move ∈ a.opening tag p, move.asks = false := by
  intro move h
  rcases mem_opening h with rfl | ⟨events, rfl⟩ <;> rfl

/-- Asking an allocator for an id opens the buffer of the tag, and asks that. -/
theorem get_eq (a : Allocator) (tag : String) (p : Pool) :
    (a.get tag p).2.2 = p.plays (a.moves tag p [.next]) ∧
      (p.deeds (a.moves tag p [.next])).filterMap Deed.issue? =
        (Reply.ofOutcome Reply.issued (a.get tag p).1).issue?.toList := by
  have hquiet : (p.deeds (a.opening tag p)).filterMap Deed.issue? = [] :=
    issues_of_not_ask not_asks_opening
  unfold moves
  rw [plays_append, Pool.deeds_append, List.filterMap_append, hquiet, plays_opening]
  unfold get
  have hbuffer (id b) := @buffer?_buffer p a tag id b
  generalize a.buffer tag p = opened at hbuffer ⊢
  obtain ⟨outcome, a', p'⟩ := opened
  cases outcome with
  | done found =>
    obtain ⟨id, b⟩ := found
    exact next_eq (hbuffer id b rfl)
  | failed error => exact ⟨rfl, rfl⟩
  | panicked call => exact ⟨rfl, rfl⟩

theorem warmUp_eq (a : Allocator) (tag : String) (p : Pool) :
    (a.warmUp tag p).2.2 = p.plays (a.moves tag p []) ∧
      (p.deeds (a.moves tag p [])).filterMap Deed.issue? = [] := by
  have hmoves : a.moves tag p [] = a.opening tag p := by
    unfold moves
    cases (a.buffer tag p).1 <;> exact List.append_nil _
  rw [hmoves, plays_opening]
  exact ⟨rfl, issues_of_not_ask not_asks_opening⟩

end Allocator

namespace Session

theorem buffer?_of_name {s : Session} {name : String} {id : BufferId} {b : Buffer}
    (h : s.buffer? name = some (id, b)) :
    s.names.get? name = some id ∧ s.pool.buffer? id = some b := by
  obtain ⟨id', hid, h⟩ := Option.bind_eq_some_iff.1 h
  obtain ⟨b', hb, h⟩ := Option.map_eq_some_iff.1 h
  cases h
  exact ⟨hid, hb⟩

/-- What is asked of a buffer is at most one operation on it. -/
theorem bufferStep_frame {s : Session} {id : BufferId} {b : Buffer}
    (hb : s.pool.buffer? id = some b) (step : BufferStep) :
    (s.bufferStep id b step).2 =
      { s with pool := step.operation?.elim s.pool (s.pool.operate id) } := by
  cases step with
  | next | check | prefetch | markReady =>
    simp only [bufferStep, BufferStep.operation?, Option.elim_some, operate_of_buffer? hb]
    rfl
  | stage base max step mark =>
    simp only [bufferStep, BufferStep.operation?, Option.elim_some, operate_of_buffer? hb,
      Buffer.operate]
    cases b.putStaged? (.new base max step) mark with
    | some b' => rfl
    | none => exact congrArg (fun pool => { s with pool }) (put_of_buffer? hb).symm
  | staged =>
    simp only [bufferStep]
    cases b.staged? <;> rfl
  | snapshot | info => rfl

theorem bufferStep_eq {s : Session} {id : BufferId} {b : Buffer} (step : BufferStep)
    (hb : s.pool.buffer? id = some b) :
    (s.bufferStep id b step).2.pool =
        s.pool.plays (step.operation?.toList.map (.operate id)) ∧
      (s.pool.deeds (step.operation?.toList.map (.operate id))).filterMap Deed.issue? =
        (s.bufferStep id b step).1.issue?.toList := by
  have hquiet (op : Operation) (hop : op ≠ .next) :
      (s.pool.deeds [.operate id op]).filterMap Deed.issue? = [] := by
    apply issues_of_not_ask
    intro move h
    rw [List.mem_singleton.1 h]
    cases op <;> first | rfl | exact absurd rfl hop
  have hsilent (outcome : Outcome Unit) :
      (Reply.ofOutcome (fun _ => .done) outcome).issue?.toList = [] := by cases outcome <;> rfl
  constructor
  · rw [bufferStep_frame hb]
    cases step.operation? <;> rfl
  cases step with
  | next => exact (next_eq hb).2
  | check => exact (hquiet .check (by decide)).trans (hsilent _).symm
  | prefetch => exact (hquiet .prefetch (by decide)).trans (hsilent _).symm
  | snapshot | info => rfl
  | stage base max step mark =>
    refine (hquiet (.put _ _) (by simp)).trans ?_
    simp only [bufferStep]
    cases b.putStaged? (.new base max step) mark <;> rfl
  | markReady => exact hquiet .mark (by decide)
  | staged =>
    simp only [bufferStep]
    cases b.staged? <;> rfl

/-- Creating a buffer touches the pool and the names. -/
theorem create_frame (s : Session) (name tag : String) (config : Config) :
    ∃ names, (s.create name tag config).2 =
      { s with pool := (s.pool.create tag config s.spawner).2, names } := by
  unfold create
  generalize s.pool.create tag config s.spawner = made
  obtain ⟨outcome, p⟩ := made
  cases outcome <;> exact ⟨_, rfl⟩

/-- A step leaves the pool where its moves lead, and replies with the id that they hand out. -/
theorem step_eq (s : Session) (step : Step) :
    (s.step step).2.pool = s.pool.plays (s.stepMoves step) ∧
      (s.pool.deeds (s.stepMoves step)).filterMap Deed.issue? =
        (s.step step).1.issue?.toList := by
  cases step with
  | ledger r =>
    refine ⟨rfl, ?_⟩
    simp only [stepMoves, Session.step]
    cases (s.pool.answer r).1 <;> rfl
  | fetch tag =>
    refine ⟨rfl, ?_⟩
    simp only [stepMoves, Session.step]
    cases (s.pool.fetch tag).1 <;> rfl
  | runQueue =>
    refine ⟨runAll_eq _ s.pool rfl, ?_⟩
    rw [stepMoves, issues_of_not_ask (not_asks_runMoves _ _)]
    simp only [Session.step]
    cases s.pool.runPending.1 <;> rfl
  | dropQueue =>
    refine ⟨dropAll_eq _ s.pool rfl, ?_⟩
    rw [stepMoves, issues_of_not_ask fun move h => by obtain ⟨_, -, rfl⟩ := List.mem_map.1 h; rfl]
    rfl
  | create name tag ratio =>
    simp only [stepMoves, Session.step]
    cases Config.ofRatio ratio with
    | error error => exact ⟨rfl, rfl⟩
    | ok config =>
      refine ⟨?_, ?_⟩
      · obtain ⟨names, he⟩ := s.create_frame name tag config
        dsimp only
        rw [he]
        rfl
      · rw [issues_of_not_ask (by simp [Move.asks])]
        simp only [create]
        generalize s.pool.create tag config s.spawner = made
        obtain ⟨outcome, p'⟩ := made
        cases outcome <;> rfl
  | buffer name step =>
    simp only [stepMoves, Session.step]
    cases hb : s.buffer? name with
    | none => exact ⟨rfl, rfl⟩
    | some found =>
      obtain ⟨id, b⟩ := found
      exact bufferStep_eq step (buffer?_of_name hb).2
  | newAllocator name ratio standard =>
    simp only [stepMoves, Session.step]
    cases Config.ofRatio ratio <;> exact ⟨rfl, rfl⟩
  | allocator name step =>
    simp only [stepMoves, Session.step]
    cases s.allocators.get? name with
    | none => cases step <;> exact ⟨rfl, rfl⟩
    | some a =>
      cases step with
      | get tag => exact a.get_eq tag s.pool
      | warmUp tag =>
        refine ⟨(a.warmUp_eq tag s.pool).1, (a.warmUp_eq tag s.pool).2.trans ?_⟩
        simp only [allocatorStep]
        cases (a.warmUp tag s.pool).1 <;> rfl
      | snapshot tag => exact ⟨rfl, rfl⟩
      | tags =>
        simp only [allocatorStep]
        cases a.tags <;> exact ⟨rfl, rfl⟩
      | info => exact ⟨rfl, rfl⟩

theorem pool_step (s : Session) (step : Step) :
    (s.step step).2.pool = s.pool.plays (s.stepMoves step) := (s.step_eq step).1

theorem pool_run (s : Session) (steps : List Step) :
    (s.run steps).2.pool = s.pool.plays (s.moves steps) := by
  induction steps generalizing s with
  | nil => rfl
  | cons step rest ih =>
    rw [moves, plays_append, ← pool_step]
    exact ih _

theorem issues_eq (s : Session) (steps : List Step) :
    s.issues steps = (s.deeds steps).filterMap Deed.issue? := by
  unfold deeds
  induction steps generalizing s with
  | nil => rfl
  | cons step rest ih =>
    rw [moves, deeds_append, List.filterMap_append, (s.step_eq step).2, ← pool_step,
      ← ih]
    simp only [issues, run]
    cases h : (s.step step).1.issue? <;> simp [h]

theorem moves_append (s : Session) (first second : List Step) :
    s.moves (first ++ second) = s.moves first ++ (s.run first).2.moves second := by
  induction first generalizing s with
  | nil => rfl
  | cons step rest ih => simp [moves, run, ih]

theorem deeds_append (s : Session) (first second : List Step) :
    s.deeds (first ++ second) = s.deeds first ++ (s.run first).2.deeds second := by
  rw [deeds, moves_append, Pool.deeds_append, ← pool_run]
  rfl

end Session

end IdIssuer

import IdIssuer.Buffer.Snapshot
import IdIssuer.Buffer.Turn

/-!
# Buffers over one store

A pool holds every buffer that was ever created over one store, the prefetches that wait to be run,
and a log of all events. A buffer is identified by its tag and its place among the buffers of that
tag, and keeps that identity whatever name it is known under; so what happens to other tags never
shifts it.
-/

namespace IdIssuer

/-- The identity of a buffer: its place among the buffers created for a tag. -/
structure BufferId where
  tag : String
  index : Nat
deriving Repr, DecidableEq

/-- An id, and the buffer that issued it. -/
structure Issue where
  buffer : BufferId
  id : UInt64
deriving Repr, DecidableEq

/-- The buffers over one store. -/
structure Pool where
  store : Store
  /-- The buffers of each tag, oldest first. -/
  buffers : Table (List Buffer)
  /-- The buffers whose prefetches wait to be run, in the order in which they were started. -/
  pending : List BufferId
  /-- All events so far, latest first. -/
  log : List Event

namespace Pool

/-- A pool without buffers. -/
def new (store : Store) : Pool := ⟨store, .empty, [], []⟩

/-- The buffers created for a tag, oldest first. -/
def buffersOf (p : Pool) (tag : String) : List Buffer := (p.buffers.get? tag).getD []

/-- The buffer with an identity. -/
def buffer? (p : Pool) (id : BufferId) : Option Buffer := (p.buffersOf id.tag)[id.index]?

/-- Puts a buffer in place of an older state of it. -/
def put (p : Pool) (id : BufferId) (b : Buffer) : Pool :=
  { p with buffers := p.buffers.insert id.tag ((p.buffersOf id.tag).set id.index b) }

/-- Adds events to the log. -/
def tell (p : Pool) (events : List Event) : Pool := { p with log := events.reverse ++ p.log }

/-- What an operation of a buffer leaves behind goes back to the pool. -/
def settle {α : Type} (p : Pool) (id : BufferId) (turn : Turn α) : Pool :=
  let p := (p.put id turn.buffer).tell turn.events
  { p with
    store := turn.store
    pending := if turn.queued then p.pending ++ [id] else p.pending }

/-- Asks the store itself for a segment. -/
def fetch (p : Pool) (tag : String) : Answer × Pool :=
  let (answer, store) := p.store.fetch tag
  (answer, { p with store })

/-- Answers a request to the store's ledger. -/
def answer (p : Pool) (request : Ledger.Request) : Except StoreError Ledger.Response × Pool :=
  let (result, store) := p.store.answer request
  (result, { p with store })

/-- Creates a buffer. -/
def create (p : Pool) (tag : String) (config : Config) (spawner : Spawner) :
    Outcome (BufferId × Buffer) × Pool :=
  let (outcome, store, events) := Buffer.create tag config spawner p.store
  let p := { p.tell events with store }
  match outcome with
  | .done b =>
    let old := p.buffersOf tag
    (.done (⟨tag, old.length⟩, b), { p with buffers := p.buffers.insert tag (old ++ [b]) })
  | .failed error => (.failed error, p)
  | .panicked call => (.panicked call, p)

/-- Issues an id from a buffer. -/
def next (p : Pool) (id : BufferId) (b : Buffer) : Outcome Issue × Pool :=
  let turn := b.next p.store
  (turn.outcome.map (⟨id, ·⟩), p.settle id turn)

/-! ## What a change leaves alone -/

theorem buffersOf_put (p : Pool) (id : BufferId) (b : Buffer) (tag : String) :
    (p.put id b).buffersOf tag =
      if id.tag = tag then (p.buffersOf tag).set id.index b else p.buffersOf tag := by
  unfold put buffersOf
  rw [Table.get?_insert]
  by_cases h : id.tag = tag
  · simp [h]
  · simp [h]

/-- Putting a buffer in place of an older state of it changes no other buffer. -/
theorem buffer?_put (p : Pool) (id : BufferId) (b : Buffer) (id' : BufferId) :
    (p.put id b).buffer? id' =
      if id = id' then (p.buffer? id).map fun _ => b else p.buffer? id' := by
  obtain ⟨tag, index⟩ := id
  obtain ⟨tag', index'⟩ := id'
  unfold buffer?
  rw [buffersOf_put]
  by_cases ht : tag = tag'
  · subst ht
    by_cases hi : index = index'
    · subst hi
      simp only [if_true, List.getElem?_set_self']
      rfl
    · simp [hi]
  · simp [ht]

/-- Putting a buffer where it is already changes nothing. -/
theorem put_of_buffer? {p : Pool} {id : BufferId} {b : Buffer} (h : p.buffer? id = some b) :
    p.put id b = p := by
  unfold buffer? buffersOf at h
  unfold put buffersOf
  cases hl : p.buffers.get? id.tag with
  | none => simp [hl] at h
  | some list =>
    rw [hl, Option.getD_some] at h
    obtain ⟨hi, rfl⟩ := List.getElem?_eq_some_iff.1 h
    rw [Option.getD_some, List.set_getElem_self, Table.insert_of_get? hl]

/-- What an operation leaves behind concerns its own buffer alone. -/
theorem buffer?_settle {α : Type} (p : Pool) (id : BufferId) (turn : Turn α) (id' : BufferId) :
    (p.settle id turn).buffer? id' =
      if id = id' then (p.buffer? id).map fun _ => turn.buffer else p.buffer? id' :=
  buffer?_put p id turn.buffer id'

/-! ## Prefetches that wait -/

/-- Gives up the prefetches of some buffers. -/
def dropAll (p : Pool) (ids : List BufferId) : Pool :=
  ids.foldl (fun p id =>
    match p.buffer? id with
    | some b => p.put id b.dropPrefetch
    | none => p) p

/-- Runs the prefetches of some buffers in order. One that panics ends the run, and those behind it
are given up. -/
def runAll (p : Pool) : List BufferId → Outcome Unit × Pool
  | [] => (.done (), p)
  | id :: rest =>
    match p.buffer? id with
    | none => p.runAll rest
    | some b =>
      let turn := b.finishPrefetch p.store
      let p := p.settle id turn
      match turn.outcome with
      | .panicked call => (.panicked call, p.dropAll rest)
      | _ => p.runAll rest

/-- Takes all prefetches that wait and runs them; the result is their number. -/
def runPending (p : Pool) : Outcome Nat × Pool :=
  let (outcome, p') := { p with pending := [] }.runAll p.pending
  (outcome.map fun _ => p.pending.length, p')

/-- Takes all prefetches that wait and gives them up; the result is their number. -/
def dropPending (p : Pool) : Nat × Pool :=
  (p.pending.length, { p with pending := [] }.dropAll p.pending)

/-- Takes one of the prefetches that wait and runs it; no effect if there are not so many. -/
def runOne (p : Pool) (place : Nat) : Pool :=
  match p.pending[place]? with
  | none => p
  | some id => ({ p with pending := p.pending.eraseIdx place }.runAll [id]).2

end Pool

end IdIssuer

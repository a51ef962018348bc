import IdIssuer.Pool
import IdIssuer.Proofs.Buffer.Operation
import IdIssuer.Proofs.Store.Grants

/-!
# Moves of a pool

Whatever happens to a pool is a list of moves, each of which makes a request to the ledger, reserves
a segment, creates a buffer, carries out one operation on one buffer, or tells events. A prefetch
that was queued is run or given up by a move that takes it from the head of the queue.

A `Deed` is a move together with the pool in which it is made. What is said about a run is read off
its deeds, and proved by `deeds_induction`.
-/

namespace IdIssuer

namespace Pool

inductive Move where
  | request (request : Ledger.Request)
  | fetch (tag : String)
  | create (tag : String) (config : Config) (spawner : Spawner)
  | operate (id : BufferId) (op : Operation)
  /-- Run the prefetch that has waited longest. -/
  | finish
  /-- Give up the prefetch that has waited longest. -/
  | drop
  | tell (events : List Event)

/-- Carries out an operation on a buffer, if it exists. -/
def operate (p : Pool) (id : BufferId) (op : Operation) : Pool :=
  match p.buffer? id with
  | some b => p.settle id (b.operate p.store op)
  | none => p

/-- Takes the prefetch that has waited longest from the queue, and does with it what `op` says. -/
def resolve (p : Pool) (op : Operation) : Pool :=
  match p.pending with
  | id :: rest => { p with pending := rest }.operate id op
  | [] => p

def play (p : Pool) : Move → Pool
  | .request r => (p.answer r).2
  | .fetch tag => (p.fetch tag).2
  | .create tag config spawner => (p.create tag config spawner).2
  | .operate id op => p.operate id op
  | .finish => p.resolve .finish
  | .drop => p.resolve .drop
  | .tell events => p.tell events

def plays (p : Pool) (moves : List Move) : Pool := moves.foldl play p

/-- The operation that a move carries out, and the buffer on which it does. -/
def Move.operation? (p : Pool) : Move → Option (BufferId × Operation)
  | .operate id op => some (id, op)
  | .finish => p.pending.head?.map (·, .finish)
  | .drop => p.pending.head?.map (·, .drop)
  | _ => none

/-- A move, and the pool in which it is made. -/
structure Deed where
  pool : Pool
  move : Move

def Deed.after (d : Deed) : Pool := d.pool.play d.move

/-- The deeds along a list of moves. -/
def deeds (p : Pool) : List Move → List Deed
  | [] => []
  | move :: rest => ⟨p, move⟩ :: (p.play move).deeds rest

variable {p : Pool}

/-! ## Runs -/

@[simp] theorem plays_nil (p : Pool) : p.plays [] = p := rfl

@[simp] theorem plays_cons (p : Pool) (move : Move) (rest : List Move) :
    p.plays (move :: rest) = (p.play move).plays rest := rfl

theorem plays_append (p : Pool) (first second : List Move) :
    p.plays (first ++ second) = (p.plays first).plays second := List.foldl_append

theorem deeds_append (p : Pool) (first second : List Move) :
    p.deeds (first ++ second) = p.deeds first ++ (p.plays first).deeds second := by
  induction first generalizing p with
  | nil => rfl
  | cons move rest ih => simp [deeds, ih]

theorem mem_moves_of_mem_deeds {moves : List Move} {d : Deed} (h : d ∈ p.deeds moves) :
    d.move ∈ moves := by
  induction moves generalizing p with
  | nil => cases h
  | cons move rest ih =>
    rcases List.mem_cons.1 h with rfl | h
    · exact List.mem_cons_self
    · exact List.mem_cons_of_mem _ (ih h)

theorem mem_of_snoc {deeds past : List Deed} {d : Deed} (h : past ++ [d] <+: deeds) : d ∈ deeds :=
  h.subset (List.mem_append_right _ List.mem_cons_self)

theorem exists_snoc_of_mem {deeds : List Deed} {d : Deed} (h : d ∈ deeds) :
    ∃ past, past ++ [d] <+: deeds := by
  obtain ⟨past, later, rfl⟩ := List.append_of_mem h
  exact ⟨past, later, List.append_assoc ..⟩

/-- What holds at the start and passes from each deed to the next holds at the end. -/
theorem deeds_induction {I : List Deed → Pool → Prop} {moves : List Move} (start : I [] p)
    (step : ∀ past d, past ++ [d] <+: p.deeds moves → I past d.pool → I (past ++ [d]) d.after) :
    I (p.deeds moves) (p.plays moves) := by
  have general : ∀ (rest : List Move) (past : List Deed) (q : Pool),
      past ++ q.deeds rest = p.deeds moves →
        I past q → I (past ++ q.deeds rest) (q.plays rest) := by
    intro rest
    induction rest with
    | nil =>
      intro past q _ hi
      rw [deeds, List.append_nil]
      exact hi
    | cons move rest ih =>
      intro past q he hi
      have hsplit : past ++ q.deeds (move :: rest) =
          (past ++ [⟨q, move⟩]) ++ (q.play move).deeds rest := by simp [deeds]
      rw [hsplit] at he ⊢
      exact ih _ _ he (step past ⟨q, move⟩ ⟨_, he⟩ hi)
  exact general moves [] p rfl start

/-- The deeds before one of them are those of the moves before it. -/
theorem eq_deeds_of_snoc {moves : List Move} {past : List Deed} {d : Deed}
    (h : past ++ [d] <+: p.deeds moves) :
    ∃ first, past = p.deeds first ∧ d.pool = p.plays first ∧ past <+: p.deeds moves := by
  refine have hpast := (List.prefix_append past [d]).trans h; ?_
  induction moves generalizing p past with
  | nil => simp [deeds] at h
  | cons move rest ih =>
    cases past with
    | nil =>
      rw [deeds, List.nil_append, List.cons_prefix_cons] at h
      exact ⟨[], rfl, by rw [h.1]; rfl, hpast⟩
    | cons head past =>
      rw [deeds, List.cons_append, List.cons_prefix_cons] at h
      obtain ⟨rfl, h⟩ := h
      obtain ⟨first, rfl, hd, -⟩ := ih h ((List.prefix_append past [d]).trans h)
      exact ⟨move :: first, rfl, hd, hpast⟩

/-- The deeds up to one of them are those of the moves up to it. -/
theorem eq_deeds_to {moves : List Move} {past : List Deed} {d : Deed}
    (h : past ++ [d] <+: p.deeds moves) :
    ∃ first, past ++ [d] = p.deeds first ∧ d.after = p.plays first := by
  obtain ⟨before, rfl, hpool, -⟩ := eq_deeds_of_snoc h
  refine ⟨before ++ [d.move], ?_, ?_⟩
  · rw [deeds_append, ← hpool]
    rfl
  · rw [plays_append, ← hpool]
    rfl

/-- What holds at the start and passes from each deed to the next holds before each deed. -/
theorem deeds_induction_before {I : List Deed → Pool → Prop} {moves : List Move} (start : I [] p)
    (step : ∀ past d, past ++ [d] <+: p.deeds moves → I past d.pool → I (past ++ [d]) d.after)
    {past : List Deed} {d : Deed} (h : past ++ [d] <+: p.deeds moves) : I past d.pool := by
  obtain ⟨first, rfl, hd, hpre⟩ := eq_deeds_of_snoc h
  rw [hd]
  exact deeds_induction start fun past' d' h' hi => step past' d' (h'.trans hpre) hi

/-! ## What one move does -/

theorem operate_of_buffer? {id : BufferId} {b : Buffer} (hb : p.buffer? id = some b)
    (op : Operation) : p.operate id op = p.settle id (b.operate p.store op) := by
  rw [operate, hb]

theorem play_of_operation {move : Move} {id : BufferId} {op : Operation} {b : Buffer}
    (h : move.operation? p = some (id, op)) (hb : p.buffer? id = some b) :
    ∃ pending, p.play move = { p with pending }.settle id (b.operate p.store op) ∧
      (pending = p.pending ∧ move = .operate id op ∨
        p.pending = id :: pending ∧ (op = .finish ∨ op = .drop)) := by
  cases move with
  | operate id' op' =>
    cases h
    exact ⟨p.pending, by simp [play, operate, hb], .inl ⟨rfl, rfl⟩⟩
  | finish | drop =>
    cases hp : p.pending with
    | nil => simp [Move.operation?, hp] at h
    | cons head rest =>
      simp only [Move.operation?, hp, List.head?_cons, Option.map_some, Option.some.injEq,
        Prod.mk.injEq] at h
      obtain ⟨rfl, rfl⟩ := h
      have hb' : { p with pending := rest }.buffer? head = some b := hb
      exact ⟨rest, by simp only [play, resolve, hp, operate, hb'], .inr ⟨rfl, by simp⟩⟩
  | request _ | fetch _ | create _ _ _ | tell _ => cases h

/-- A move that operates on a buffer that does not exist changes nothing but the queue. -/
theorem play_of_missing {move : Move} {id : BufferId} {op : Operation}
    (h : move.operation? p = some (id, op)) (hb : p.buffer? id = none) :
    ∃ pending, p.play move = { p with pending } ∧
      (pending = p.pending ∨ p.pending = id :: pending) := by
  cases move with
  | operate id' op' =>
    cases h
    exact ⟨p.pending, by simp [play, operate, hb], .inl rfl⟩
  | finish | drop =>
    cases hp : p.pending with
    | nil => simp [Move.operation?, hp] at h
    | cons head rest =>
      simp only [Move.operation?, hp, List.head?_cons, Option.map_some, Option.some.injEq,
        Prod.mk.injEq] at h
      obtain ⟨rfl, rfl⟩ := h
      have hb' : { p with pending := rest }.buffer? head = none := hb
      exact ⟨rest, by simp only [play, resolve, hp, operate, hb'], .inr rfl⟩
  | request _ | fetch _ | create _ _ _ | tell _ => cases h

end Pool

end IdIssuer

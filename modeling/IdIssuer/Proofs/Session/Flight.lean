import IdIssuer.Proofs.Pool.Flight
import IdIssuer.Proofs.Session.Client

/-!
# One prefetch at a time

Whatever is asked of a session, and whatever the store answers, a buffer that says that a prefetch
is under way has exactly one in the queue, and any other buffer has none. So the flag is never left
up: not by a prefetch that fails or panics, not by one that is given up behind another that
panicked, and not by one that does not get the lock of the slot. Without a queue, no buffer is found
with its flag up.
-/

namespace IdIssuer

open Pool

namespace Session

variable {s : Session} {step : Step} {d : Deed}

/-! ## Spawners -/

/-- No buffer that is created in the session queues its prefetches. -/
structure IsPrompt (s : Session) : Prop where
  spawner : s.spawner ≠ .queueing
  allocators : ∀ name a, s.allocators.get? name = some a → a.spawner ≠ .queueing

theorem spawner_step (s : Session) (step : Step) : (s.step step).2.spawner = s.spawner := by
  cases step with
  | ledger _ | fetch _ | runQueue | dropQueue => rfl
  | create name tag ratio =>
    simp only [Session.step]
    cases Config.ofRatio ratio with
    | error _ => rfl
    | ok config =>
      obtain ⟨names, he⟩ := s.create_frame name tag config
      dsimp only
      rw [he]
  | buffer name step =>
    simp only [Session.step]
    cases hb : s.buffer? name with
    | none => rfl
    | some found =>
      dsimp only
      rw [bufferStep_frame (buffer?_of_name hb).2]
  | newAllocator name ratio standard =>
    simp only [Session.step]
    cases Config.ofRatio ratio <;> rfl
  | allocator name use =>
    simp only [Session.step]
    cases s.allocators.get? name with
    | none => rfl
    | some a =>
      cases use with
      | get _ | warmUp _ | snapshot _ | info => rfl
      | tags =>
        simp only [allocatorStep]
        cases a.tags <;> rfl

theorem isPrompt_new {spawner : Spawner} {store : Store} (h : spawner ≠ .queueing) :
    (Session.new spawner store).IsPrompt :=
  ⟨h, fun name a ha => by cases (Table.get?_empty name).symm.trans ha⟩

theorem isPrompt_step (h : s.IsPrompt) (step : Step) : (s.step step).2.IsPrompt := by
  refine ⟨by rw [spawner_step]; exact h.spawner, fun name a' ha' => ?_⟩
  rcases allocator_after ha' with
    ⟨config, spawner, rfl, rfl | rfl⟩ | ⟨a, ha, rfl | ⟨use, tag, -, -, rfl⟩⟩
  · exact h.spawner
  · exact nofun
  · exact h.allocators name a' ha
  · obtain ⟨buffers, poisoned, he⟩ := a.buffer_frame tag s.pool
    rw [he]
    exact h.allocators name a ha

theorem isPrompt_run (h : s.IsPrompt) (steps : List Step) : (s.run steps).2.IsPrompt := by
  induction steps generalizing s with
  | nil => exact h
  | cons step rest ih => exact ih (isPrompt_step h step)

theorem not_createsQueueing_of_entails (h : s.IsPrompt) (hd : s.Entails step d) :
    d.move.createsQueueing = false := by
  cases hd with
  | create name tag ratio config => exact decide_eq_false h.spawner
  | @opening name step a tag ha ht hf => exact decide_eq_false (h.allocators name a ha)
  | request _ | fetch _ | finish | drop _ | operate _ _ | told | asked => rfl

/-! ## Runs -/

theorem single_flight (spawner : Spawner) (store : Store) (steps : List Step) :
    let p := ((Session.new spawner store).run steps).2.pool
    (∀ id b, p.buffer? id = some b →
      p.pending.count id ≤ 1 ∧ (b.loading = true ↔ p.pending.count id = 1)) ∧
    (∀ id ∈ p.pending, (p.buffer? id).isSome) ∧
    p.pending.length = p.everyBuffer.countP (·.loading) ∧
    (spawner ≠ .queueing → p.pending = [] ∧ ∀ b ∈ p.everyBuffer, b.loading = false) := by
  intro p
  let s := Session.new spawner store
  have queued : ∀ d ∈ s.deeds steps, d.move.skipsQueue = false := fun _ => not_skips_of_mem_deeds
  have hp : p = s.pool.plays (s.moves steps) := s.pool_run steps
  have waiting : p.IsWaiting := hp ▸ isWaiting_plays queued (isWaiting_new _)
  have counted : p.IsCounted := hp ▸ isCounted_plays queued (isWaiting_new _) rfl
  refine ⟨fun id b hb => ?_, fun id hid => ?_, counted, fun hspawner => ?_⟩
  · rw [waiting id, underWay_of_buffer? hb]
    cases b.loading <;> simp
  · have hcount := List.count_pos_iff.2 hid
    rw [waiting id] at hcount
    by_contra hnone
    rw [underWay_of_missing (by simpa using hnone)] at hcount
    exact absurd hcount (Nat.lt_irrefl 0)
  · have prompt : p.IsPrompt := by
      rw [hp]
      refine isPrompt_plays (fun d hd => ?_) ⟨nofun, rfl⟩
      obtain ⟨past, step, rest, -, hentails⟩ := entails_of_mem_deeds hd
      exact not_createsQueueing_of_entails (isPrompt_run (isPrompt_new hspawner) past) hentails
    refine ⟨prompt.pending, fun b hb => ?_⟩
    have hnone : p.everyBuffer.countP (·.loading) = 0 := by
      rw [← counted, prompt.pending, List.length_nil]
    simpa using List.countP_eq_zero.1 hnone b hb

def unwindingScript : Script := fun call => if 3 ≤ call then some .panic else none

def unwindingSteps : List Step :=
  [.ledger (.register "a" 0 1), .create "x" "a" none, .create "y" "a" none, .buffer "x" .next,
    .buffer "y" .next]

/-- With a queue, the prefetches of both buffers wait until the first of them panics, and then no
flag is up. Without one, both prefetches panic in their callers, and so does the caller who waits
for the store next; the buffer that this poisons is left with its flag down. -/
theorem single_flight_unwound :
    let waiting := ((blank .queueing unwindingScript).run unwindingSteps).2.pool
    let aborted := ((blank .queueing unwindingScript).run (unwindingSteps ++ [.runQueue])).2.pool
    let poisoned :=
      ((blank .inline unwindingScript).run (unwindingSteps ++ [.buffer "x" .next])).2.pool
    waiting.pending = [⟨"a", 0⟩, ⟨"a", 1⟩] ∧ waiting.everyBuffer.countP (·.loading) = 2 ∧
      aborted.everyBuffer.length = 2 ∧ aborted.everyBuffer.countP (·.loading) = 0 ∧
      poisoned.store.calls = 5 ∧ poisoned.everyBuffer.map (·.poisoned) = [true, false] ∧
      poisoned.pending = [] ∧ ∀ b ∈ poisoned.everyBuffer, b.loading = false := by
  intro waiting aborted poisoned
  have hwaiting : waiting.pending = [⟨"a", 0⟩, ⟨"a", 1⟩] := by decide +kernel
  have haborted : aborted.pending = [] := by decide +kernel
  obtain ⟨-, -, hcount, -⟩ := single_flight .queueing (.new .empty unwindingScript) unwindingSteps
  obtain ⟨-, -, hcount', -⟩ :=
    single_flight .queueing (.new .empty unwindingScript) (unwindingSteps ++ [.runQueue])
  obtain ⟨-, -, -, hprompt⟩ :=
    single_flight .inline (.new .empty unwindingScript) (unwindingSteps ++ [.buffer "x" .next])
  refine ⟨hwaiting, ?_, by decide +kernel, ?_, by decide +kernel, by decide +kernel,
    hprompt (by decide)⟩
  · exact hcount.symm.trans (congrArg List.length hwaiting)
  · exact hcount'.symm.trans (congrArg List.length haborted)

end Session

end IdIssuer

import IdIssuer.Proofs.Pool.Flight
import IdIssuer.Proofs.Session.Moves

/-!
# The deeds of a step

`Entails` lists the deeds that a step of a session may come down to, each with what is known of it.
No step ends a prefetch past the queue, and a buffer is created only where a step asks for it or an
allocator does not find the buffer of a tag that it is to use.
-/

namespace IdIssuer

open Pool

/-- The tag whose buffer an allocator is to use. -/
def AllocatorStep.uses? : AllocatorStep → Option String
  | get tag | warmUp tag => some tag
  | snapshot _ | tags | info => none

namespace Session

inductive Entails (s : Session) : Step → Deed → Prop where
  | request (r) : Entails s (.ledger r) ⟨s.pool, .request r⟩
  | fetch (t) : Entails s (.fetch t) ⟨s.pool, .fetch t⟩
  | finish {q} : Entails s .runQueue ⟨q, .finish⟩
  | drop {step q} (h : step = .runQueue ∨ step = .dropQueue) : Entails s step ⟨q, .drop⟩
  | create (name tag ratio config) :
    Entails s (.create name tag ratio) ⟨s.pool, .create tag config s.spawner⟩
  | operate {name step id b op} (hb : s.buffer? name = some (id, b))
    (hop : step.operation? = some op) : Entails s (.buffer name step) ⟨s.pool, .operate id op⟩
  | opening {name step a tag} (ha : s.allocators.get? name = some a) (ht : step.uses? = some tag)
    (hf : a.find? tag s.pool = none) :
    Entails s (.allocator name step) ⟨s.pool, .create tag a.config a.spawner⟩
  | told {name step q events} : Entails s (.allocator name step) ⟨q, .tell events⟩
  | asked {name tag q id} : Entails s (.allocator name (.get tag)) ⟨q, .operate id .next⟩

variable {s : Session} {step : Step} {d : Deed}

/-- The deeds by which an allocator operates on the buffer of a tag. -/
theorem entails_of_mem_allocator {name : String} {a : Allocator} {use : AllocatorStep}
    {tag : String} {ops : List Operation} (ha : s.allocators.get? name = some a)
    (ht : use.uses? = some tag) (hops : ∀ op ∈ ops, op = .next ∧ use = .get tag)
    (h : d ∈ s.pool.deeds (a.moves tag s.pool ops)) : s.Entails (.allocator name use) d := by
  rw [Allocator.moves, Pool.deeds_append] at h
  rcases List.mem_append.1 h with h | h
  · rcases a.opening_cases tag s.pool with he | ⟨-, hf, told, he⟩
    · rw [he] at h
      cases h
    · rw [he] at h
      rcases List.mem_cons.1 h with rfl | h
      · exact .opening ha ht hf
      · obtain ⟨q, move⟩ := d
        obtain ⟨events, -, rfl⟩ := List.mem_map.1 (mem_moves_of_mem_deeds h)
        exact .told
  · obtain ⟨q, move⟩ := d
    have hmove := mem_moves_of_mem_deeds h
    cases ho : (a.buffer tag s.pool).1 with
    | done found =>
      rw [ho] at hmove
      obtain ⟨op, hop, rfl⟩ := List.mem_map.1 hmove
      obtain ⟨rfl, rfl⟩ := hops op hop
      exact .asked
    | failed _ | panicked _ =>
      rw [ho] at hmove
      cases hmove

theorem entails_of_mem (h : d ∈ s.pool.deeds (s.stepMoves step)) : s.Entails step d := by
  obtain ⟨q, move⟩ := d
  cases step with
  | ledger r =>
    cases List.mem_singleton.1 h
    exact .request r
  | fetch t =>
    cases List.mem_singleton.1 h
    exact .fetch t
  | runQueue =>
    rcases eq_of_mem_runMoves _ _ _ (mem_moves_of_mem_deeds h) with rfl | rfl
    · exact .finish
    · exact .drop (.inl rfl)
  | dropQueue =>
    obtain ⟨_, -, rfl⟩ := List.mem_map.1 (mem_moves_of_mem_deeds h)
    exact .drop (.inr rfl)
  | create name tag ratio =>
    simp only [stepMoves] at h
    split at h
    · cases h
    · cases List.mem_singleton.1 h
      exact .create name tag ratio _
  | buffer name step =>
    simp only [stepMoves] at h
    split at h
    · cases h
    · next id b hb =>
      cases hop : step.operation? with
      | none =>
        rw [hop] at h
        cases h
      | some op =>
        rw [hop] at h
        cases List.mem_singleton.1 h
        exact .operate hb hop
  | newAllocator name ratio standard => cases h
  | allocator name step =>
    simp only [stepMoves] at h
    split at h
    · next a tag ha =>
      exact entails_of_mem_allocator ha rfl (fun op hop => ⟨List.mem_singleton.1 hop, rfl⟩) h
    · next a tag ha => exact entails_of_mem_allocator ha rfl (List.forall_mem_nil _) h
    · cases h

/-- No step ends a prefetch past the queue. -/
theorem Entails.not_skips (h : s.Entails step d) : d.move.skipsQueue = false := by
  cases h with
  | @operate name step id b op hb hop =>
    cases step <;> cases hop <;> rfl
  | _ => rfl

/-- A buffer is created where a step asks for it, or an allocator does not find it. -/
theorem Entails.creates {tag : String} (h : s.Entails step d) (hc : d.move.Creates tag) :
    (∃ name ratio, step = .create name tag ratio) ∨
      ∃ name use, step = .allocator name use ∧ use.uses? = some tag := by
  cases h with
  | create name t ratio config =>
    cases hc
    exact .inl ⟨name, ratio, rfl⟩
  | @opening name use a t ha ht hf =>
    cases hc
    exact .inr ⟨name, use, rfl, ht⟩
  | _ => cases hc

/-! ## Runs -/

/-- A deed of a run is one of a step in it, taken in the state that the steps before it lead to. -/
theorem step_of_mem_deeds {steps : List Step} (h : d ∈ s.deeds steps) :
    ∃ past step rest, steps = past ++ step :: rest ∧
      d ∈ (s.run past).2.pool.deeds ((s.run past).2.stepMoves step) := by
  induction steps generalizing s with
  | nil => cases h
  | cons step rest ih =>
    rw [deeds, moves, Pool.deeds_append, ← pool_step] at h
    rcases List.mem_append.1 h with h | h
    · exact ⟨[], step, rest, rfl, h⟩
    · obtain ⟨past, step', rest', rfl, hd⟩ := ih h
      exact ⟨step :: past, step', rest', rfl, hd⟩

theorem entails_of_mem_deeds {steps : List Step} (h : d ∈ s.deeds steps) :
    ∃ past step rest, steps = past ++ step :: rest ∧ (s.run past).2.Entails step d := by
  obtain ⟨past, step, rest, hsteps, hd⟩ := step_of_mem_deeds h
  exact ⟨past, step, rest, hsteps, entails_of_mem hd⟩

theorem not_skips_of_mem_deeds {steps : List Step} (h : d ∈ s.deeds steps) :
    d.move.skipsQueue = false := by
  obtain ⟨past, step, rest, -, hentails⟩ := entails_of_mem_deeds h
  exact hentails.not_skips

end Session

end IdIssuer

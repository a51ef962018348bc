import IdIssuer.Proofs.Allocator.Isolation
import IdIssuer.Proofs.Session.Allocators

/-!
# Who knows a buffer

Buffers are known under names and to allocators. Whoever asks for a new buffer is the first to know
it (`knows_step`), and nobody else ever gets to know it, so that no buffer has two holders
(`isSeparate_run`), and a buffer is operated on by its holder alone, but for the prefetches in the
queue (`knows_of_operation`).
-/

namespace IdIssuer

open Pool

/-- Whoever may know a buffer. -/
inductive Holder where
  /-- It has this name. -/
  | name (name : String)
  /-- The allocator with this name has it for some tag. -/
  | allocator (name : String)
deriving DecidableEq

/-- Who is given the buffer that a step may create. -/
def Step.holder? : Step → Option Holder
  | create name _ _ | buffer name _ => some (.name name)
  | allocator name _ => some (.allocator name)
  | ledger _ | fetch _ | runQueue | dropQueue | newAllocator .. => none

namespace Session

def Knows (s : Session) : Holder → BufferId → Prop
  | .name name, id => s.names.get? name = some id
  | .allocator name, id =>
    ∃ a tag, s.allocators.get? name = some a ∧ a.buffers.get? tag = some id

variable {s : Session} {step : Step} {name tag : String} {id : BufferId} {a a' : Allocator}
  {holder : Holder} {d : Deed}

/-! ## One step -/

/-- The buffer is new, and here now. -/
def Brings (s : Session) (step : Step) (id : BufferId) : Prop :=
  s.pool.buffer? id = none ∧ ((s.step step).2.pool.buffer? id).isSome

theorem brings_create {ratio : Option Float}
    (h : (s.step (.create name tag ratio)).2.names.get? name = some id) :
    s.names.get? name = some id ∨ s.Brings (.create name tag ratio) id := by
  unfold Brings
  simp only [Session.step] at h ⊢
  cases hc : Config.ofRatio ratio with
  | error _ =>
    rw [hc] at h
    exact .inl h
  | ok config =>
    rw [hc] at h
    simp only [create] at h ⊢
    rcases s.pool.create_cases tag config s.spawner with ⟨g, log, -, -, hmade⟩ | ⟨-, hnot, -⟩
    · rw [hmade] at h ⊢
      simp only [Table.get?_insert, if_true, Option.some.injEq] at h
      subst h
      refine .inr ⟨by simp [Pool.buffer?], ?_⟩
      simp only [Allocator.buffer?_created, Option.isSome_some]
    · generalize s.pool.create tag config s.spawner = made at h hnot
      obtain ⟨outcome, p⟩ := made
      cases outcome with
      | done created => exact absurd rfl (hnot created)
      | failed _ | panicked _ => exact .inl h

theorem get?_names_step (h : (s.step step).2.names.get? name = some id) :
    s.names.get? name = some id ∨ step.holder? = some (.name name) ∧ s.Brings step id := by
  cases step with
  | ledger _ | fetch _ | runQueue | dropQueue => exact .inl h
  | create name' tag ratio =>
    by_cases hn : name' = name
    · subst hn
      exact (brings_create h).imp_right fun hbrings => ⟨rfl, hbrings⟩
    · left
      simp only [Session.step] at h
      cases hc : Config.ofRatio ratio with
      | error _ => rwa [hc] at h
      | ok config =>
        rw [hc] at h
        simp only [create] at h
        generalize s.pool.create tag config s.spawner = made at h
        obtain ⟨outcome, p⟩ := made
        cases outcome with
        | done created => simpa [hn] using h
        | failed _ | panicked _ => exact h
  | buffer name' use =>
    left
    simp only [Session.step] at h
    cases hb : s.buffer? name' with
    | none => rwa [hb] at h
    | some found =>
      rw [hb] at h
      dsimp only at h
      rwa [bufferStep_frame (buffer?_of_name hb).2] at h
  | newAllocator name' ratio standard =>
    left
    simp only [Session.step] at h
    cases hc : Config.ofRatio ratio <;> rwa [hc] at h
  | allocator name' use =>
    left
    simp only [Session.step] at h
    cases ha : s.allocators.get? name' with
    | none => rwa [ha] at h
    | some a =>
      rw [ha] at h
      cases use with
      | get _ | warmUp _ | snapshot _ | info => exact h
      | tags =>
        simp only [allocatorStep] at h
        cases ht : a.tags <;> rwa [ht] at h

/-- A buffer gets known to whoever the step is taken for, and only when it is new. -/
theorem knows_step (h : (s.step step).2.Knows holder id) :
    s.Knows holder id ∨ step.holder? = some holder ∧ s.Brings step id := by
  cases holder with
  | name name => exact get?_names_step h
  | allocator name =>
    obtain ⟨a', tag, ha', hget⟩ := h
    rcases allocator_after ha' with
      ⟨config, spawner, rfl, -⟩ | ⟨a, ha, rfl | ⟨use, t, rfl, hu, rfl⟩⟩
    · cases (Table.get?_empty tag).symm.trans hget
    · exact .inl ⟨a', tag, ha, hget⟩
    · refine ((a.opened t s.pool).known hget).imp (fun hknown => ⟨a, tag, ha, hknown⟩)
        fun ⟨hnone, hsome⟩ => ⟨rfl, hnone, ?_⟩
      obtain ⟨moves, he, -⟩ := step_uses ha hu
      rw [he]
      exact isSome_buffer?_plays _ hsome

theorem isSome_buffer?_step (step : Step) (hb : (s.pool.buffer? id).isSome) :
    ((s.step step).2.pool.buffer? id).isSome := by
  rw [pool_step]
  exact isSome_buffer?_plays _ hb

theorem isFiled_step (h : ∀ name a, s.allocators.get? name = some a → a.IsFiled)
    (ha' : (s.step step).2.allocators.get? name = some a') : a'.IsFiled := by
  rcases allocator_after ha' with ⟨config, spawner, rfl, -⟩ | ⟨a, ha, rfl | ⟨use, t, -, -, rfl⟩⟩
  · exact Allocator.isFiled_new config spawner
  · exact h name a' ha
  · exact ((h name a ha).buffer t s.pool).1

/-! ## Runs -/

/-- Whatever buffer is known is there, and is known to one holder only, who has it for its tag. -/
structure IsSeparate (s : Session) : Prop where
  filed : ∀ name a, s.allocators.get? name = some a → a.IsFiled
  there : ∀ holder id, s.Knows holder id → (s.pool.buffer? id).isSome
  unique : ∀ holder holder' id, s.Knows holder id → s.Knows holder' id → holder = holder'

theorem isSeparate_new (spawner : Spawner) (store : Store) :
    (Session.new spawner store).IsSeparate := by
  have nobody (holder : Holder) (id : BufferId) :
      ¬ (Session.new spawner store).Knows holder id := by
    cases holder with
    | name name => exact fun h => by cases (Table.get?_empty name).symm.trans h
    | allocator name => exact fun ⟨a, _, ha, _⟩ => by cases (Table.get?_empty name).symm.trans ha
  refine ⟨fun name a ha => ?_, fun holder id h => absurd h (nobody holder id),
    fun holder _ id h => absurd h (nobody holder id)⟩
  cases (Table.get?_empty name).symm.trans ha

theorem isSeparate_step (h : s.IsSeparate) (step : Step) : (s.step step).2.IsSeparate := by
  refine ⟨fun _ _ => isFiled_step h.filed, fun holder id hknows => ?_,
    fun holder holder' id hknows hknows' => ?_⟩
  · rcases knows_step hknows with hknew | ⟨-, -, hsome⟩
    · exact isSome_buffer?_step step (h.there holder id hknew)
    · exact hsome
  · have fresh {holder} (hknew : s.Knows holder id) : s.pool.buffer? id ≠ none :=
      Option.isSome_iff_ne_none.1 (h.there holder id hknew)
    rcases knows_step hknows with hknew | ⟨hholder, hnone, -⟩ <;>
      rcases knows_step hknows' with hknew' | ⟨hholder', hnone', -⟩
    · exact h.unique holder holder' id hknew hknew'
    · exact absurd hnone' (fresh hknew)
    · exact absurd hnone (fresh hknew')
    · exact Option.some.inj (hholder.symm.trans hholder')

theorem isSeparate_run (h : s.IsSeparate) (steps : List Step) : (s.run steps).2.IsSeparate := by
  induction steps generalizing s with
  | nil => exact h
  | cons step rest ih => exact ih (isSeparate_step h step)

/-- Who knows a buffer that was there before has known it then. -/
theorem knows_before (steps : List Step) (hb : (s.pool.buffer? id).isSome)
    (h : (s.run steps).2.Knows holder id) : s.Knows holder id := by
  induction steps generalizing s with
  | nil => exact h
  | cons step rest ih =>
    refine (knows_step (ih (isSome_buffer?_step step hb) h)).resolve_right ?_
    rintro ⟨-, hnone, -⟩
    rw [hnone] at hb
    cases hb

/-! ## Operations on a buffer -/

/-- If an allocator operates on a buffer, it is the one that it gets at, and it asks it for an id.
-/
theorem get_of_mem {use : AllocatorStep} {op : Operation} (ha : s.allocators.get? name = some a)
    (h : d ∈ s.pool.deeds (s.stepMoves (.allocator name use))) (hop : d.move = .operate id op) :
    ∃ tag b, use = .get tag ∧ op = .next ∧ (a.buffer tag s.pool).1 = .done (id, b) ∧
      d.pool = (a.buffer tag s.pool).2.2 := by
  have of_moves {tag : String} {ops : List Operation}
      (h : d ∈ s.pool.deeds (a.moves tag s.pool ops)) :
      ∃ id b, (a.buffer tag s.pool).1 = .done (id, b) ∧
        d ∈ (a.buffer tag s.pool).2.2.deeds (ops.map (.operate id)) := by
    rw [Allocator.moves, Pool.deeds_append, Allocator.plays_opening] at h
    rcases List.mem_append.1 h with h | h
    · have hmove := mem_moves_of_mem_deeds h
      rw [hop] at hmove
      rcases Allocator.mem_opening hmove with he | ⟨events, he⟩ <;> cases he
    · cases hopened : (a.buffer tag s.pool).1 with
      | failed _ | panicked _ =>
        rw [hopened] at h
        cases h
      | done found =>
        rw [hopened] at h
        exact ⟨found.1, found.2, rfl, h⟩
  cases use with
  | get tag =>
    simp only [stepMoves, ha] at h
    obtain ⟨id', b, hopened, h⟩ := of_moves h
    cases List.mem_singleton.1 h
    cases hop
    exact ⟨tag, b, rfl, rfl, hopened, rfl⟩
  | warmUp tag =>
    simp only [stepMoves, ha] at h
    obtain ⟨_, _, -, h⟩ := of_moves h
    cases h
  | snapshot _ | tags | info =>
    simp only [stepMoves, ha] at h
    cases h

/-- Whoever a step is taken for knows the buffer that it operates on past the queue. -/
theorem knows_of_operation {op : Operation} (h : d ∈ s.pool.deeds (s.stepMoves step))
    (hop : d.move = .operate id op) :
    ∃ holder, step.holder? = some holder ∧ (s.step step).2.Knows holder id := by
  cases entails_of_mem h with
  | @operate name use id' b op' hb hop' =>
    cases hop
    refine ⟨.name name, rfl, ?_⟩
    have hknown := (buffer?_of_name hb).1
    simp only [Session.step, hb, bufferStep_frame (buffer?_of_name hb).2]
    exact hknown
  | @asked name tag q id' =>
    cases ha : s.allocators.get? name with
    | none =>
      simp only [stepMoves, ha] at h
      cases h
    | some a =>
      obtain ⟨t, b, ht, -, hopened, -⟩ := get_of_mem ha h hop
      cases ht
      obtain ⟨moves, he, -⟩ := step_uses ha (rfl : AllocatorStep.uses? (.get tag) = some tag)
      refine ⟨.allocator name, rfl, (a.buffer tag s.pool).2.1, tag, ?_,
        (a.opened tag s.pool).get?_buffers hopened⟩
      simp only [he, Table.get?_insert, if_true]
  | request _ | fetch _ | finish | drop _ | create _ _ _ _ | opening _ _ _ | told => cases hop

end Session

end IdIssuer

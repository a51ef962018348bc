import IdIssuer.Proofs.Allocator
import IdIssuer.Proofs.Pool.Counter
import IdIssuer.Proofs.Session.Allocators

/-!
# The only client of a tag

A tag may be left to one client, which is a buffer or an allocator: then no ids of the tag are
reserved past the client, no other buffer is created for it, and the slot of its buffer is not
handled by hand. `Client.Allows` says which steps keep to that; everything about other tags is
among them, and so are the steps that run or give up the prefetches in the queue. All deeds of the
run then leave the tag to one buffer (`exclusive_of_allowed`).
-/

namespace IdIssuer

open Pool

/-- Whoever asks for the ids of a tag: a buffer, or the allocator with a name. -/
inductive Client where
  | buffer
  | allocator (name : String)
deriving DecidableEq

/-- The step does not fill the slot by hand, and runs no prefetch that is not due. -/
def BufferStep.isPlain : BufferStep → Bool
  | prefetch | stage .. | markReady => false
  | next | check | snapshot | info | staged => true

namespace Client

/-- The step leaves the tag to the client. -/
def Allows (c : Client) (tag : String) (s : Session) : Step → Prop
  | .ledger r => r ≠ .fetch tag
  | .fetch t => t ≠ tag
  | .runQueue | .dropQueue => True
  | .create _ t _ => t = tag → c = buffer ∧ s.pool.buffersOf tag = []
  | .buffer name step =>
    match s.buffer? name with
    | some (id, _) => id.tag = tag → step.isPlain = true
    | none => True
  | .newAllocator name _ _ => c = allocator name → s.allocators.get? name = none
  | .allocator name step => step.uses? = some tag → c = allocator name

instance (c : Client) (tag : String) (s : Session) : DecidablePred (c.Allows tag s)
  | .ledger r => inferInstanceAs (Decidable (r ≠ .fetch tag))
  | .fetch t => inferInstanceAs (Decidable (t ≠ tag))
  | .runQueue | .dropQueue => .isTrue trivial
  | .create _ t _ =>
    inferInstanceAs (Decidable (t = tag → c = buffer ∧ s.pool.buffersOf tag = []))
  | .buffer name step =>
    match h : s.buffer? name with
    | some (id, _) =>
      decidable_of_iff (id.tag = tag → step.isPlain = true) (by simp only [Allows, h])
    | none => .isTrue (by simp only [Allows, h])
  | .newAllocator name _ _ =>
    inferInstanceAs (Decidable (c = allocator name → s.allocators.get? name = none))
  | .allocator name step =>
    inferInstanceAs (Decidable (step.uses? = some tag → c = allocator name))

/-- If the client is an allocator, the tag has no buffer but the one that it finds. -/
structure Serves (c : Client) (tag : String) (s : Session) : Prop where
  owns : ∀ name a, c = allocator name → s.allocators.get? name = some a → a.Owns tag s.pool
  absent : ∀ name, c = allocator name → s.allocators.get? name = none → s.pool.buffersOf tag = []

end Client

namespace Session

variable {c : Client} {tag : String} {s : Session} {step : Step}

/-! ## One step -/

theorem exclusive_of_entails {d : Deed} (h : c.Serves tag s) (allowed : c.Allows tag s step)
    (hd : s.Entails step d) : d.IsExclusive tag := by
  cases hd with
  | request r => exact allowed
  | fetch t => exact allowed
  | finish => trivial
  | drop _ => trivial
  | create name t ratio config => exact fun ht => (allowed ht).2
  | @operate name step id b op hb hop =>
    intro ht
    simp only [Client.Allows, hb] at allowed
    have hplain := allowed ht
    cases step with
    | next =>
      cases hop
      exact .inl rfl
    | check =>
      cases hop
      exact .inr rfl
    | prefetch | stage | markReady => cases hplain
    | snapshot | info | staged => cases hop
  | opening ha ht hf =>
    rintro rfl
    exact (h.owns _ _ (allowed ht) ha).buffersOf_nil hf
  | told => trivial
  | asked => exact fun _ => .inl rfl

/-- The client is an allocator, and goes on being the only one that finds a buffer of the tag. -/
theorem serves_of_same {s' : Session} {name : String} {moves : List Move}
    (h : Client.Serves (.allocator name) tag s) (hpool : s'.pool = s.pool.plays moves)
    (hsame : s'.allocators.get? name = s.allocators.get? name)
    (hquiet : ∀ d ∈ s.pool.deeds moves, ¬ d.move.Creates tag) :
    Client.Serves (.allocator name) tag s' := by
  refine ⟨fun name' a hname ha => ?_, fun name' hname ha => ?_⟩
  · cases hname
    rw [hsame] at ha
    rw [hpool]
    exact (h.owns name a rfl ha).plays hquiet
  · cases hname
    rw [hsame] at ha
    rw [hpool]
    exact buffersOf_nil_plays hquiet (h.absent name rfl ha)

theorem serves_of_owns {s' : Session} {name : String} {a : Allocator} (h : a.Owns tag s'.pool)
    (ha : s'.allocators.get? name = some a) : Client.Serves (.allocator name) tag s' := by
  refine ⟨fun name' a' hname ha' => ?_, fun name' hname ha' => ?_⟩
  · cases hname
    cases ha.symm.trans ha'
    exact h
  · cases hname
    cases ha.symm.trans ha'

theorem serves_allocator {name : String} (h : Client.Serves (.allocator name) tag s)
    (calm : s.pool.store.script.IsCalm) (use : AllocatorStep) :
    Client.Serves (.allocator name) tag (s.step (.allocator name use)).2 := by
  simp only [Session.step]
  cases ha : s.allocators.get? name with
  | none => exact h
  | some a =>
    have howns := h.owns name a rfl ha
    cases use with
    | get t => exact serves_of_owns (howns.get calm t) (by simp [allocatorStep])
    | warmUp t => exact serves_of_owns (howns.warmUp calm t) (by simp [allocatorStep])
    | snapshot t => exact h
    | tags =>
      simp only [allocatorStep]
      cases a.tags <;> exact h
    | info => exact h

theorem serves_newAllocator {name : String} (h : Client.Serves (.allocator name) tag s)
    (hnone : s.allocators.get? name = none) (ratio : Option Float) (standard : Bool) :
    Client.Serves (.allocator name) tag (s.step (.newAllocator name ratio standard)).2 := by
  have hb := h.absent name rfl hnone
  simp only [Session.step]
  cases Config.ofRatio ratio with
  | error _ => exact h
  | ok config =>
    dsimp only
    cases standard with
    | true => exact serves_of_owns (Allocator.owns_new .default .detached hb) (by simp)
    | false => exact serves_of_owns (Allocator.owns_new config s.spawner hb) (by simp)

theorem serves_step (h : c.Serves tag s) (allowed : c.Allows tag s step)
    (calm : s.pool.store.script.IsCalm) : c.Serves tag (s.step step).2 := by
  cases c with
  | buffer => exact ⟨by simp, by simp⟩
  | allocator name =>
    have still (hsame : (s.step step).2.allocators.get? name = s.allocators.get? name)
        (hother : ∀ use, step ≠ .allocator name use) :
        Client.Serves (.allocator name) tag (s.step step).2 := by
      refine serves_of_same h (s.pool_step step) hsame fun d hd hc => ?_
      rcases (entails_of_mem hd).creates hc with ⟨name', ratio, rfl⟩ | ⟨name', use, rfl, ht⟩
      · cases (allowed rfl).1
      · cases allowed ht
        exact hother use rfl
    rcases s.allocator_cases step name with
      ⟨ratio, standard, rfl⟩ | ⟨use, rfl⟩ | ⟨hother, hsame⟩
    · exact serves_newAllocator h (allowed rfl) ratio standard
    · exact serves_allocator h calm use
    · exact still hsame hother

/-! ## Runs -/

/-- Every step of a run is taken in a state that allows it. -/
def Along (P : Session → Step → Prop) (s : Session) : List Step → Prop
  | [] => True
  | step :: rest => P s step ∧ (s.step step).2.Along P rest

instance decidableAlong (P : Session → Step → Prop) [∀ s, DecidablePred (P s)] (s : Session) :
    (steps : List Step) → Decidable (s.Along P steps)
  | [] => .isTrue trivial
  | step :: rest =>
    have := decidableAlong P (s.step step).2 rest
    inferInstanceAs (Decidable (P s step ∧ (s.step step).2.Along P rest))

/-- Some step of a run is taken in a state as described. -/
def Meets (P : Session → Step → Prop) (s : Session) : List Step → Prop
  | [] => False
  | step :: rest => P s step ∨ (s.step step).2.Meets P rest

variable {P : Session → Step → Prop} {past rest steps : List Step}

theorem along_append :
    s.Along P (past ++ rest) ↔ s.Along P past ∧ (s.run past).2.Along P rest := by
  induction past generalizing s with
  | nil => exact ⟨fun h => ⟨trivial, h⟩, fun h => h.2⟩
  | cons step past ih =>
    simp only [List.cons_append, Along, run, ih]
    exact and_assoc.symm

theorem meets_of_append (h : P (s.run past).2 step) : s.Meets P (past ++ step :: rest) := by
  induction past generalizing s with
  | nil => exact .inl h
  | cons first past ih => exact .inr (ih h)

theorem script_run (s : Session) (steps : List Step) :
    (s.run steps).2.pool.store.script = s.pool.store.script := by
  rw [pool_run, script_plays]

theorem isCalm_step (calm : s.pool.store.script.IsCalm) (step : Step) :
    (s.step step).2.pool.store.script.IsCalm := by
  rw [pool_step, script_plays]
  exact calm

theorem serves_run (h : c.Serves tag s) (allowed : s.Along (c.Allows tag) steps)
    (calm : s.pool.store.script.IsCalm) : c.Serves tag (s.run steps).2 := by
  induction steps generalizing s with
  | nil => exact h
  | cons step rest ih =>
    exact ih (serves_step h allowed.1 calm) allowed.2 (isCalm_step calm step)

/-- All deeds of a run leave the tag to one buffer. -/
theorem exclusive_of_allowed (h : c.Serves tag s) (allowed : s.Along (c.Allows tag) steps)
    (calm : s.pool.store.script.IsCalm) : ∀ d ∈ s.deeds steps, d.IsExclusive tag := by
  intro d hd
  obtain ⟨past, step, rest, rfl, hentails⟩ := entails_of_mem_deeds hd
  obtain ⟨hpast, hstep, -⟩ := along_append.1 allowed
  exact exclusive_of_entails (serves_run h hpast calm) hstep hentails

end Session

end IdIssuer

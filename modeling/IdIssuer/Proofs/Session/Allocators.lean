import IdIssuer.Proofs.Allocator
import IdIssuer.Proofs.Session.Deeds

/-!
# What a step does to an allocator

A step puts an allocator in place under a name, or is addressed to it, or leaves it alone
(`allocator_cases`). An allocator that is to use a tag gets at the buffer of the tag (`step_uses`),
and that is all that ever changes it (`allocator_after`).
-/

namespace IdIssuer

open Pool

namespace Session

/-- The step does not put another allocator in the place of one. -/
def Retains (name : String) (s : Session) : Step → Prop
  | .newAllocator name' _ _ => name' = name → s.allocators.get? name = none
  | _ => True

instance (name : String) (s : Session) : DecidablePred (s.Retains name)
  | .newAllocator name' _ _ =>
    inferInstanceAs (Decidable (name' = name → s.allocators.get? name = none))
  | .ledger _ | .fetch _ | .runQueue | .dropQueue | .create .. | .buffer _ _ | .allocator _ _ =>
    .isTrue trivial

variable {s : Session} {step : Step} {name tag : String} {a a' : Allocator} {use : AllocatorStep}
  {id : BufferId} {b : Buffer}

theorem get?_allocators_step {name : String}
    (hn : ∀ ratio standard, step ≠ .newAllocator name ratio standard)
    (ha : ∀ use, step ≠ .allocator name use) :
    (s.step step).2.allocators.get? name = s.allocators.get? name := by
  cases step with
  | ledger _ | fetch _ | runQueue | dropQueue => rfl
  | create name' t ratio =>
    simp only [Session.step]
    cases Config.ofRatio ratio with
    | error _ => rfl
    | ok config =>
      obtain ⟨names, he⟩ := s.create_frame name' t config
      dsimp only
      rw [he]
  | buffer name' step =>
    simp only [Session.step]
    cases hb : s.buffer? name' with
    | none => rfl
    | some found =>
      dsimp only
      rw [bufferStep_frame (buffer?_of_name hb).2]
  | newAllocator name' ratio standard =>
    have hne : name' ≠ name := fun he => hn ratio standard (he ▸ rfl)
    simp only [Session.step]
    cases Config.ofRatio ratio with
    | error _ => rfl
    | ok config => simp [hne]
  | allocator name' use =>
    have hne : name' ≠ name := fun he => ha use (he ▸ rfl)
    simp only [Session.step]
    cases s.allocators.get? name' with
    | none => rfl
    | some a =>
      cases use with
      | get t | warmUp t => simp [allocatorStep, hne]
      | tags =>
        simp only [allocatorStep]
        cases a.tags <;> rfl
      | snapshot _ | info => rfl

/-- A step puts an allocator in place, or is addressed to it, or leaves it alone. -/
theorem allocator_cases (s : Session) (step : Step) (name : String) :
    (∃ ratio standard, step = .newAllocator name ratio standard) ∨
      (∃ use, step = .allocator name use) ∨
      (∀ use, step ≠ .allocator name use) ∧
        (s.step step).2.allocators.get? name = s.allocators.get? name := by
  by_cases hn : ∃ ratio standard, step = .newAllocator name ratio standard
  · exact .inl hn
  by_cases hu : ∃ use, step = .allocator name use
  · exact .inr (.inl hu)
  have hu' : ∀ use, step ≠ .allocator name use := fun use he => hu ⟨use, he⟩
  have hn' : ∀ ratio standard, step ≠ .newAllocator name ratio standard :=
    fun ratio standard he => hn ⟨ratio, standard, he⟩
  exact .inr (.inr ⟨hu', get?_allocators_step hn' hu'⟩)

theorem step_of_absent (ha : s.allocators.get? name = none) (use : AllocatorStep) :
    s.step (.allocator name use) = (.noSuchAllocator, s) := by
  simp only [Session.step, ha]

/-- An allocator that is asked about its buffers, but not to use any, leaves everything as it is. -/
theorem step_of_not_uses (hu : use.uses? = none) :
    (s.step (.allocator name use)).2 = s := by
  simp only [Session.step]
  cases s.allocators.get? name with
  | none => rfl
  | some a =>
    cases use with
    | get _ | warmUp _ => cases hu
    | snapshot _ | info => rfl
    | tags =>
      simp only [allocatorStep]
      cases a.tags <;> rfl

/-- An allocator that uses a tag gets at the buffer of the tag, and may ask that. -/
theorem step_uses (ha : s.allocators.get? name = some a)
    (hu : use.uses? = some tag) :
    ∃ moves, (s.step (.allocator name use)).2 =
      { s with
        pool := (a.buffer tag s.pool).2.2.plays moves
        allocators := s.allocators.insert name (a.buffer tag s.pool).2.1 } ∧
      ((∀ found, (a.buffer tag s.pool).1 ≠ .done found) → moves = []) := by
  simp only [Session.step, ha]
  cases use with
  | get t =>
    cases hu
    simp only [allocatorStep, Allocator.get_allocator, (a.get_eq tag s.pool).1, Allocator.moves,
      plays_append, Allocator.plays_opening]
    refine ⟨_, rfl, fun hnot => ?_⟩
    cases hopened : (a.buffer tag s.pool).1 with
    | done found => exact absurd hopened (hnot found)
    | failed _ | panicked _ => rfl
  | warmUp t =>
    cases hu
    exact ⟨[], rfl, fun _ => rfl⟩
  | snapshot _ | tags | info => cases hu

/-- An allocator that asks a buffer for an id replies what the buffer does. -/
theorem reply_get (ha : s.allocators.get? name = some a)
    (hopened : (a.buffer tag s.pool).1 = .done (id, b)) :
    (s.step (.allocator name (.get tag))).1 =
      .ofOutcome .issued ((b.next (a.buffer tag s.pool).2.2.store).outcome.map (⟨id, ·⟩)) := by
  simp only [Session.step, ha, allocatorStep, Allocator.get]
  generalize a.buffer tag s.pool = made at hopened ⊢
  obtain ⟨outcome, a', p⟩ := made
  cases hopened
  rfl

/-- An allocator that has just been put in place is new, if it is not the one that was there. -/
theorem get?_newAllocator {ratio : Option Float} {standard : Bool}
    (ha : (s.step (.newAllocator name ratio standard)).2.allocators.get? name = some a) :
    s.allocators.get? name = some a ∨
      ∃ config spawner, a = .new config spawner ∧ (spawner = s.spawner ∨ spawner = .detached) := by
  simp only [Session.step] at ha
  cases hc : Config.ofRatio ratio with
  | error _ =>
    rw [hc] at ha
    exact .inl ha
  | ok config =>
    rw [hc] at ha
    simp only [Table.get?_insert, if_true, Option.some.injEq] at ha
    rw [← ha]
    cases standard with
    | true => exact .inr ⟨_, _, rfl, .inr rfl⟩
    | false => exact .inr ⟨_, _, rfl, .inl rfl⟩

/-- An allocator is the one that was there before the step, as far as it has not been used, or it is
new. -/
theorem allocator_after (ha' : (s.step step).2.allocators.get? name = some a') :
    (∃ config spawner, a' = .new config spawner ∧ (spawner = s.spawner ∨ spawner = .detached)) ∨
      ∃ a, s.allocators.get? name = some a ∧ (a' = a ∨
        ∃ use tag, step = .allocator name use ∧ use.uses? = some tag ∧
          a' = (a.buffer tag s.pool).2.1) := by
  rcases s.allocator_cases step name with ⟨ratio, standard, rfl⟩ | ⟨use, rfl⟩ | ⟨-, hsame⟩
  · rcases get?_newAllocator ha' with ha | hnew
    · exact .inr ⟨a', ha, .inl rfl⟩
    · exact .inl hnew
  · right
    cases ha : s.allocators.get? name with
    | none =>
      rw [step_of_absent ha] at ha'
      cases ha.symm.trans ha'
    | some a =>
      refine ⟨a, rfl, ?_⟩
      cases hu : use.uses? with
      | none =>
        rw [step_of_not_uses hu] at ha'
        cases ha.symm.trans ha'
        exact .inl rfl
      | some tag =>
        obtain ⟨moves, he, -⟩ := step_uses ha hu
        simp only [he, Table.get?_insert, if_true, Option.some.injEq] at ha'
        exact .inr ⟨use, tag, rfl, hu, ha'.symm⟩
  · exact .inr ⟨a', hsame ▸ ha', .inl rfl⟩

/-- What is said of an allocator, and not of a new one, is said of it after a step if it was before,
or if the step has it use a tag and brings it about. -/
theorem shows_step {q : Allocator → Prop} {P : Step → Prop} (retains : s.Retains name step)
    (fresh : ∀ config spawner, ¬ q (.new config spawner))
    (addressed : P step → ∃ a use tag, s.allocators.get? name = some a ∧
      step = .allocator name use ∧ use.uses? = some tag)
    (used : ∀ a use tag, s.allocators.get? name = some a → step = .allocator name use →
      use.uses? = some tag → (q (a.buffer tag s.pool).2.1 ↔ q a ∨ P step)) :
    (∃ a, (s.step step).2.allocators.get? name = some a ∧ q a) ↔
      (∃ a, s.allocators.get? name = some a ∧ q a) ∨ P step := by
  have after {a : Allocator} {use : AllocatorStep} {tag : String}
      (ha : s.allocators.get? name = some a) (hstep : step = .allocator name use)
      (hu : use.uses? = some tag) (h : q a ∨ P step) :
      ∃ a, (s.step step).2.allocators.get? name = some a ∧ q a := by
    obtain ⟨moves, he, -⟩ := step_uses ha hu
    refine ⟨(a.buffer tag s.pool).2.1, ?_, (used a use tag ha hstep hu).2 h⟩
    simp only [hstep, he, Table.get?_insert, if_true]
  constructor
  · rintro ⟨a', ha', hq⟩
    rcases allocator_after ha' with
      ⟨config, spawner, rfl, -⟩ | ⟨a, ha, rfl | ⟨use, tag, hstep, hu, rfl⟩⟩
    · exact absurd hq (fresh config spawner)
    · exact .inl ⟨a', ha, hq⟩
    · exact ((used a use tag ha hstep hu).1 hq).imp_left fun hq => ⟨a, ha, hq⟩
  · rintro (⟨a, ha, hq⟩ | hP)
    · rcases s.allocator_cases step name with ⟨ratio, standard, rfl⟩ | ⟨use, rfl⟩ | ⟨-, hsame⟩
      · cases ha.symm.trans (retains rfl)
      · cases hu : use.uses? with
        | none => exact ⟨a, by rw [step_of_not_uses hu, ha], hq⟩
        | some tag => exact after ha rfl hu (.inl hq)
      · exact ⟨a, hsame.trans ha, hq⟩
    · obtain ⟨a, use, tag, ha, hstep, hu⟩ := addressed hP
      exact after ha hstep hu (.inr hP)

end Session

end IdIssuer

import IdIssuer.Proofs.Pool.Poison
import IdIssuer.Proofs.Session.Client
import IdIssuer.Proofs.Session.Holders

/-!
# How far a panic of the store reaches

A store that panics in the first use of a tag spoils the allocator for all tags: whatever it is
asked from then on is refused for the lock, and changes nothing. Nothing else has that effect
(`isSpoiled_run`). A panic in a call that waits for the store shuts the one tag, and a panic in a
prefetch shuts none: an allocator that is not spoiled refuses for the lock only an id of a tag of
which an earlier id was asked for and panicked while the caller waited (`faults_contained`).
-/

namespace IdIssuer

open Pool

/-- The reply says that a lock is poisoned. -/
def Reply.isLocked : Reply → Bool
  | failed .lockPoisoned | snapshot (.error .lockPoisoned) => true
  | _ => false

/-- How an allocator refuses what it is asked once its lock is poisoned. -/
def AllocatorStep.refusal : AllocatorStep → Reply
  | snapshot _ => .snapshot (.error .lockPoisoned)
  | get _ | warmUp _ | tags | info => .failed .lockPoisoned

namespace Session

/-- The allocator is to use a tag for the first time, and the store panics in the call that it makes
for that. -/
def FirstUsePanics (name : String) (s : Session) (step : Step) : Prop :=
  ∃ a use tag call, s.allocators.get? name = some a ∧ step = .allocator name use ∧
    use.uses? = some tag ∧ a.find? tag s.pool = none ∧
    (s.step step).2.pool.store.history = ⟨tag, .panicked call⟩ :: s.pool.store.history

/-- The allocator is asked for an id of a tag, and the store panics in the call that a buffer of the
tag waits for. -/
def FallbackPanics (name tag : String) (s : Session) (step : Step) : Prop :=
  step = .allocator name (.get tag) ∧ (∃ call, (s.step step).1 = .panicked call) ∧
    ∃ id, id.tag = tag ∧ ∃ d ∈ s.pool.deeds (s.stepMoves step), d.Unwinds id

/-- The lock of an allocator is poisoned. -/
def isSpoiled (name : String) (s : Session) : Bool := (s.allocators.get? name).any (·.poisoned)

variable {s : Session} {step : Step} {steps : List Step} {name tag : String} {a : Allocator}
  {use : AllocatorStep} {id : BufferId} {b : Buffer}

/-! ## What spoils an allocator -/

theorem isSpoiled_iff :
    s.isSpoiled name = true ↔ ∃ a, s.allocators.get? name = some a ∧ a.poisoned = true :=
  Option.any_eq_true _ _

/-- A tag that is used spoils the allocator just if it is used for the first time and the store
panics. -/
theorem poisoned_buffer (ha : s.allocators.get? name = some a) (hu : use.uses? = some tag) :
    (a.buffer tag s.pool).2.1.poisoned = true ↔
      a.poisoned = true ∨ s.FirstUsePanics name (.allocator name use) := by
  obtain ⟨moves, he, hmoves⟩ := step_uses ha hu
  -- A first use is seen by the call that stands next to the old ones in the history.
  have first : s.FirstUsePanics name (.allocator name use) ↔ a.find? tag s.pool = none ∧
      ∃ call, ((a.buffer tag s.pool).2.2.plays moves).store.history =
        ⟨tag, .panicked call⟩ :: s.pool.store.history := by
    constructor
    · rintro ⟨a', use', tag', call, ha', hstep, hu', hf, hhistory⟩
      cases ha.symm.trans ha'
      cases hstep
      cases hu.symm.trans hu'
      exact ⟨hf, call, by rw [← hhistory, he]⟩
    · rintro ⟨hf, call, hhistory⟩
      exact ⟨a, use, tag, call, ha, rfl, hu, hf, by rw [he, ← hhistory]⟩
  rw [first]
  have hgrows := Pool.history_grows (a.buffer tag s.pool).2.2 moves
  have hopened := a.opened tag s.pool
  generalize a.buffer tag s.pool = made at hopened hmoves hgrows ⊢
  have answered (hstore : made.2.2.store = (s.pool.store.fetch tag).2) {call : ℕ}
      (hhistory : (made.2.2.plays moves).store.history =
        ⟨tag, .panicked call⟩ :: s.pool.store.history) :
      (s.pool.store.fetch tag).1 = .panicked call := by
    rw [hstore, Store.history_fetch, hhistory] at hgrows
    have heq := hgrows.eq_of_length rfl
    injection heq with hhead
    injection hhead
  cases hopened with
  | locked hp => simp [hp]
  | found hp hf => simp [hp, hf]
  | created hp hf hg | invalid hp hf hg | refused hp hf hg =>
    simp only [hp, Bool.false_eq_true, false_or, false_iff, not_and, not_exists]
    intro _ call hhistory
    cases hg.symm.trans (answered rfl hhistory)
  | @unwound call hp hf hg =>
    simp only [hp, Bool.false_eq_true, false_or, true_iff]
    refine ⟨hf, call, ?_⟩
    rw [hmoves nofun, plays_nil, Store.history_fetch, hg]

theorem isSpoiled_step (retains : s.Retains name step) :
    (s.step step).2.isSpoiled name = true ↔
      s.isSpoiled name = true ∨ s.FirstUsePanics name step := by
  rw [isSpoiled_iff, isSpoiled_iff]
  refine shows_step (P := s.FirstUsePanics name) retains (fun _ _ => nofun) ?_ ?_
  · rintro ⟨a, use, tag, call, ha, hstep, hu, -⟩
    exact ⟨a, use, tag, ha, hstep, hu⟩
  · rintro a use tag ha rfl hu
    exact poisoned_buffer ha hu

/-- An allocator is spoiled by a first use that panics, and by nothing else. -/
theorem isSpoiled_run (retains : s.Along (Retains name) steps) :
    (s.run steps).2.isSpoiled name = true ↔
      s.isSpoiled name = true ∨ s.Meets (FirstUsePanics name) steps := by
  induction steps generalizing s with
  | nil => exact (or_iff_left id).symm
  | cons step rest ih =>
    exact (ih retains.2).trans ((or_congr_left (isSpoiled_step retains.1)).trans or_assoc)

/-! ## What a spoiled allocator answers -/

theorem step_of_poisoned (ha : s.allocators.get? name = some a) (hp : a.poisoned = true)
    (hu : use ≠ .info) : s.step (.allocator name use) = (use.refusal, s) := by
  have hsame : { s with allocators := s.allocators.insert name a } = s := by
    rw [Table.insert_of_get? ha]
  simp only [Session.step, ha]
  cases use with
  | get tag =>
    simp only [allocatorStep, Allocator.get, Allocator.buffer, hp, if_true, hsame]
    rfl
  | warmUp tag =>
    simp only [allocatorStep, Allocator.warmUp, Allocator.buffer, hp, if_true, hsame]
    rfl
  | snapshot tag =>
    simp only [allocatorStep, Allocator.snapshot, hp, if_true]
    rfl
  | tags =>
    simp only [allocatorStep, Allocator.tags, hp, if_true]
    rfl
  | info => exact absurd rfl hu

/-! ## What another allocator answers -/

theorem eq_lockPoisoned_of_isLocked {outcome : Outcome UInt64} {f : UInt64 → Issue}
    (h : (Reply.ofOutcome .issued (outcome.map f)).isLocked = true) :
    outcome = .failed .lockPoisoned := by
  cases outcome with
  | done _ | panicked _ => cases h
  | failed error =>
    cases error with
    | lockPoisoned => rfl
    | initialization _ _ | allocation _ _ | emptySegment _ | invalidSegment _ _ _ => cases h

/-- An allocator that is not spoiled refuses for the lock nothing but an id, and that only if the
lock of the tag's buffer is poisoned. -/
theorem poisonedAt_of_isLocked (ha : s.allocators.get? name = some a) (hp : a.poisoned = false)
    (locked : (s.step (.allocator name use)).1.isLocked = true) :
    ∃ tag id, use = .get tag ∧ a.buffers.get? tag = some id ∧ PoisonedAt id s.pool := by
  simp only [Session.step, ha] at locked
  cases use with
  | get tag =>
    simp only [allocatorStep, Allocator.get] at locked
    have hopened := a.opened tag s.pool
    generalize a.buffer tag s.pool = made at hopened locked
    cases hopened with
    | locked hpoisoned => cases hp.symm.trans hpoisoned
    | @found id b _ hf =>
      have hpoisoned := Buffer.poisoned_of_lockPoisoned (eq_lockPoisoned_of_isLocked locked)
      obtain ⟨hid, hb⟩ := Allocator.find?_eq_some hf
      exact ⟨tag, id, rfl, hid, b, hb, hpoisoned⟩
    | created =>
      have hpoisoned := Buffer.poisoned_of_lockPoisoned (eq_lockPoisoned_of_isLocked locked)
      cases hpoisoned
    | invalid | refused | unwound => cases locked
  | warmUp tag =>
    simp only [allocatorStep, Allocator.warmUp] at locked
    have hopened := a.opened tag s.pool
    generalize a.buffer tag s.pool = made at hopened locked
    cases hopened with
    | locked hpoisoned => cases hp.symm.trans hpoisoned
    | found | created | invalid | refused | unwound => cases locked
  | snapshot tag =>
    simp only [allocatorStep, Allocator.snapshot, hp] at locked
    cases locked
  | tags =>
    simp only [allocatorStep, Allocator.tags, hp] at locked
    cases locked
  | info => cases locked

/-- A buffer of an allocator whose lock is poisoned has been asked for an id by the allocator, and
the store has panicked while it waited. -/
theorem fallbackPanics_of_unwinds {d : Deed} {past rest : List Step}
    (hsep : (s.run past).2.IsSeparate)
    (hd : d ∈ (s.run past).2.pool.deeds ((s.run past).2.stepMoves step)) (hu : d.Unwinds id)
    (ha : (s.run (past ++ step :: rest)).2.allocators.get? name = some a)
    (hid : a.buffers.get? tag = some id) :
    FallbackPanics name tag (s.run past).2 step := by
  obtain ⟨turn, call, hnext, hevent, houtcome⟩ := hu
  obtain ⟨hop, b, hb, rfl⟩ := next?_eq_some hnext
  have hmove := eq_operate_of_next hop
  have hrun : (s.run (past ++ step :: rest)).2 = (((s.run past).2.step step).2.run rest).2 := by
    rw [run_append]
    rfl
  rw [hrun] at ha
  generalize (s.run past).2 = before at hd ha hsep
  have hafter := isSeparate_step hsep step
  -- Who asked then knows the buffer, and so does the allocator, since it knows it later.
  obtain ⟨holder, hholder, hknows⟩ := knows_of_operation hd hmove
  have hown : (before.step step).2.Knows (.allocator name) id :=
    knows_before rest (hafter.there _ _ hknows) ⟨a, tag, ha, hid⟩
  obtain rfl := hafter.unique _ _ _ hknows hown
  cases step with
  | allocator name' use =>
    cases hholder
    cases ha₀ : before.allocators.get? name with
    | none =>
      simp only [stepMoves, ha₀] at hd
      cases hd
    | some a₀ =>
      obtain ⟨t, b₀, rfl, -, hopened, hpool⟩ := get_of_mem ha₀ hd hmove
      obtain rfl : t = tag :=
        ((hsep.filed name a₀ ha₀).buffer t before.pool).2 id b₀ hopened ▸
          (isSeparate_run hafter rest).filed name a ha tag id hid
      rw [hpool] at hb houtcome
      cases hb.symm.trans (Allocator.buffer?_buffer hopened)
      refine ⟨rfl, ⟨call, ?_⟩, id, ?_, d, hd, _, call, hnext, hevent, ?_⟩
      · rw [reply_get ha₀ hopened, houtcome]
        rfl
      · exact ((hsep.filed name a₀ ha₀).buffer t before.pool).2 id b hopened
      · rw [hpool]
        exact houtcome
  | ledger _ | fetch _ | runQueue | dropQueue | create _ _ _ | buffer _ _ | newAllocator _ _ _ =>
    cases hholder

theorem faults_contained (spawner : Spawner) (store : Store) (steps : List Step) (name : String)
    (retains : (Session.new spawner store).Along (Retains name) steps) :
    let s := Session.new spawner store
    ∀ past use rest, steps = past ++ .allocator name use :: rest →
      (s.Meets (FirstUsePanics name) past → use ≠ .info →
        (s.run past).2.step (.allocator name use) = (use.refusal, (s.run past).2)) ∧
      (¬ s.Meets (FirstUsePanics name) past →
        ((s.run past).2.step (.allocator name use)).1.isLocked = true →
        ∃ tag, use = .get tag ∧ s.Meets (FallbackPanics name tag) past) := by
  intro s past use rest hsteps
  subst hsteps
  have hspoiled := isSpoiled_run (along_append.1 retains).1
  have hfresh : ¬ s.isSpoiled name = true := by
    rw [isSpoiled, show s.allocators.get? name = none from Table.get?_empty name, Option.any_none]
    exact Bool.false_ne_true
  rw [or_iff_right hfresh] at hspoiled
  rw [← hspoiled]
  cases ha : (s.run past).2.allocators.get? name with
  | none =>
    rw [step_of_absent ha, isSpoiled, ha]
    exact ⟨nofun, fun _ => nofun⟩
  | some a =>
    rw [isSpoiled, ha, Option.any_some]
    refine ⟨step_of_poisoned ha, fun hp locked => ?_⟩
    obtain ⟨tag, id, rfl, hid, hpoisoned⟩ :=
      poisonedAt_of_isLocked ha (Bool.not_eq_true _ ▸ hp) locked
    rw [pool_run] at hpoisoned
    obtain ⟨d, hd, hu⟩ := (poisonedAt_plays (p := s.pool) (buffer?_new store id) _).1 hpoisoned
    obtain ⟨first, step, later, rfl, hstep⟩ := step_of_mem_deeds hd
    have hsep := isSeparate_run (isSeparate_new spawner store) first
    exact ⟨tag, rfl, meets_of_append (fallbackPanics_of_unwinds hsep hstep hu ha hid)⟩

def faultyScript : Script := fun call =>
  [.give 0 1 1, .give 0 9 1, .panic, .panic, .panic][call - 1]?

def faultySteps : List Step :=
  [.newAllocator "z" none false, .allocator "z" (.get "a"), .allocator "z" (.get "b"),
    .allocator "z" (.get "a"), .runQueue, .allocator "z" (.get "a"), .allocator "z" (.get "b"),
    .allocator "z" (.warmUp "c"), .allocator "z" (.get "b")]

/-- The store panics while a caller waits for an id of one tag, in a prefetch, and in the first use
of a third tag. The first of these panics is behind what shuts the one tag, and the last behind what
shuts all. -/
theorem faults_contained_thrice :
    let s := blank .queueing faultyScript
    (s.run faultySteps).1.map Reply.isLocked =
      [false, false, false, false, false, true, false, false, true] ∧
    s.issues faultySteps = [⟨⟨"a", 0⟩, 1⟩, ⟨⟨"b", 0⟩, 1⟩, ⟨⟨"b", 0⟩, 2⟩] ∧
    s.Meets (FallbackPanics "z" "a") (faultySteps.take 5) ∧
    (s.run (faultySteps.take 8)).2.step (.allocator "z" (.get "b")) =
      (.failed .lockPoisoned, (s.run (faultySteps.take 8)).2) := by
  intro s
  have retains : s.Along (Retains "z") faultySteps := by decide +kernel
  have spoiled {past rest : List Step} (h : past ++ rest = faultySteps) :
      s.Meets (FirstUsePanics "z") past ↔ (s.run past).2.isSpoiled "z" = true := by
    rw [isSpoiled_run (along_append.1 (h ▸ retains)).1]
    exact (or_iff_right (by decide +kernel)).symm
  have hcontained :=
    faults_contained .queueing (.new .empty faultyScript) faultySteps "z" retains
  refine ⟨by decide +kernel, by decide +kernel, ?_, ?_⟩
  · have hnot : ¬ s.Meets (FirstUsePanics "z") (faultySteps.take 5) := by
      rw [spoiled (List.take_append_drop 5 faultySteps)]
      decide +kernel
    obtain ⟨tag, htag, hmeets⟩ := (hcontained (faultySteps.take 5) (.get "a") (faultySteps.drop 6)
      rfl).2 hnot (by decide +kernel)
    cases htag
    exact hmeets
  · have hmeets : s.Meets (FirstUsePanics "z") (faultySteps.take 8) := by
      rw [spoiled (List.take_append_drop 8 faultySteps)]
      decide +kernel
    exact (hcontained (faultySteps.take 8) (.get "b") [] rfl).1 hmeets nofun

end Session

end IdIssuer

import IdIssuer.Proofs.Pool.Steady
import IdIssuer.Proofs.Session.Deeds

/-!
# Failed calls are not without effect

A call of `next` that fails for want of a segment is meant to leave the buffer as it was. It does so
if nothing is staged, and not otherwise (`failed_next_spends`): what was staged has been taken out
of the slot by then.
-/

namespace IdIssuer

open Pool

/-- The error that a step is answered with, if a buffer or an allocator is to blame for it. -/
def Reply.error? : Reply → Option BufferError
  | failed error => some error
  | _ => none

/-- The step does not handle the slot of a buffer. -/
def Step.leavesSlots : Step → Bool
  | .buffer _ (.stage ..) | .buffer _ .markReady => false
  | _ => true

namespace Session

variable {s : Session} {step : Step} {d : Deed}

theorem not_handles_of_entails (h : s.Entails step d) (leaves : step.leavesSlots = true) :
    d.move.handles = false := by
  cases h with
  | @operate name use id b op hb hop => cases use <;> cases hop <;> first | rfl | cases leaves
  | request _ | fetch _ | finish | drop _ | create _ _ _ _ | opening _ _ _ | told | asked => rfl

/-- Steps that leave the slots alone come down to deeds that do. -/
theorem not_handles_of_leaves {steps : List Step}
    (leaves : ∀ step ∈ steps, step.leavesSlots = true) :
    ∀ d ∈ s.deeds steps, d.move.handles = false := by
  intro d hd
  obtain ⟨past, step, rest, rfl, hentails⟩ := entails_of_mem_deeds hd
  exact not_handles_of_entails hentails (leaves step (by simp))

/-- Asking a buffer for an id leaves its name with it, and shows an error if the call has failed. -/
theorem step_next {name : String} {id : BufferId} {b : Buffer}
    (hb : s.buffer? name = some (id, b)) :
    (s.step (.buffer name .next)).2.buffer? name = some (id, (b.next s.pool.store).buffer) ∧
      ∀ e, (s.step (.buffer name .next)).1.error? = some e →
        (b.next s.pool.store).outcome = .failed e := by
  obtain ⟨hid, hpool⟩ := buffer?_of_name hb
  constructor
  · simp only [Session.step, hb, bufferStep, Pool.next]
    simp only [Session.buffer?, hid, Option.bind_some, buffer?_settle, if_true, hpool,
      Option.map_some]
  · intro e h
    simp only [Session.step, hb, bufferStep, Pool.next] at h
    cases ho : (b.next s.pool.store).outcome with
    | done n => simp [ho, Outcome.map, Reply.ofOutcome, Reply.error?] at h
    | panicked call => simp [ho, Outcome.map, Reply.ofOutcome, Reply.error?] at h
    | failed error =>
      simp only [ho, Outcome.map, Reply.ofOutcome, Reply.error?, Option.some.injEq] at h
      rw [h]

theorem failed_next_spends (spawner : Spawner) (store : Store) (steps : List Step) (name : String)
    {id : BufferId} {b : Buffer} {e : BufferError}
    (leaves : ∀ step ∈ steps, step.leavesSlots = true)
    (few : calls id ((Session.new spawner store).deeds steps) < 2 ^ 62)
    (hb : ((Session.new spawner store).run steps).2.buffer? name = some (id, b))
    (failed : (((Session.new spawner store).run steps).2.step (.buffer name .next)).1.error? =
      some e)
    (he : e.installsNothing = true) :
    ∃ b', (((Session.new spawner store).run steps).2.step (.buffer name .next)).2.buffer? name =
        some (id, b') ∧
      b'.staged = none ∧ (b'.snapshot = b.snapshot ↔ b.staged = none) ∧ b.Spent b' := by
  let s := Session.new spawner store
  have hm : ∀ d ∈ s.deeds steps, d.move.handles = false := not_handles_of_leaves leaves
  have hpool : (s.run steps).2.pool.buffer? id = some b := (buffer?_of_name hb).2
  rw [pool_run] at hpool
  have room : b.HasRoom :=
    (sound_plays (isFair_of_not_handles hm) few (buffer?_new store id)).hasRoom few hpool
  have flagged : b.IsFlagged := flaggedAt_plays hm (buffer?_new store id) b hpool
  obtain ⟨hafter, houtcome⟩ := step_next hb
  have hspent := Buffer.next_of_failed room flagged (houtcome e failed) he
  exact ⟨_, hafter, hspent.staged, hspent.snapshot_iff flagged, hspent⟩

def emptyingScript : Script := fun call =>
  if call = 1 then some (.give 0 1 1) else if call = 2 then some (.give 1 1 1) else some .fail

def emptyingSteps : List Step := [.create "x" "a" none, .buffer "x" .next]

/-- A call that is refused a segment leaves neither the snapshot nor the slot as it was: the segment
in the slot, which holds no id, is served now. -/
theorem failed_next_spends_empty :
    let s := ((blank .inline emptyingScript).run emptyingSteps).2
    let s' := (s.step (.buffer "x" .next)).2
    (s.step (.buffer "x" .next)).1.error? = some (.allocation "a" (.injected 3)) ∧
      (s.buffer? "x").map (·.2.staged) = some (some (.new 1 1 1)) ∧
      (s.buffer? "x").map (·.2.snapshot) = some ⟨"a", 0, 1, 1, 1, true, false⟩ ∧
      (s'.buffer? "x").map (·.2.snapshot) = some ⟨"a", 1, 1, 1, 1, false, false⟩ ∧
      ∃ id b b', s.buffer? "x" = some (id, b) ∧ s'.buffer? "x" = some (id, b') ∧
        b'.staged = none ∧ (b'.snapshot = b.snapshot ↔ b.staged = none) ∧ b.Spent b' := by
  intro s s'
  have hfailed : (s.step (.buffer "x" .next)).1.error? = some (.allocation "a" (.injected 3)) := by
    decide +kernel
  have hsome : (s.buffer? "x").isSome = true := by decide +kernel
  obtain ⟨⟨id, b⟩, hb⟩ := Option.isSome_iff_exists.1 hsome
  have few : calls id ((blank .inline emptyingScript).deeds emptyingSteps) < 2 ^ 62 := by
    have hlength : ((blank .inline emptyingScript).deeds emptyingSteps).length < 2 ^ 62 := by
      decide +kernel
    exact Nat.lt_of_le_of_lt List.countP_le_length hlength
  obtain ⟨b', hb', hspent⟩ := failed_next_spends .inline (.new .empty emptyingScript) emptyingSteps
    "x" (by decide) few hb hfailed rfl
  exact ⟨hfailed, by decide +kernel, by decide +kernel, by decide +kernel, id, b, b', hb, hb',
    hspent⟩

end Session

end IdIssuer

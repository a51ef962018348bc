import IdIssuer.Proofs.Pool.Conservation
import IdIssuer.Proofs.Session.Client

/-!
# No id is lost

Any number of buffers and allocators may share a store whose calls may fail. As long as ids are
reserved through them only, and nobody handles a slot, the ids between the boundary with which a tag
was registered and the one that it has reached are in three places at any time: handed out, left to
claim from a segment that a buffer serves, or staged in a buffer; and no id is in two of them.
-/

namespace IdIssuer

open Pool

/-- The step reserves no ids past the buffers, handles no slot, and runs no prefetch that is not
due. -/
def Step.isPlain : Step → Bool
  | .ledger (.fetch _) | .fetch _ => false
  | .buffer _ step => step.isPlain
  | _ => true

namespace Session

variable {s : Session} {step : Step} {d : Deed}

theorem isOrderly_of_entails (h : s.Entails step d) (plain : step.isPlain = true) (tag : String) :
    d.IsOrderly tag := by
  cases h with
  | request r =>
    rintro rfl
    cases plain
  | fetch t => cases plain
  | @operate name step id b op hb hop =>
    intro _
    cases step with
    | next =>
      cases hop
      exact .inl rfl
    | check =>
      cases hop
      exact .inr rfl
    | prefetch | stage | markReady => cases plain
    | snapshot | info | staged => cases hop
  | asked => exact fun _ => .inl rfl
  | finish | drop _ | create _ _ _ _ | opening _ _ _ | told => trivial

theorem ids_conserved (spawner : Spawner) (script : Script) (steps : List Step) (tag : String)
    (m₀ : UInt64) (free : script.GivesNothing) (calm : script.IsCalm)
    (plain : ∀ step ∈ steps, step.isPlain = true)
    (registered : m₀ ∈ origins tag ((blank spawner script).deeds steps))
    (few : ∀ id : BufferId, id.tag = tag → calls id ((blank spawner script).deeds steps) < 2 ^ 62) :
    let s := blank spawner script
    let pool := (s.run steps).2.pool
    ∃ m, pool.store.ledger.boundary tag = .ok m ∧
      (idsOf tag (s.issues steps) ++ pool.unclaimed tag ++ pool.standby tag).Perm
        (Segment.between m₀ m) := by
  intro s pool
  have orderly : ∀ d ∈ s.deeds steps, d.IsOrderly tag := by
    intro d hd
    obtain ⟨past, step, rest, rfl, hentails⟩ := entails_of_mem_deeds hd
    exact isOrderly_of_entails hentails (plain step (by simp)) tag
  have hconserved : Conserved tag (s.deeds steps) (s.pool.plays (s.moves steps)) :=
    conserved_plays free calm orderly (fun _ => not_skips_of_mem_deeds) few
      (fun id _ => buffer?_new _ id) (isWaiting_new _) ⟨isFiled_new _, nofun, rfl, fun n => rfl⟩
  rw [issues_eq]
  simp only [pool, pool_run]
  exact hconserved.perm registered

def busyScript : Script := fun call => if call = 3 ∨ call = 6 then some .fail else none

def busySteps : List Step :=
  [.ledger (.register "a" 100 3), .ledger (.register "b" 0 5), .create "x" "a" none,
    .create "y" "a" none, .newAllocator "z" none false, .allocator "z" (.warmUp "a"),
    .allocator "z" (.warmUp "a"), .buffer "x" .next, .buffer "y" .next, .buffer "x" .next,
    .buffer "x" .next, .allocator "z" (.get "b"), .ledger (.setStep "a" 2), .runQueue,
    .buffer "y" .next, .buffer "y" .next, .buffer "x" .next, .buffer "x" .next, .dropQueue,
    .buffer "y" .next, .buffer "x" .check, .allocator "z" (.get "a"), .runQueue,
    .allocator "z" (.get "a")]

/-- Two buffers and an allocator draw on one tag, whose step changes on the way. A first use fails,
and so does a prefetch; another prefetch is given up, and one is staged and never used. -/
theorem ids_conserved_busy :
    let s := blank .queueing busyScript
    let pool := (s.run busySteps).2.pool
    idsOf "a" (s.issues busySteps) = [101, 104, 102, 103, 105, 106, 110, 111, 112, 107, 108] ∧
      pool.unclaimed "a" = [113, 109] ∧ pool.standby "a" = [114, 115] ∧
      ∃ m, pool.store.ledger.boundary "a" = .ok m ∧
        (idsOf "a" (s.issues busySteps) ++ pool.unclaimed "a" ++ pool.standby "a").Perm
          (Segment.between 100 m) := by
  have free : busyScript.GivesNothing := by
    intro call base max step
    unfold busyScript
    split_ifs <;> simp
  have calm : busyScript.IsCalm := by
    intro call
    unfold busyScript
    split_ifs <;> simp
  have registered : 100 ∈ origins "a" ((blank .queueing busyScript).deeds busySteps) := by
    decide +kernel
  have few (id : BufferId) (_ : id.tag = "a") :
      calls id ((blank .queueing busyScript).deeds busySteps) < 2 ^ 62 := by
    have hlength : ((blank .queueing busyScript).deeds busySteps).length < 2 ^ 62 := by
      decide +kernel
    exact Nat.lt_of_le_of_lt List.countP_le_length hlength
  refine ⟨by decide +kernel, by decide +kernel, by decide +kernel, ?_⟩
  exact ids_conserved .queueing busyScript busySteps "a" 100 free calm (by decide) registered few

end Session

end IdIssuer

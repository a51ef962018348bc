import IdIssuer.Proofs.Pool.Order
import IdIssuer.Proofs.Session.Moves

/-!
# The ids of a buffer rise

Every id that a buffer hands out is greater than all before it, as long as the store yields valid
segments of the tag, none of which starts below the end of an earlier one. It may fail or panic in
between, segments may go to others, and the slot of the buffer may be filled at any time with any
segment yielded so far, with those already served among them.
-/

namespace IdIssuer

open Pool

namespace Session

theorem ids_increasing (spawner : Spawner) (store : Store) (steps : List Step) (id : BufferId)
    (honest : IsHonest (yields id.tag ((Session.new spawner store).deeds steps)))
    (staged : StagesYielded id ((Session.new spawner store).deeds steps))
    (few : calls id ((Session.new spawner store).deeds steps) < 2 ^ 62) :
    (idsBy id ((Session.new spawner store).issues steps)).Pairwise (· < ·) := by
  rw [issues_eq]
  exact (rising_plays honest staged few (isFiled_new store) (buffer?_new store id)).sorted

def gapScript : Script := fun call =>
  [.give 0 3 3, .give 5 5 3, .fail, .give 7 9 2, .panic, .give 20 23 3][call - 1]?

def restagingSteps : List Step :=
  [.create "x" "a" none, .buffer "x" .next, .buffer "x" (.stage 0 3 3 true), .buffer "x" .next,
    .fetch "a", .buffer "x" .next, .buffer "x" .next, .buffer "x" .next,
    .buffer "x" (.stage 5 5 3 true), .buffer "x" .next, .fetch "a", .buffer "x" .next,
    .buffer "x" (.stage 0 3 3 false), .buffer "x" .markReady, .buffer "x" .next,
    .buffer "x" .next, .buffer "x" .next]

/-- The store leaves gaps, yields an empty segment, fails and panics, and segments that are stale
are staged over and over. -/
theorem ids_increasing_restaged :
    idsBy ⟨"a", 0⟩ ((Session.new .queueing (.new .empty gapScript)).issues restagingSteps) =
      [1, 2, 3, 8, 9, 21, 22, 23] ∧
    (idsBy ⟨"a", 0⟩ ((Session.new .queueing (.new .empty gapScript)).issues
      restagingSteps)).Pairwise (· < ·) := by
  refine ⟨by decide +kernel, ids_increasing .queueing (.new .empty gapScript) restagingSteps
    ⟨"a", 0⟩ ⟨?_, ?_⟩ ?_ ?_⟩
  · decide +kernel
  · decide +kernel
  · decide +kernel
  · decide +kernel

end Session

end IdIssuer

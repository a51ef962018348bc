import IdIssuer.Proofs.Pool.Ownership
import IdIssuer.Proofs.Session.Moves

/-!
# Ids are unique

Any number of buffers and allocators may share a store: no id of a tag is handed out twice, and all
of them lie above the boundary with which the tag was registered and not above the one that it has
reached. Calls of the store may fail or panic, prefetches may run at any time or never, and
segments that the store has lent may be staged by hand, each of them once.
-/

namespace IdIssuer

open Pool

namespace Session

theorem ids_unique (spawner : Spawner) (script : Script) (steps : List Step) (tag : String)
    (free : script.GivesNothing)
    (repaid : (puts tag ((blank spawner script).deeds steps)).Subperm
      (loans tag ((blank spawner script).deeds steps)))
    (few : ∀ id : BufferId, id.tag = tag → calls id ((blank spawner script).deeds steps) < 2 ^ 62) :
    (idsOf tag ((blank spawner script).issues steps)).Nodup ∧
      ∀ n ∈ idsOf tag ((blank spawner script).issues steps), ∃ origin boundary,
        origins tag ((blank spawner script).deeds steps) = [origin] ∧
        ((blank spawner script).run steps).2.pool.store.ledger.boundary tag = .ok boundary ∧
        origin < n ∧ n ≤ boundary := by
  have haccounts := accounts_plays free repaid few
  rw [issues_eq, pool_run]
  exact ⟨haccounts.nodup repaid, fun n hn => haccounts.bounds repaid hn⟩

def sharedScript : Script := fun call =>
  if call = 2 then some .fail else if call = 5 then some .panic else none

def sharedSteps : List Step :=
  [.ledger (.register "a" 100 3), .create "x" "a" none, .create "y" "a" none,
    .create "y" "a" none, .fetch "a", .buffer "x" .next, .buffer "x" .next, .buffer "x" .next,
    .buffer "x" (.stage 106 109 3 true), .buffer "x" .next, .runQueue, .buffer "y" .next,
    .newAllocator "z" none false, .allocator "z" (.get "a")]

/-- Two buffers and an allocator share a store whose second call fails and whose fifth panics. The
segment that the fourth call lends is staged by hand in the first buffer, whose own prefetch is the
one that panics. -/
theorem ids_unique_shared :
    idsOf "a" ((blank .queueing sharedScript).issues sharedSteps) =
      [101, 102, 103, 107, 104, 110] ∧
    (idsOf "a" ((blank .queueing sharedScript).issues sharedSteps)).Nodup ∧
      ∀ n ∈ idsOf "a" ((blank .queueing sharedScript).issues sharedSteps), ∃ origin boundary,
        origins "a" ((blank .queueing sharedScript).deeds sharedSteps) = [origin] ∧
        ((blank .queueing sharedScript).run sharedSteps).2.pool.store.ledger.boundary "a" =
          .ok boundary ∧
        origin < n ∧ n ≤ boundary := by
  refine ⟨by decide +kernel, ids_unique .queueing sharedScript sharedSteps "a" ?_ ?_ ?_⟩
  · intro call base max step
    unfold sharedScript
    split_ifs <;> simp
  · decide +kernel
  · intro id _
    have hlength : ((blank .queueing sharedScript).deeds sharedSteps).length < 2 ^ 62 := by
      decide +kernel
    exact Nat.lt_of_le_of_lt List.countP_le_length hlength

end Session

end IdIssuer

import IdIssuer.Proofs.Pool.Coherence
import IdIssuer.Proofs.Session.Failure

/-!
# The slot of a buffer

Whatever the store yields, and however users ask for ids and prefetches are run, dropped or forced,
a buffer whose slot nobody handles is coherent before and after every deed, also once its lock is
poisoned. The segment that it serves changes only when it is asked for an id, and a staged segment
leaves the slot only when such a call finds the current one exhausted (`slot_coherent`).
-/

namespace IdIssuer

open Pool

namespace Session

theorem slot_coherent (store : Store) (id : BufferId) :
    (∀ moves, (∀ move ∈ moves, move.handles = false) →
      calls id ((Pool.new store).deeds moves) < 2 ^ 62 →
        Coheres id ((Pool.new store).deeds moves) ((Pool.new store).plays moves)) ∧
    (∀ spawner steps, (∀ step ∈ steps, step.leavesSlots = true) →
      calls id ((Session.new spawner store).deeds steps) < 2 ^ 62 →
        Coheres id ((Session.new spawner store).deeds steps)
          ((Session.new spawner store).run steps).2.pool) ∧
    ∀ (b : Buffer) (σ : Store), b.Fills (b.prefetch σ).buffer := by
  have start := buffer?_new store id
  refine ⟨fun moves leaves few => ?_, fun spawner steps leaves few => ?_, Buffer.fills_prefetch⟩
  · exact coheres_plays (fun d hd => leaves _ (mem_moves_of_mem_deeds hd)) few start
  · rw [pool_run]
    exact coheres_plays (not_handles_of_leaves leaves) few start

def crowdingScript : Script := fun call =>
  [.give 0 1 1, .give 1 1 1, .give 5 9 4, .panic, .give 2 3 1][call - 1]?

def crowdingSteps : List Step :=
  [.create "x" "a" none, .buffer "x" .next, .runQueue, .buffer "x" .prefetch, .buffer "x" .next,
    .buffer "x" .prefetch, .buffer "x" .next]

/-- A prefetch that finds the slot taken leaves it so, also one that ends twice. The call that finds
the current segment exhausted empties the slot before the store panics; nothing is staged after
that. -/
theorem slot_coherent_crowded :
    let id : BufferId := ⟨"a", 0⟩
    let deeds := (blank .queueing crowdingScript).deeds crowdingSteps
    let moves : List Move := [.create "a" .default .queueing, .operate id .next,
      .operate id .finish, .operate id .finish]
    deeds.filterMap (fun d => (d.after.buffer? id).map fun b => (b.ready, b.staged, b.poisoned)) =
      [(false, none, false), (false, none, false), (true, some (.new 1 1 1), false),
        (true, some (.new 1 1 1), false), (false, none, true), (false, none, true),
        (false, none, true)] ∧
    (∃ d ∈ deeds, ∃ b b', d.pool.buffer? id = some b ∧ d.after.buffer? id = some b' ∧
      b.staged = some (.new 1 1 1) ∧ b'.poisoned = true ∧ b.IsCoherent ∧ b'.IsCoherent ∧
      d.Treats id b b') ∧
    ∃ b, ((Pool.new (.new .empty crowdingScript)).plays moves).buffer? id = some b ∧
      b.staged = some (.new 1 1 1) ∧ b.IsCoherent := by
  intro id deeds moves
  obtain ⟨hmoves, hsteps, -⟩ := slot_coherent (.new .empty crowdingScript) id
  have coheres := hsteps .queueing crowdingSteps (by decide) (by decide +kernel)
  refine ⟨by decide +kernel, ?_, ?_⟩
  · let d := deeds.get ⟨4, by decide +kernel⟩
    let b := (d.pool.buffer? id).get (by decide +kernel)
    have hd : d ∈ deeds := List.get_mem _ _
    have hb : d.pool.buffer? id = some b := (Option.some_get _).symm
    have hpoisoned : (d.after.buffer? id).map Buffer.poisoned = some true := by decide +kernel
    obtain ⟨hcoherent, b', hb', htreats⟩ := coheres.before d hd b hb
    rw [hb', Option.map_some, Option.some.injEq] at hpoisoned
    exact ⟨d, hd, b, b', hb, hb', by decide +kernel, hpoisoned, hcoherent,
      coheres.after d hd b' hb', htreats⟩
  · have hlast := (hmoves moves (by decide) (by decide +kernel)).last
    let b := (((Pool.new (.new .empty crowdingScript)).plays moves).buffer? id).get
      (by decide +kernel)
    have hb : ((Pool.new (.new .empty crowdingScript)).plays moves).buffer? id = some b :=
      (Option.some_get _).symm
    exact ⟨b, hb, by decide +kernel, hlast b hb⟩

end Session

end IdIssuer

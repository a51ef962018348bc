import IdIssuer.Proofs.Pool.Serving
import IdIssuer.Proofs.Session.Moves

/-!
# What a buffer hands out

A store may yield anything: segments that are invalid, empty, overlapping or out of order, one of
them over and over. Whatever it does short of panicking, a buffer in which nothing is staged by hand
hands out all ids of one valid segment after the other, each of them an answer to a call of its own,
and part of the last one.
-/

namespace IdIssuer

open Pool

namespace Session

theorem ids_served (spawner : Spawner) (ledger : Ledger) (script : Script) (steps : List Step)
    (id : BufferId) (calm : script.IsCalm)
    (unstaged : ∀ d ∈ (Session.new spawner (.new ledger script)).deeds steps, ∀ g,
      d.put? ≠ some (id, g))
    (few : calls id ((Session.new spawner (.new ledger script)).deeds steps) < 2 ^ 62) :
    let s := Session.new spawner (.new ledger script)
    let installed := installs id (s.deeds steps)
    (installed.dropLast.flatMap Segment.ids <+: idsBy id (s.issues steps) ∧
      idsBy id (s.issues steps) <+: installed.flatMap Segment.ids) ∧
    installed.Subperm ((s.run steps).2.pool.store.grants id.tag) ∧
    (∀ g ∈ installed, g.base ≤ g.max ∧ g.max ≤ idLimit) ∧
    ∀ b, (s.run steps).2.pool.buffer? id = some b → ∃ last, installed.getLast? = some last ∧
      b.current = { last with cursor := b.current.cursor } := by
  intro s installed
  have hserving : Serving id (s.deeds steps) (s.pool.plays (s.moves steps)) :=
    serving_plays calm unstaged few (isFiled_new _) (buffer?_new _ id)
  rw [issues_eq, pool_run]
  refine ⟨hserving.extent, hserving.subperm, fun g hg => ?_, fun b hb => ?_⟩
  · have hvalid := hserving.isValid g hg
    simpa [Segment.isValid] using hvalid
  · exact (hserving.served b hb).last

def wildScript : Script := fun call =>
  [.give 10 12 5, .give 10 12 5, .fail, .give 3 4 0, .give 7 7 1, .give 9 8 1,
    .give 11 13 2][call - 1]?

def wildSteps : List Step :=
  [.create "x" "a" none, .buffer "x" .next, .buffer "x" .next, .runQueue, .buffer "x" .next,
    .buffer "x" .next, .buffer "x" .prefetch, .buffer "x" .next, .buffer "x" .prefetch,
    .dropQueue, .buffer "x" .next, .buffer "x" .next, .buffer "x" .next, .buffer "x" .next]

/-- The store yields one segment twice, then one below it, an empty one, an invalid one, and one
that overlaps the first, and fails in between. -/
theorem ids_served_wild :
    let s := Session.new .queueing (.new .empty wildScript)
    let installed := installs ⟨"a", 0⟩ (s.deeds wildSteps)
    idsBy ⟨"a", 0⟩ (s.issues wildSteps) = [11, 12, 4, 12, 13] ∧
    (installed.dropLast.flatMap Segment.ids <+: idsBy ⟨"a", 0⟩ (s.issues wildSteps) ∧
      idsBy ⟨"a", 0⟩ (s.issues wildSteps) <+: installed.flatMap Segment.ids) ∧
    installed.Subperm ((s.run wildSteps).2.pool.store.grants "a") ∧
    ∀ g ∈ installed, g.base ≤ g.max ∧ g.max ≤ idLimit := by
  have calm : wildScript.IsCalm := by
    intro call h
    have hmem := List.mem_of_getElem? h
    revert hmem
    decide
  have unstaged : ∀ d ∈ (Session.new .queueing (.new .empty wildScript)).deeds wildSteps, ∀ g,
      d.put? ≠ some (⟨"a", 0⟩, g) := by
    have hnone : ∀ d ∈ (Session.new .queueing (.new .empty wildScript)).deeds wildSteps,
        d.put?.isNone = true := by decide +kernel
    intro d hd g hput
    have := hnone d hd
    rw [hput] at this
    cases this
  have few : calls ⟨"a", 0⟩ ((Session.new .queueing (.new .empty wildScript)).deeds wildSteps) <
      2 ^ 62 := by decide +kernel
  obtain ⟨hextent, hsubperm, hvalid, -⟩ :=
    ids_served .queueing .empty wildScript wildSteps ⟨"a", 0⟩ calm unstaged few
  exact ⟨by decide +kernel, hextent, hsubperm, hvalid⟩

end Session

end IdIssuer

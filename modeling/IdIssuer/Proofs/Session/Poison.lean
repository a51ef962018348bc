import IdIssuer.Proofs.Pool.Poison
import IdIssuer.Proofs.Session.Deeds

/-!
# Poisoned buffers stay poisoned

A call of `next` is refused for the lock just if an earlier one on the same buffer has panicked
while it waited for the store. From then on the store is not called for an id of that buffer, and
what the buffer serves and stages stays as it is, whatever is prefetched, staged or claimed past it.
A store that panics in a prefetch does no harm: the buffer is as if the prefetch had been dropped
unrun.
-/

namespace IdIssuer

open Pool

namespace Session

theorem poisoning_terminal (spawner : Spawner) (store : Store) (steps : List Step) (id : BufferId)
    (fair : IsFair id ((Session.new spawner store).deeds steps))
    (few : calls id ((Session.new spawner store).deeds steps) < 2 ^ 62) :
    let deeds := (Session.new spawner store).deeds steps
    (∀ past d later turn, deeds = past ++ d :: later → d.next? id = some turn →
      (turn.outcome = .failed .lockPoisoned ↔ ∃ d' ∈ past, d'.Unwinds id)) ∧
    (∀ past d later, deeds = past ++ d :: later → d.Unwinds id →
      ∃ b, d.after.buffer? id = some b ∧ ∀ d' ∈ later,
        (∃ b', d'.after.buffer? id = some b' ∧ b.Rests b') ∧
        ∀ turn, d'.next? id = some turn →
          turn.outcome = .failed .lockPoisoned ∧ turn.store = d'.pool.store) ∧
    ∀ d ∈ deeds, ∀ b op call, d.move.operation? d.pool = some (id, op) →
      d.pool.buffer? id = some b →
      d.after.store.history = ⟨b.tag, .panicked call⟩ :: d.pool.store.history →
      ¬ d.Unwinds id →
        d.after.buffer? id = some (b.skipPrefetch d.pool.store op) ∧
          d.after.store.ledger = d.pool.store.ledger := by
  intro deeds
  have start : (Session.new spawner store).pool.buffer? id = none := buffer?_new store id
  refine ⟨fun past d later turn hdeeds hnext => ?_, fun past d later hdeeds hunwinds => ?_,
    fun d _ b op call hop hb hcall hnot => after_of_panicked hop hb hcall hnot⟩
  · have h : past ++ [d] <+: deeds := ⟨later, by rw [hdeeds]; simp⟩
    exact lockPoisoned_iff fair few start h hnext
  · have h : past ++ [d] <+: deeds := ⟨later, by rw [hdeeds]; simp⟩
    obtain ⟨b, hb, hsince⟩ := frozenAt_since fair few start h hunwinds
    refine ⟨b, hb, fun d' hd' => ?_⟩
    obtain ⟨between, rest, rfl⟩ := List.append_of_mem hd'
    have h' : past ++ d :: between ++ [d'] <+: deeds := ⟨rest, by rw [hdeeds]; simp⟩
    obtain ⟨⟨b₁, hb₁, hruined, -⟩, b₂, hb₂, -, hrests⟩ := hsince between d' h'
    refine ⟨⟨b₂, hb₂, hrests⟩, fun turn hnext => ?_⟩
    obtain ⟨-, b', hb', rfl⟩ := next?_eq_some hnext
    cases hb₁.symm.trans hb'
    rw [Buffer.next_of_poisoned hruined.dry hruined.poisoned]
    exact ⟨rfl, rfl⟩

def poisoningScript : Script := fun call =>
  [.give 0 1 1, .panic, .panic, .give 1 5 4][call - 1]?

def poisoningSteps : List Step :=
  [.create "x" "a" none, .buffer "x" .next, .buffer "x" (.stage 1 1 0 true), .runQueue,
    .buffer "x" .next, .buffer "x" .prefetch, .buffer "x" (.stage 1 9 8 true), .buffer "x" .next]

/-- The store panics in a prefetch, and then in a call that has taken an empty segment out of the
slot. What a later prefetch gets and what is staged by hand comes too late for the next call. -/
theorem poisoning_terminal_emptied :
    let id : BufferId := ⟨"a", 0⟩
    let deeds := (blank .queueing poisoningScript).deeds poisoningSteps
    deeds.filterMap (fun d => (d.next? id).map fun turn =>
        (turn.outcome, decide (.fallback ∈ turn.events))) =
      [(.done 1, false), (.panicked 3, true), (.failed .lockPoisoned, false)] ∧
    deeds.filterMap (fun d => (d.after.buffer? id).map fun b => (b.staged, b.poisoned)) =
      [(none, false), (none, false), (some (.new 1 1 0), false), (some (.new 1 1 0), false),
        (none, true), (none, true), (none, true), (none, true)] ∧
    ∃ past d later b, deeds = past ++ d :: later ∧ d.Unwinds id ∧ d.after.buffer? id = some b ∧
      ∀ d' ∈ later, (∃ b', d'.after.buffer? id = some b' ∧ b.Rests b') ∧
        ∀ turn, d'.next? id = some turn →
          turn.outcome = .failed .lockPoisoned ∧ turn.store = d'.pool.store := by
  intro id deeds
  have hturns : deeds.filterMap (fun d => (d.next? id).map fun turn =>
        (turn.outcome, decide (.fallback ∈ turn.events))) =
      [(.done 1, false), (.panicked 3, true), (.failed .lockPoisoned, false)] := by decide +kernel
  refine ⟨hturns, by decide +kernel, ?_⟩
  have fair : IsFair id deeds := by
    have hputs : ∀ d ∈ deeds, d.put? = none ∨ d.put? = some (id, .new 1 1 0) := by decide +kernel
    intro d hd g hput
    rcases hputs d hd with hnone | hsome
    · cases hnone.symm.trans hput
    · cases hsome.symm.trans hput
      exact ⟨rfl, rfl⟩
  have few : calls id deeds < 2 ^ 62 := by decide +kernel
  obtain ⟨-, terminal, -⟩ :=
    poisoning_terminal .queueing (.new .empty poisoningScript) poisoningSteps id fair few
  have hpanicked : (.panicked 3, true) ∈ deeds.filterMap (fun d => (d.next? id).map fun turn =>
      (turn.outcome, decide (.fallback ∈ turn.events))) := by
    rw [hturns]
    decide
  obtain ⟨d, hd, hmap⟩ := List.mem_filterMap.1 hpanicked
  obtain ⟨turn, hnext, he⟩ := Option.map_eq_some_iff.1 hmap
  obtain ⟨houtcome, hevent⟩ := Prod.mk.injEq .. ▸ he
  have hunwinds : d.Unwinds id := ⟨turn, 3, hnext, of_decide_eq_true hevent, houtcome⟩
  obtain ⟨past, later, hdeeds⟩ := List.append_of_mem hd
  obtain ⟨b, hb, hlater⟩ := terminal past d later hdeeds hunwinds
  exact ⟨past, d, later, b, hdeeds, hunwinds, hb, hlater⟩

end Session

end IdIssuer

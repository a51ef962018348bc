import IdIssuer.Proofs.Pool.Stock
import IdIssuer.Proofs.Session.Failure

/-!
# How long a buffer lasts without its store

Once the store is down, a buffer hands out what readers see left of its segment, then all of the
slot if that is said to be filled, and after that nothing: each call fails with the error of the
store (`outage_capacity`). Prefetches fail as well, however many are started, kept waiting, dropped
or run, and cost no id. The buffer may have come to where it is in any way, as long as its slot was
left alone and the store yielded the segments of the tag in order.
-/

namespace IdIssuer

open Pool

namespace Session

variable {spawner : Spawner} {store : Store} {steps more : List Step} {id : BufferId}

/-- With the store down, every deed of the steps that follow goes without it. -/
theorem isStarved_of_down (calm : store.script.IsCalm)
    (leaves : ∀ step ∈ steps ++ more, step.leavesSlots = true)
    (few : calls id ((Session.new spawner store).deeds (steps ++ more)) < 2 ^ 62)
    (down : ((Session.new spawner store).run steps).2.pool.store.IsDown id.tag
      ((Session.new spawner store).run (steps ++ more)).2.pool.store) :
    ∀ d ∈ ((Session.new spawner store).run steps).2.deeds more, d.IsStarved id := by
  let s₀ := Session.new spawner store
  let s := (s₀.run steps).2
  intro d hd
  have hm := not_handles_of_leaves (s := s₀) leaves
  have hdeeds : s₀.deeds (steps ++ more) = s₀.deeds steps ++ s.deeds more :=
    deeds_append s₀ steps more
  have hmem : d ∈ s₀.deeds (steps ++ more) := hdeeds ▸ List.mem_append_right _ hd
  obtain ⟨past, h⟩ := exists_snoc_of_mem hd
  refine ⟨script_deeds hmem ▸ calm, fun b hb => ?_, hm d hmem, ?_⟩
  · have hall : (s₀.deeds steps ++ past) ++ [d] <+: s₀.deeds (steps ++ more) := by
      rw [hdeeds, List.append_assoc]
      exact (List.prefix_append_right_inj _).2 h
    have hsound := sound_before (isFair_of_not_handles hm) few (buffer?_new store id) hall
    exact room_before few hall hsound hb
  · obtain ⟨first, -, hfirst, -⟩ := eq_deeds_of_snoc h
    have hend : (s₀.run (steps ++ more)).2.pool = s.pool.plays (s.moves more) := by
      rw [run_append]
      exact pool_run s more
    rw [hend] at down
    exact down.between (hfirst ▸ history_grows s.pool first)
      (d.pool.played d.move).history_grows (history_of_mem_deeds hd)

/-- The stock of a buffer at the beginning of an outage. -/
theorem draws_run {b : Buffer} (calm : store.script.IsCalm)
    (leaves : ∀ step ∈ steps, step.leavesSlots = true)
    (honest : IsHonest (yields id.tag ((Session.new spawner store).deeds steps)))
    (few : calls id ((Session.new spawner store).deeds steps) < 2 ^ 62)
    (hb : ((Session.new spawner store).run steps).2.pool.buffer? id = some b) :
    b.IsSteady ∧ Draws id b.stock [] ((Session.new spawner store).run steps).2.pool := by
  let s₀ := Session.new spawner store
  have hm := not_handles_of_leaves (s := s₀) leaves
  have placid : ∀ d ∈ s₀.deeds steps, ¬ d.Panics :=
    fun d hd => not_panics (script_deeds hd ▸ calm)
  rw [pool_run] at hb ⊢
  have steady := steadyAt_plays hm (buffer?_new store id) placid b hb
  have ordered :=
    orderedAt_plays honest hm placid few (isFiled_new store) (buffer?_new store id) b hb
  have filed : (s₀.pool.plays (s₀.moves steps)).IsFiled :=
    deeds_induction (I := fun _ => IsFiled) (isFiled_new store)
      fun _ d _ hi => (d.pool.played d.move).isFiled hi
  exact ⟨steady, filed, ⟨b, hb, steady, ordered, rfl⟩, rfl⟩

theorem outage_capacity (spawner : Spawner) (store : Store) (steps more : List Step)
    (id : BufferId) (b : Buffer) (calm : store.script.IsCalm)
    (leaves : ∀ step ∈ steps ++ more, step.leavesSlots = true)
    (honest : IsHonest (yields id.tag ((Session.new spawner store).deeds steps)))
    (few : calls id ((Session.new spawner store).deeds (steps ++ more)) < 2 ^ 62)
    (hb : ((Session.new spawner store).run steps).2.pool.buffer? id = some b)
    (down : ((Session.new spawner store).run steps).2.pool.store.IsDown id.tag
      ((Session.new spawner store).run (steps ++ more)).2.pool.store) :
    let s := ((Session.new spawner store).run steps).2
    let stock := Segment.between b.snapshot.cursor b.snapshot.max ++
      if b.snapshot.nextReady = true then b.staged.elim [] Segment.ids else []
    (stock.length = b.snapshot.remaining.toNat +
      if b.snapshot.nextReady = true then
        b.staged.elim 0 fun g => g.max.toNat - g.base.toNat else 0) ∧
    idsBy id (s.issues more) = stock.take (calls id (s.deeds more)) ∧
    ∀ past d turn, past ++ [d] <+: s.deeds more → d.next? id = some turn →
      (∀ n, stock[calls id past]? = some n → turn.outcome = .done n) ∧
      (stock[calls id past]? = none → ∃ e, turn.outcome = .failed (.allocation id.tag e) ∧
        turn.store.history = ⟨id.tag, .failed e⟩ :: d.pool.store.history) := by
  intro s stock
  have hdeeds := deeds_append (Session.new spawner store) steps more
  have fewFirst := Nat.lt_of_le_of_lt (calls_le ⟨_, hdeeds.symm⟩ id) few
  obtain ⟨steady, start⟩ :=
    draws_run calm (fun step hstep => leaves step (List.mem_append_left _ hstep)) honest fewFirst hb
  have starved := isStarved_of_down calm leaves few down
  have hstock : b.stock = stock := Buffer.stock_eq steady.flagged
  rw [hstock] at start
  refine ⟨?_, ?_, ?_⟩
  · rw [← hstock]
    exact Buffer.length_stock steady.flagged
  · rw [issues_eq]
    exact (draws_plays start starved).ids
  · intro past d turn h hnext
    exact (draws_before start starved h).next? (starved d (mem_of_snoc h)) hnext

/-- The store yields two segments and then fails. -/
def blackoutScript : Script := fun call => if call ≤ 2 then none else some .fail

def stockingSteps : List Step :=
  [.ledger (.register "a" 7 2), .create "x" "a" (some 1.0), .buffer "x" .next, .runQueue]

def blackoutSteps : List Step :=
  [.buffer "x" .prefetch, .buffer "x" .next, .buffer "x" .next, .buffer "x" .check, .dropQueue,
    .buffer "x" .next, .runQueue, .buffer "x" .next, .buffer "x" .next]

/-- One id is left of the segment, and two are in the slot. In between, prefetches are run directly,
dropped, and run from the queue; the last two calls fail. -/
theorem outage_capacity_blackout :
    let id : BufferId := ⟨"a", 0⟩
    let s := ((Session.new .queueing (.new .empty blackoutScript)).run stockingSteps).2
    idsBy id (s.issues blackoutSteps) = [9, 10, 11] ∧
    calls id (s.deeds blackoutSteps) = 5 ∧
    ∃ d ∈ s.deeds blackoutSteps, ∃ turn e, d.next? id = some turn ∧
      turn.outcome = .failed (.allocation "a" e) ∧
      turn.store.history = ⟨"a", .failed e⟩ :: d.pool.store.history := by
  intro id s
  let b := (s.pool.buffer? id).get (by decide +kernel)
  have hb : s.pool.buffer? id = some b := (Option.some_get _).symm
  have calm : blackoutScript.IsCalm := by
    intro call h
    unfold blackoutScript at h
    split_ifs at h
    cases h
  have hcalls : calls id (s.deeds blackoutSteps) = 5 := by decide +kernel
  obtain ⟨-, hids, hturns⟩ := outage_capacity .queueing (.new .empty blackoutScript) stockingSteps
    blackoutSteps id b calm (by decide) ⟨by decide +kernel, by decide +kernel⟩
    (by decide +kernel) hb (by decide +kernel)
  have hstock : Segment.between b.snapshot.cursor b.snapshot.max ++
      (if b.snapshot.nextReady = true then b.staged.elim [] Segment.ids else []) = [9, 10, 11] := by
    decide +kernel
  rw [hstock] at hids hturns
  refine ⟨by rw [hids, hcalls]; rfl, hcalls, ?_⟩
  let d := (s.deeds blackoutSteps).get ⟨8, by decide +kernel⟩
  have hd : (s.deeds blackoutSteps).take 8 ++ [d] <+: s.deeds blackoutSteps := by
    show (s.deeds blackoutSteps).take 8 ++ [(s.deeds blackoutSteps)[8]] <+: _
    rw [List.take_append_getElem]
    exact List.take_prefix _ _
  have hbuffer : (d.pool.buffer? id).isSome := by decide +kernel
  obtain ⟨b', hb'⟩ := Option.isSome_iff_exists.1 hbuffer
  have hmove : d.move.operation? d.pool = some (id, .next) := by decide +kernel
  have hnext := next?_of_operation hmove hb'
  have hpast : calls id ((s.deeds blackoutSteps).take 8) = 4 := by decide +kernel
  obtain ⟨e, ho, hh⟩ := (hturns _ d _ hd hnext).2 (by rw [hpast]; rfl)
  exact ⟨d, mem_of_snoc hd, _, e, hnext, ho, hh⟩

end Session

end IdIssuer

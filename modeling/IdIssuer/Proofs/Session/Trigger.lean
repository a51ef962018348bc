import IdIssuer.Proofs.Pool.Poison
import IdIssuer.Proofs.Pool.Steady
import IdIssuer.Proofs.Session.Failure

/-!
# Which calls start a prefetch

A prefetch is meant to be started by every call that hands out an id and leaves the buffer at or
below its low-water mark. It is started just by those whose id comes from the segment that the
buffer was serving before the call (`prefetch_triggered`). The first id of a segment that takes over
starts none, however low the mark: the call after it does.
-/

namespace IdIssuer

open Pool

namespace Pool

/-- How many prefetches have been started so far. -/
def started (p : Pool) : ℕ := p.log.countP (·.isStart)

variable {p : Pool} {id : BufferId} {moves : List Move} {past : List Deed} {d : Deed}

theorem started_settle {α : Type} (p : Pool) (id : BufferId) (turn : Turn α) :
    (p.settle id turn).started = p.started + turn.started := by
  show (turn.events.reverse ++ p.log).countP _ = _
  rw [List.countP_append, List.countP_reverse, Nat.add_comm]
  rfl

/-- Asking a buffer for an id starts as many prefetches as `next` does. -/
theorem after_of_next? {turn : Turn UInt64} (h : d.next? id = some turn) :
    d.after.started = d.pool.started + turn.started ∧ d.after.buffer? id = some turn.buffer ∧
      d.after.store = turn.store := by
  obtain ⟨hop, b, hb, rfl⟩ := next?_eq_some h
  have hafter : d.after = d.pool.settle id (b.operate d.pool.store .next) := by
    rw [Deed.after, eq_operate_of_next hop]
    exact operate_of_buffer? hb .next
  rw [hafter, started_settle, buffer?_settle, if_pos rfl, hb]
  exact ⟨rfl, rfl, rfl⟩

end Pool

namespace Session

theorem prefetch_triggered (spawner : Spawner) (store : Store) (steps : List Step) (d : Deed)
    (id : BufferId) (b : Buffer) (turn : Turn UInt64)
    (hd : d ∈ (Session.new spawner store).deeds steps) (hb : d.pool.buffer? id = some b)
    (hnext : d.next? id = some turn) :
    d.after.buffer? id = some turn.buffer ∧
    d.after.started = d.pool.started +
      (if b.current.cursor < b.current.max ∧ (b.claimed d.pool.store).wantsPrefetch = true then 1
        else 0) ∧
    ((∀ step ∈ steps, step.leavesSlots = true) → b.spawner = .inline ∨ b.spawner = .detached →
      (∀ c ∈ d.after.store.history, c.answer.isValid = true) →
        turn.buffer.IsStocked ∨ b.current.remaining = 0) := by
  obtain ⟨hstarted, hbuffer, hstore⟩ := after_of_next? hnext
  obtain ⟨-, b', hb', rfl⟩ := next?_eq_some hnext
  cases hb.symm.trans hb'
  refine ⟨hbuffer, by rw [hstarted, b.started_next], fun leaves prompt valid => ?_⟩
  obtain ⟨past, later, hdeeds⟩ := List.append_of_mem hd
  have h : past ++ [d] <+: (Session.new spawner store).deeds steps :=
    ⟨later, by rw [hdeeds]; simp⟩
  have hm : ∀ d ∈ (Session.new spawner store).deeds steps, d.move.handles = false :=
    not_handles_of_leaves leaves
  have steady : b.IsSteady := by
    obtain ⟨first, rfl, hpool, hpast⟩ := eq_deeds_of_snoc h
    rw [hpool] at hb
    refine steadyAt_plays (fun d' hd' => hm d' (hpast.subset hd')) (buffer?_new store id) ?_ b hb
    rintro d' hd' ⟨tag, call, hpanicked⟩
    have hgrows : d'.after.store.history <:+ d.after.store.history := by
      refine (history_of_mem_deeds hd').trans ?_
      rw [← hpool]
      exact (d.pool.played d.move).history_grows
    have hvalid := valid _ (hgrows.subset (hpanicked ▸ List.mem_cons_self))
    cases hvalid
  rcases UInt64.lt_or_le b.current.cursor b.current.max with hlt | hle
  · left
    apply Buffer.stocked_next steady prompt hlt
    intro answer hanswer
    exact valid ⟨b.tag, answer⟩ (by rw [hstore, hanswer]; exact List.mem_cons_self)
  · exact .inr (Segment.remaining_of_le hle)

def crossingSteps : List Step :=
  [.ledger (.register "a" 0 2), .create "x" "a" (some 1.0), .buffer "x" .next, .buffer "x" .next,
    .buffer "x" .next]

/-- With a low-water mark as high as the step, a prefetch is due after every id. The first call
starts one and leaves its segment staged. The third gets its id from that segment, leaves a prefetch
due, and starts none. -/
theorem prefetch_triggered_late :
    let id : BufferId := ⟨"a", 0⟩
    let deeds := (blank .inline .free).deeds crossingSteps
    (∃ d ∈ deeds, ∃ turn, d.next? id = some turn ∧ turn.outcome = .done 1 ∧
      d.after.started = d.pool.started + 1 ∧ turn.buffer.IsStocked) ∧
    ∃ d ∈ deeds, ∃ b turn, d.pool.buffer? id = some b ∧ d.next? id = some turn ∧
      turn.outcome = .done 3 ∧ (b.claimed d.pool.store).wantsPrefetch = true ∧
      d.after.started = d.pool.started ∧ ¬ turn.buffer.IsStocked ∧ b.current.remaining = 0 := by
  intro id deeds
  have leaves : ∀ step ∈ crossingSteps, step.leavesSlots = true := by decide
  have valid : ∀ d ∈ deeds, ∀ c ∈ d.after.store.history, c.answer.isValid = true := by
    decide +kernel
  have call (d : Deed) (hd : d ∈ deeds) (b : Buffer) (hb : d.pool.buffer? id = some b)
      (hop : d.move.operation? d.pool = some (id, .next)) :=
    prefetch_triggered .inline (.new .empty .free) crossingSteps d id b (b.next d.pool.store) hd hb
      (next?_of_operation hop hb)
  constructor
  · let d := deeds.get ⟨2, by decide +kernel⟩
    let b := (d.pool.buffer? id).get (by decide +kernel)
    have hd : d ∈ deeds := List.get_mem _ _
    have hb : d.pool.buffer? id = some b := (Option.some_get _).symm
    have hop : d.move.operation? d.pool = some (id, .next) := by decide +kernel
    have hdue : b.current.cursor < b.current.max ∧ (b.claimed d.pool.store).wantsPrefetch = true :=
      by decide +kernel
    have hleft : b.current.remaining ≠ 0 := by decide +kernel
    obtain ⟨-, hstarted, hstocked⟩ := call d hd b hb hop
    rw [if_pos hdue] at hstarted
    refine ⟨d, hd, _, next?_of_operation hop hb, by decide +kernel, hstarted, ?_⟩
    exact (hstocked leaves (.inl (by decide +kernel)) (valid d hd)).resolve_right hleft
  · let d := deeds.get ⟨4, by decide +kernel⟩
    let b := (d.pool.buffer? id).get (by decide +kernel)
    have hd : d ∈ deeds := List.get_mem _ _
    have hb : d.pool.buffer? id = some b := (Option.some_get _).symm
    have hop : d.move.operation? d.pool = some (id, .next) := by decide +kernel
    have hbare : ¬ (b.next d.pool.store).buffer.IsStocked := by decide +kernel
    have hrun : ¬ b.current.cursor < b.current.max := by decide +kernel
    obtain ⟨-, hstarted, hstocked⟩ := call d hd b hb hop
    rw [if_neg fun h => hrun h.1] at hstarted
    refine ⟨d, hd, b, _, hb, next?_of_operation hop hb, by decide +kernel, by decide +kernel,
      hstarted, hbare, ?_⟩
    exact (hstocked leaves (.inl (by decide +kernel)) (valid d hd)).resolve_left hbare

end Session

end IdIssuer

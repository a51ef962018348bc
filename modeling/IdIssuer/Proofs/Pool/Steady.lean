import IdIssuer.Proofs.Buffer.Failure
import IdIssuer.Proofs.Buffer.Trigger
import IdIssuer.Proofs.Pool.Sound

/-!
# Steady buffers in a pool

As long as nobody handles its slot, a buffer in a pool tells the truth about it (`flaggedAt_plays`)
and nothing is staged in it but what the store has yielded (`put?_of_not_handles`). If the store
does not panic either, nothing ever keeps the buffer from what it is to do next (`steadyAt_plays`).
-/

namespace IdIssuer

namespace Pool

/-- The move handles the slot of a buffer. -/
def Move.handles : Move → Bool
  | operate _ op => op.handles
  | _ => false

/-- The store panics in the deed. -/
def Deed.Panics (d : Deed) : Prop :=
  ∃ tag call, d.after.store.history = ⟨tag, .panicked call⟩ :: d.pool.store.history

variable {p : Pool} {id : BufferId} {moves : List Move} {past : List Deed} {d : Deed}

theorem not_handles_operation {move : Move} {op : Operation} (hm : move.handles = false)
    (h : move.operation? p = some (id, op)) : op.handles = false := by
  cases move with
  | operate id' op' =>
    cases h
    exact hm
  | finish | drop =>
    obtain ⟨head, -, h⟩ := Option.map_eq_some_iff.1 h
    cases h
    rfl
  | request _ | fetch _ | create _ _ _ | tell _ => cases h

/-- Nothing is staged by hand. -/
theorem put?_of_not_handles (hm : d.move.handles = false) (g : Segment) :
    d.put? ≠ some (id, g) := by
  intro hput
  obtain ⟨p, move⟩ := d
  cases move with
  | operate id' op =>
    cases op with
    | put g' mark => cases hm
    | next | check | prefetch | finish | drop | mark => cases hput
  | request _ | fetch _ | create _ _ _ | finish | drop | tell _ => cases hput

theorem isFair_of_not_handles {deeds : List Deed} (hm : ∀ d ∈ deeds, d.move.handles = false) :
    IsFair id deeds :=
  fun d hd g hput => absurd hput (put?_of_not_handles (hm d hd) g)

/-- A store whose script is calm never panics. -/
theorem not_panics (calm : d.pool.store.script.IsCalm) : ¬ d.Panics := by
  rintro ⟨tag, call, hhistory⟩
  have hanswer := (d.pool.played d.move).answer hhistory
  exact Store.fetch_ne_panicked calm tag call hanswer

/-- The buffer, if it exists, tells the truth about its slot. -/
def FlaggedAt (id : BufferId) (q : Pool) : Prop := ∀ b, q.buffer? id = some b → b.IsFlagged

theorem flaggedAt_plays (hm : ∀ d ∈ p.deeds moves, d.move.handles = false)
    (start : p.buffer? id = none) : FlaggedAt id (p.plays moves) := by
  refine deeds_induction (I := fun _ => FlaggedAt id) (fun b hb => by simp [start] at hb) ?_
  intro past d h hi b' hb'
  rcases (d.pool.played d.move).buffer id with
    ⟨b, op, hop, hb, he, -⟩ | ⟨config, spawner, g, -, -, -, -, -, he, -⟩ | ⟨he, -⟩
  · cases he.symm.trans hb'
    exact (hi b hb).operate (not_handles_operation (hm d (mem_of_snoc h)) hop)
  · cases he.symm.trans hb'
    rfl
  · exact hi b' (he ▸ hb')

/-- The buffer, if it exists, is steady. -/
def SteadyAt (id : BufferId) (q : Pool) : Prop := ∀ b, q.buffer? id = some b → b.IsSteady

theorem SteadyAt.after (h : SteadyAt id d.pool) (hm : d.move.handles = false)
    (placid : ¬ d.Panics) : SteadyAt id d.after := by
  intro b' hb'
  rcases (d.pool.played d.move).buffer id with
    ⟨b, op, hop, hb, he, hstore⟩ | ⟨config, spawner, g, -, -, -, -, -, he, -⟩ | ⟨he, -⟩
  · cases he.symm.trans hb'
    apply (h b hb).operate (not_handles_operation hm hop)
    intro call hcall
    exact placid ⟨b.tag, call, hstore ▸ hcall⟩
  · cases he.symm.trans hb'
    exact Buffer.isSteady_new id.tag config spawner g
  · exact h b' (he ▸ hb')

/-- As long as nobody handles its slot and the store does not panic, a buffer is steady. -/
theorem steadyAt_plays (hm : ∀ d ∈ p.deeds moves, d.move.handles = false)
    (start : p.buffer? id = none) (placid : ∀ d ∈ p.deeds moves, ¬ d.Panics) :
    SteadyAt id (p.plays moves) := by
  apply deeds_induction (I := fun _ => SteadyAt id)
  · intro b hb
    cases start.symm.trans hb
  · intro past d h hi
    exact hi.after (hm d (mem_of_snoc h)) (placid d (mem_of_snoc h))

end Pool

end IdIssuer

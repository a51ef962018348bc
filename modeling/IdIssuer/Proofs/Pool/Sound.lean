import IdIssuer.Proofs.Pool.Deed

/-!
# Sound buffers in a pool

However a pool is used, a buffer stays sound as long as what is staged in it by hand is fresh, and
no more than two claims are made on one segment for each time that `next` is called
(`sound_plays`). With fewer than `2 ^ 62` calls of `next`, there is therefore always room for
another (`room_before`).
-/

namespace IdIssuer

namespace Pool

variable {p : Pool} {id : BufferId} {moves : List Move} {past : List Deed} {d : Deed}

/-- The buffer, if it exists by now, is sound after no more claims than its calls account for. -/
def SoundAt (id : BufferId) (past : List Deed) (q : Pool) : Prop :=
  ∀ b, q.buffer? id = some b → ∃ c ≤ 2 * calls id past, b.Sound c

/-- What is staged by hand in the buffer is fresh. -/
def IsFair (id : BufferId) (deeds : List Deed) : Prop :=
  ∀ d ∈ deeds, ∀ g, d.put? = some (id, g) → g.IsFresh

theorem soundAt_step (fair : IsFair id (p.deeds moves)) (few : calls id (p.deeds moves) < 2 ^ 62)
    (h : past ++ [d] <+: p.deeds moves) (hs : SoundAt id past d.pool) :
    SoundAt id (past ++ [d]) d.after := by
  intro b' hb'
  have hcalls := calls_append_single id past d
  rcases (d.pool.played d.move).buffer id with
    ⟨b, op, hop, hb, he, -⟩ | ⟨config, spawner, g, -, -, -, ha, hv, he, -⟩ | ⟨he, -⟩
  · cases he.symm.trans hb'
    obtain ⟨c, hc, hsound⟩ := hs b hb
    have hpast := calls_le ((List.prefix_append past [d]).trans h) id
    have hfair : b.poisoned = false → op.IsFair := by
      intro hp
      cases op with
      | put g m => exact fair d (mem_of_snoc h) g (by simp [put?_of_operation hop hb, hp])
      | _ => trivial
    obtain ⟨c', hc', hsound'⟩ := hsound.operate (by omega) hfair
    refine ⟨c', ?_, hsound'⟩
    rw [hcalls, hop]
    cases op with
    | next => simp only [Operation.claims, if_true] at hc' ⊢; omega
    | _ => simp only [Operation.claims] at hc'; omega
  · cases he.symm.trans hb'
    exact ⟨0, Nat.zero_le _, Buffer.sound_new (Buffer.isFresh_fetch ha hv)⟩
  · obtain ⟨c, hc, hsound⟩ := hs b' (he ▸ hb')
    exact ⟨c, by omega, hsound⟩

theorem sound_before (fair : IsFair id (p.deeds moves)) (few : calls id (p.deeds moves) < 2 ^ 62)
    (start : p.buffer? id = none) (h : past ++ [d] <+: p.deeds moves) :
    SoundAt id past d.pool :=
  deeds_induction_before (I := SoundAt id) (fun b hb => by simp [start] at hb)
    (fun _ _ => soundAt_step fair few) h

theorem sound_plays (fair : IsFair id (p.deeds moves)) (few : calls id (p.deeds moves) < 2 ^ 62)
    (start : p.buffer? id = none) : SoundAt id (p.deeds moves) (p.plays moves) :=
  deeds_induction (I := SoundAt id) (fun b hb => by simp [start] at hb)
    (fun _ _ => soundAt_step fair few)

/-- A buffer that has been called less than `2 ^ 62` times has room for another call. -/
theorem SoundAt.hasRoom {q : Pool} (hs : SoundAt id past q) (few : calls id past < 2 ^ 62)
    {b : Buffer} (hb : q.buffer? id = some b) : b.HasRoom := by
  obtain ⟨c, hc, hsound⟩ := hs b hb
  exact Buffer.Sound.hasRoom hsound (by omega)

theorem room_before (few : calls id (p.deeds moves) < 2 ^ 62)
    (h : past ++ [d] <+: p.deeds moves) (hs : SoundAt id past d.pool) {b : Buffer}
    (hb : d.pool.buffer? id = some b) : b.HasRoom := by
  have hpast := calls_le ((List.prefix_append past [d]).trans h) id
  exact hs.hasRoom (Nat.lt_of_le_of_lt hpast few) hb

end Pool

end IdIssuer

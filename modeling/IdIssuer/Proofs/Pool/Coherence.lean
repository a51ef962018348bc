import IdIssuer.Proofs.Buffer.Coherence
import IdIssuer.Proofs.Pool.Poison
import IdIssuer.Proofs.Pool.Steady

/-!
# Coherent buffers in a pool

As long as nobody handles its slot, a buffer in a pool is coherent at the beginning and at the end
of every deed (`coherentAt_deed`). What a deed may do with the segment that the buffer serves and
the one that it stages depends on whether it asks the buffer for an id (`treats_after`). Both hold
along every run (`coheres_plays`), also if prefetches end in another order than they were started.
-/

namespace IdIssuer

namespace Pool

variable {p : Pool} {id : BufferId} {moves : List Move} {past : List Deed} {d : Deed}
  {b b' : Buffer}

/-- What a deed may do with the segments of a buffer: the one being served changes only with a call
for an id, which claims from it while it lasts; what is staged stays until such a call finds the
other exhausted, and is not replaced by it. -/
structure Deed.Treats (d : Deed) (id : BufferId) (b b' : Buffer) : Prop where
  current : d.next? id = none → b'.current = b.current
  claimed : (d.next? id).isSome → b.current.isExhausted = false →
    b'.current = b.current.advance.2
  staged : ∀ g, b.staged = some g → b'.staged = some g ∨
    (d.next? id).isSome ∧ b.current.isExhausted = true ∧ b'.staged = none

theorem treats_of_fills (hnext : d.next? id = none) (fills : b.Fills b') : d.Treats id b b' :=
  ⟨fun _ => fills.current, by simp [hnext], fun g hg => .inl (fills.staged g hg)⟩

theorem treats_next {turn : Turn UInt64} (hnext : d.next? id = some turn) (room : b.HasRoom)
    (flagged : b.IsFlagged) : d.Treats id b (b.next d.pool.store).buffer := by
  have hsome : (d.next? id).isSome := Option.isSome_iff_exists.2 ⟨turn, hnext⟩
  refine ⟨fun hnone => ?_, fun _ hleft => ?_, fun g hg => ?_⟩
  · cases hnone.symm.trans hnext
  · have hlt : b.current.cursor < b.current.max := by
      rw [← UInt64.not_le, ← Segment.isExhausted_iff, hleft]
      exact Bool.false_ne_true
    exact (Buffer.fills_next hlt).current
  · rcases UInt64.lt_or_le b.current.cursor b.current.max with hlt | hle
    · exact .inl ((Buffer.fills_next hlt).staged g hg)
    · rcases Buffer.staged_next room flagged hle with hkept | hempty
      · exact .inl (hkept.trans hg)
      · exact .inr ⟨hsome, Segment.isExhausted_iff.2 hle, hempty⟩

/-- A deed treats every buffer so whose slot it does not handle. -/
theorem treats_after (hm : d.move.handles = false) (hb : d.pool.buffer? id = some b)
    (room : b.HasRoom) (flagged : b.IsFlagged) :
    ∃ b', d.after.buffer? id = some b' ∧ d.Treats id b b' := by
  rcases (d.pool.played d.move).buffer id with
    ⟨b₀, op, hop, hb₀, he, -⟩ | ⟨config, spawner, g, -, hnone, -⟩ | ⟨he, hnot⟩
  · cases hb.symm.trans hb₀
    refine ⟨_, he, ?_⟩
    by_cases hne : op = .next
    · subst hne
      exact treats_next (next?_of_operation hop hb) room flagged
    · apply treats_of_fills _ (Buffer.fills_operate hne (not_handles_operation hm hop))
      have hother : d.move.operation? d.pool ≠ some (id, .next) := by
        rw [hop]
        exact fun h => hne (congrArg Prod.snd (Option.some.inj h))
      exact if_neg hother
  · cases hb.symm.trans hnone
  · exact ⟨b, he.trans hb, treats_of_fills (next?_of_not_operated hnot) (.refl b)⟩

/-- The buffer, if it exists, is coherent and has room for another call. -/
structure CoherentAt (id : BufferId) (q : Pool) : Prop where
  coherent : ∀ b, q.buffer? id = some b → b.IsCoherent
  flagged : FlaggedAt id q
  room : ∀ b, q.buffer? id = some b → b.HasRoom

theorem coherentAt_plays (hm : ∀ d ∈ p.deeds moves, d.move.handles = false)
    (few : calls id (p.deeds moves) < 2 ^ 62) (start : p.buffer? id = none) :
    CoherentAt id (p.plays moves) := by
  have flagged := flaggedAt_plays hm start
  have sound := sound_plays (isFair_of_not_handles hm) few start
  refine ⟨fun b hb => ?_, flagged, fun b hb => sound.hasRoom few hb⟩
  obtain ⟨c, -, hsound⟩ := sound b hb
  exact hsound.isCoherent (flagged b hb)

/-- So it is at the beginning and at the end of every deed. -/
theorem coherentAt_deed (hm : ∀ d ∈ p.deeds moves, d.move.handles = false)
    (few : calls id (p.deeds moves) < 2 ^ 62) (start : p.buffer? id = none)
    (hd : d ∈ p.deeds moves) : CoherentAt id d.pool ∧ CoherentAt id d.after := by
  obtain ⟨past, h⟩ := exists_snoc_of_mem hd
  obtain ⟨first, rfl, hpool, hpast⟩ := eq_deeds_of_snoc h
  obtain ⟨upTo, hdeeds, hafter⟩ := eq_deeds_to h
  have coherent (l : List Move) (hl : p.deeds l <+: p.deeds moves) : CoherentAt id (p.plays l) :=
    coherentAt_plays (fun d' hd' => hm d' (hl.subset hd'))
      (Nat.lt_of_le_of_lt (calls_le hl id) few) start
  constructor
  · rw [hpool]
    exact coherent first hpast
  · rw [hafter]
    exact coherent upTo (hdeeds ▸ h)

/-- The buffer is coherent before and after each of some deeds and in the pool that they lead to,
and every deed treats its segments as it may. -/
structure Coheres (id : BufferId) (deeds : List Deed) (q : Pool) : Prop where
  last : ∀ b, q.buffer? id = some b → b.IsCoherent
  before : ∀ d ∈ deeds, ∀ b, d.pool.buffer? id = some b →
    b.IsCoherent ∧ ∃ b', d.after.buffer? id = some b' ∧ d.Treats id b b'
  after : ∀ d ∈ deeds, ∀ b, d.after.buffer? id = some b → b.IsCoherent

theorem coheres_plays (hm : ∀ d ∈ p.deeds moves, d.move.handles = false)
    (few : calls id (p.deeds moves) < 2 ^ 62) (start : p.buffer? id = none) :
    Coheres id (p.deeds moves) (p.plays moves) := by
  refine ⟨(coherentAt_plays hm few start).coherent, fun d hd b hb => ?_, fun d hd => ?_⟩
  · have h := (coherentAt_deed hm few start hd).1
    exact ⟨h.coherent b hb, treats_after (hm d hd) hb (h.room b hb) (h.flagged b hb)⟩
  · exact (coherentAt_deed hm few start hd).2.coherent

end Pool

end IdIssuer

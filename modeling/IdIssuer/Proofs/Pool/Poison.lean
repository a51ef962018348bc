import IdIssuer.Proofs.Buffer.Poison
import IdIssuer.Proofs.Pool.Sound

/-!
# Poisoned buffers in a pool

The lock of a buffer is poisoned in a pool just if an earlier deed has asked the buffer for an id
and ended in a panic of the store while the caller waited (`poisonedAt_plays`). From that deed on,
what the buffer serves and stages stays as it is (`frozenAt_since`).
-/

namespace IdIssuer

namespace Pool

/-- How the call of `next` that a deed makes on a buffer turns out. -/
def Deed.next? (id : BufferId) (d : Deed) : Option (Turn UInt64) :=
  if d.move.operation? d.pool = some (id, .next) then (d.pool.buffer? id).map (·.next d.pool.store)
  else none

/-- The deed asks a buffer for an id, and the store panics while the caller waits for it. -/
def Deed.Unwinds (id : BufferId) (d : Deed) : Prop :=
  ∃ turn call, d.next? id = some turn ∧ .fallback ∈ turn.events ∧ turn.outcome = .panicked call

/-- The lock of the buffer is poisoned. -/
def PoisonedAt (id : BufferId) (q : Pool) : Prop := ∃ b, q.buffer? id = some b ∧ b.poisoned = true

variable {p : Pool} {id : BufferId} {moves : List Move} {past : List Deed} {d : Deed} {b : Buffer}
  {op : Operation}

theorem next?_eq_some {turn : Turn UInt64} (h : d.next? id = some turn) :
    d.move.operation? d.pool = some (id, .next) ∧
      ∃ b, d.pool.buffer? id = some b ∧ turn = b.next d.pool.store := by
  unfold Deed.next? at h
  split_ifs at h with hop
  obtain ⟨b, hb, he⟩ := Option.map_eq_some_iff.1 h
  exact ⟨hop, b, hb, he.symm⟩

/-- No prefetch in the queue asks for an id. -/
theorem eq_operate_of_next {move : Move} (h : move.operation? p = some (id, .next)) :
    move = .operate id .next := by
  cases move with
  | operate id' op =>
    cases h
    rfl
  | finish | drop =>
    obtain ⟨head, -, h⟩ := Option.map_eq_some_iff.1 h
    cases h
  | request _ | fetch _ | create _ _ _ | tell _ => cases h

theorem next?_of_operation (hop : d.move.operation? d.pool = some (id, .next))
    (hb : d.pool.buffer? id = some b) : d.next? id = some (b.next d.pool.store) := by
  rw [Deed.next?, if_pos hop, hb, Option.map_some]

theorem next?_of_not_operated
    (h : ∀ op, d.move.operation? d.pool = some (id, op) → d.pool.buffer? id = none) :
    d.next? id = none := by
  cases hnext : d.next? id with
  | none => rfl
  | some turn =>
    obtain ⟨hop, b, hb, -⟩ := next?_eq_some hnext
    cases (h _ hop).symm.trans hb

theorem unwinds_iff (hop : d.move.operation? d.pool = some (id, op))
    (hb : d.pool.buffer? id = some b) : d.Unwinds id ↔ op = .next ∧ b.Unwinds d.pool.store := by
  constructor
  · rintro ⟨turn, call, hnext, hevent, houtcome⟩
    obtain ⟨hop', b', hb', rfl⟩ := next?_eq_some hnext
    cases hop.symm.trans hop'
    cases hb.symm.trans hb'
    exact ⟨rfl, hevent, call, houtcome⟩
  · rintro ⟨rfl, hevent, call, houtcome⟩
    exact ⟨_, call, next?_of_operation hop hb, hevent, houtcome⟩

theorem not_unwinds_of_not_operated
    (h : ∀ op, d.move.operation? d.pool = some (id, op) → d.pool.buffer? id = none) :
    ¬ d.Unwinds id := by
  rintro ⟨turn, call, hnext, -⟩
  cases (next?_of_not_operated h).symm.trans hnext

/-! ## What poisons a lock -/

theorem poisonedAt_after (id : BufferId) (d : Deed) :
    PoisonedAt id d.after ↔ PoisonedAt id d.pool ∨ d.Unwinds id := by
  unfold PoisonedAt
  rcases (d.pool.played d.move).buffer id with
    ⟨b, op, hop, hb, he, -⟩ | ⟨config, spawner, g, hmove, hb, -, -, -, he, -⟩ | ⟨he, hnot⟩
  · rw [Deed.after, he, unwinds_iff hop hb, hb]
    simpa using b.poisoned_operate d.pool.store op
  · have hnot : ¬ d.Unwinds id := not_unwinds_of_not_operated fun op hop => hb
    rw [Deed.after, he, hb]
    simp [hnot, Buffer.new]
  · rw [Deed.after, he]
    exact (or_iff_left (not_unwinds_of_not_operated hnot)).symm

/-- The lock of a buffer is poisoned by a call that has panicked while it waited, and by nothing
else. -/
theorem poisonedAt_step (h : PoisonedAt id d.pool ↔ ∃ d' ∈ past, d'.Unwinds id) :
    PoisonedAt id d.after ↔ ∃ d' ∈ past ++ [d], d'.Unwinds id := by
  rw [poisonedAt_after, h]
  simp [or_and_right, exists_or]

theorem poisonedAt_plays (start : p.buffer? id = none) (moves : List Move) :
    PoisonedAt id (p.plays moves) ↔ ∃ d ∈ p.deeds moves, d.Unwinds id :=
  deeds_induction (I := fun past q => PoisonedAt id q ↔ ∃ d ∈ past, d.Unwinds id)
    (by simp [PoisonedAt, start]) fun _ _ _ => poisonedAt_step

theorem poisonedAt_before (start : p.buffer? id = none) (h : past ++ [d] <+: p.deeds moves) :
    PoisonedAt id d.pool ↔ ∃ d' ∈ past, d'.Unwinds id :=
  deeds_induction_before (I := fun past q => PoisonedAt id q ↔ ∃ d ∈ past, d.Unwinds id)
    (by simp [PoisonedAt, start]) (fun _ _ _ => poisonedAt_step) h

/-! ## What is left of a buffer -/

/-- What the buffer serves and stages is what it was in a state in which it was ruined. -/
def FrozenAt (id : BufferId) (b : Buffer) (q : Pool) : Prop :=
  ∃ b', q.buffer? id = some b' ∧ b'.IsRuined ∧ b.Rests b'

theorem FrozenAt.after (h : FrozenAt id b d.pool)
    (room : ∀ b', d.pool.buffer? id = some b' → b'.HasRoom) : FrozenAt id b d.after := by
  obtain ⟨b', hb', hruined, hrests⟩ := h
  rcases (d.pool.played d.move).buffer id with
    ⟨b₁, op, -, hb₁, he, -⟩ | ⟨config, spawner, g, -, hnone, -⟩ | ⟨he, -⟩
  · cases hb'.symm.trans hb₁
    obtain ⟨hruined', hrests'⟩ := hruined.operate (room b' hb').first d.pool.store op
    exact ⟨_, he, hruined', hrests.trans hrests'⟩
  · cases hnone.symm.trans hb'
  · exact ⟨b', he.trans hb', hruined, hrests⟩

section

variable (fair : IsFair id (p.deeds moves)) (few : calls id (p.deeds moves) < 2 ^ 62)
  (start : p.buffer? id = none)

include fair few start

/-- A call that panics while it waits leaves the buffer ruined. -/
theorem frozenAt_of_unwinds (h : past ++ [d] <+: p.deeds moves) (hu : d.Unwinds id) :
    ∃ b, d.after.buffer? id = some b ∧ FrozenAt id b d.after := by
  obtain ⟨turn, call, hnext, hevent, houtcome⟩ := hu
  obtain ⟨hop, b, hb, rfl⟩ := next?_eq_some hnext
  have room := room_before few h (sound_before fair few start h) hb
  have hruined := Buffer.Unwinds.isRuined ⟨hevent, call, houtcome⟩ room
  rcases (d.pool.played d.move).buffer id with
    ⟨b', op, hop', hb', he, -⟩ | ⟨config, spawner, g, -, hnone, -⟩ | ⟨-, hnot⟩
  · cases hop.symm.trans hop'
    cases hb.symm.trans hb'
    exact ⟨_, he, _, he, hruined, .refl _⟩
  · cases hnone.symm.trans hb
  · cases (hnot _ hop).symm.trans hb

/-- From such a call on, the buffer serves and stages what it did when the call had ended. -/
theorem frozenAt_since (h : past ++ [d] <+: p.deeds moves) (hu : d.Unwinds id) :
    ∃ b, d.after.buffer? id = some b ∧ ∀ (later : List Deed) (d' : Deed),
      past ++ d :: later ++ [d'] <+: p.deeds moves →
        FrozenAt id b d'.pool ∧ FrozenAt id b d'.after := by
  obtain ⟨b, hb, hfrozen⟩ := frozenAt_of_unwinds fair few start h hu
  have hroom {past : List Deed} {d : Deed} (h : past ++ [d] <+: p.deeds moves) :
      ∀ b', d.pool.buffer? id = some b' → b'.HasRoom :=
    fun b' hb' => room_before few h (sound_before fair few start h) hb'
  refine ⟨b, hb, fun later d' h' => ?_⟩
  -- The induction is over the whole run, and says nothing before the call.
  have hbefore : past ++ [d] <+: past ++ d :: later → FrozenAt id b d'.pool := by
    refine deeds_induction_before
      (I := fun past' q => past ++ [d] <+: past' → FrozenAt id b q) ?_ ?_ h'
    · intro hnil
      exact absurd (List.prefix_nil.1 hnil) (List.append_ne_nil_of_right_ne_nil _ (by simp))
    · intro past' d₁ h₁ hi hpre
      rcases List.prefix_concat_iff.1 hpre with he | hpre
      · obtain ⟨-, hd⟩ := List.append_inj' he rfl
        cases hd
        exact hfrozen
      · exact (hi hpre).after (hroom h₁)
  have hpool := hbefore ⟨later, by simp⟩
  exact ⟨hpool, hpool.after (hroom h')⟩

/-- A buffer has nothing left to claim once its lock is poisoned. -/
theorem isRuined_before (h : past ++ [d] <+: p.deeds moves) (hb : d.pool.buffer? id = some b)
    (hp : b.poisoned = true) : b.IsRuined := by
  obtain ⟨d', hd', hunwinds⟩ := (poisonedAt_before start h).1 ⟨b, hb, hp⟩
  obtain ⟨first, between, rfl⟩ := List.append_of_mem hd'
  have hfirst : first ++ [d'] <+: p.deeds moves := .trans ⟨between ++ [d], by simp⟩ h
  obtain ⟨b₀, -, hsince⟩ := frozenAt_since fair few start hfirst hunwinds
  obtain ⟨⟨b₁, hb₁, hruined, -⟩, -⟩ := hsince between d h
  cases hb.symm.trans hb₁
  exact hruined

/-- A call of `next` is refused for the lock just if an earlier one has panicked while it waited. -/
theorem lockPoisoned_iff {turn : Turn UInt64} (h : past ++ [d] <+: p.deeds moves)
    (hnext : d.next? id = some turn) :
    turn.outcome = .failed .lockPoisoned ↔ ∃ d' ∈ past, d'.Unwinds id := by
  obtain ⟨hop, b, hb, rfl⟩ := next?_eq_some hnext
  have hpoisoned := poisonedAt_before start h
  rw [← hpoisoned]
  constructor
  · intro hfailed
    exact ⟨b, hb, b.poisoned_of_lockPoisoned hfailed⟩
  · rintro ⟨b', hb', hp⟩
    cases hb.symm.trans hb'
    have hruined := isRuined_before fair few start h hb hp
    rw [Buffer.next_of_poisoned hruined.dry hp]

end

/-! ## Prefetches in which the store panics -/

/-- If the store panics in an operation, either a caller was waiting for it, or the buffer is as if
the prefetch had been dropped unrun. -/
theorem after_of_panicked {call : ℕ} (hop : d.move.operation? d.pool = some (id, op))
    (hb : d.pool.buffer? id = some b)
    (hcall : d.after.store.history = ⟨b.tag, .panicked call⟩ :: d.pool.store.history)
    (hnot : ¬ d.Unwinds id) :
    d.after.buffer? id = some (b.skipPrefetch d.pool.store op) ∧
      d.after.store.ledger = d.pool.store.ledger := by
  rcases (d.pool.played d.move).buffer id with
    ⟨b', op', hop', hb', he, hstore⟩ | ⟨config, spawner, g, -, hnone, -⟩ | ⟨-, hnone⟩
  · cases hop.symm.trans hop'
    cases hb.symm.trans hb'
    rw [unwinds_iff hop hb] at hnot
    rw [Deed.after, he]
    have hcall' : (b.operate d.pool.store op).store.history =
        ⟨b.tag, .panicked call⟩ :: d.pool.store.history := hstore ▸ hcall
    obtain ⟨hcalled, ha, hledger⟩ :=
      (b.keeps_operate d.pool.store op).store.of_history hcall'
    refine ⟨congrArg some ((Buffer.operate_of_panicked hcalled ha).resolve_left hnot), ?_⟩
    rw [hstore]
    exact hledger
  · cases hnone.symm.trans hb
  · cases (hnone _ hop).symm.trans hb

end Pool

end IdIssuer

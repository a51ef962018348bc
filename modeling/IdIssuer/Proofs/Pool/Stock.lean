import IdIssuer.Proofs.Buffer.Stock
import IdIssuer.Proofs.Pool.Order
import IdIssuer.Proofs.Pool.Poison
import IdIssuer.Proofs.Pool.Steady

/-!
# Buffers through an outage

A store that yields the segments of a tag in order leaves what its buffer has staged behind what it
serves (`orderedAt_plays`). From then on let every call for the tag fail. Whatever is done in the
pool, the stock of the buffer is drawn upon by calls for an id, one id at a time, and by nothing
else (`draws_plays`), so that the number of calls so far tells how the next one turns out
(`Draws.next?`).
-/

namespace IdIssuer

namespace Pool

variable {p : Pool} {id : BufferId} {moves : List Move} {past : List Deed} {d : Deed}

/-- The buffer, if it exists, has staged what follows what it serves. -/
def OrderedAt (id : BufferId) (q : Pool) : Prop := ∀ b, q.buffer? id = some b → b.IsOrdered

theorem OrderedAt.after (h : OrderedAt id d.pool) (rising : Rising id past d.pool)
    (steady : SteadyAt id d.pool) (hm : d.move.handles = false)
    (room : ∀ b, d.pool.buffer? id = some b → b.HasRoom)
    (honest : IsHonest (yields id.tag (past ++ [d]))) : OrderedAt id d.after := by
  intro b' hb'
  rcases (d.pool.played d.move).buffer id with
    ⟨b, op, hop, hb, he, hstore⟩ | ⟨config, spawner, g, -, -, -, -, -, he, -⟩ | ⟨he, -⟩
  · cases he.symm.trans hb'
    rw [yields_append_single] at honest
    apply (h b hb).operate (steady b hb) (room b hb) (rising.known b hb)
      (not_handles_operation hm hop) _ honest
    rw [rising.filed id b hb, ← hstore]
    exact grants_after (fun r hr => by rw [hr] at hop; cases hop) id.tag
  · cases he.symm.trans hb'
    intro g' hg'
    cases hg'
  · exact h b' (he ▸ hb')

/-- Nothing is staged by hand, so all that is staged has been yielded. -/
theorem stagesYielded_of_not_handles {deeds : List Deed}
    (hm : ∀ d ∈ deeds, d.move.handles = false) : StagesYielded id deeds :=
  fun _ d h g hput => absurd hput (put?_of_not_handles (hm d (mem_of_snoc h)) g)

theorem orderedAt_plays (honest : IsHonest (yields id.tag (p.deeds moves)))
    (hm : ∀ d ∈ p.deeds moves, d.move.handles = false)
    (placid : ∀ d ∈ p.deeds moves, ¬ d.Panics) (few : calls id (p.deeds moves) < 2 ^ 62)
    (filed : p.IsFiled) (start : p.buffer? id = none) : OrderedAt id (p.plays moves) := by
  apply deeds_induction (I := fun _ => OrderedAt id)
  · intro b hb
    cases start.symm.trans hb
  intro past d h hi
  obtain ⟨first, rfl, hpool, hpast⟩ := eq_deeds_of_snoc h
  have hmFirst : ∀ d ∈ p.deeds first, d.move.handles = false :=
    fun d' hd' => hm d' (hpast.subset hd')
  have hrising : Rising id (p.deeds first) d.pool := by
    rw [hpool]
    exact rising_plays (honest.before (yields_before hpast id.tag))
      (stagesYielded_of_not_handles hmFirst) (Nat.lt_of_le_of_lt (calls_le hpast id) few) filed
      start
  have hsteady : SteadyAt id d.pool := by
    rw [hpool]
    exact steadyAt_plays hmFirst start fun d' hd' => placid d' (hpast.subset hd')
  have hsound := sound_before (isFair_of_not_handles hm) few start h
  exact hi.after hrising hsteady (hm d (mem_of_snoc h)) (fun b => room_before few h hsound)
    (honest.before (yields_before h id.tag))

/-! ## The outage -/

/-- The deed leaves the slot of the buffer alone, and if it calls the store for its tag, the call
fails. -/
structure Deed.IsStarved (id : BufferId) (d : Deed) : Prop where
  calm : d.pool.store.script.IsCalm
  room : ∀ b, d.pool.buffer? id = some b → b.HasRoom
  leaves : d.move.handles = false
  down : d.pool.store.IsDown id.tag d.after.store

/-- What an outage has come to so far: the calls for an id have used up as many ids from the stock
as there were, in order, and the rest is still there. -/
structure Draws (id : BufferId) (stock : List UInt64) (past : List Deed) (q : Pool) : Prop where
  filed : q.IsFiled
  buffer : ∃ b, q.buffer? id = some b ∧ b.IsSteady ∧ b.IsOrdered ∧
    b.stock = stock.drop (calls id past)
  ids : idsBy id (past.filterMap Deed.issue?) = stock.take (calls id past)

variable {stock : List UInt64}

/-- A deed that neither asks the buffer for an id nor touches its stock. -/
theorem Draws.of_rests (h : Draws id stock past d.pool)
    (hop : d.move.operation? d.pool ≠ some (id, .next))
    (hissue : idsBy id d.issue?.toList = [])
    (hbuffer : ∃ b, d.after.buffer? id = some b ∧ b.IsSteady ∧ b.IsOrdered ∧
      b.stock = stock.drop (calls id past)) : Draws id stock (past ++ [d]) d.after := by
  have hcalls : calls id (past ++ [d]) = calls id past := by
    rw [calls_append_single, if_neg hop, Nat.add_zero]
  refine ⟨(d.pool.played d.move).isFiled h.filed, ?_, ?_⟩
  · rwa [hcalls]
  · rw [hcalls, issues_append_single, idsBy_append, hissue, List.append_nil]
    exact h.ids

theorem Draws.after (h : Draws id stock past d.pool) (starved : d.IsStarved id) :
    Draws id stock (past ++ [d]) d.after := by
  obtain ⟨b, hb, steady, ordered, hstock⟩ := h.buffer
  rcases (d.pool.played d.move).buffer id with
    ⟨b', op, hop, hb', he, hstore⟩ | ⟨config, spawner, g, -, hnone, -⟩ | ⟨he, hne⟩
  · cases hb.symm.trans hb'
    have hroom := starved.room b hb
    have hhandles := not_handles_operation starved.leaves hop
    have hdown : d.pool.store.IsDown b.tag (b.operate d.pool.store op).store := by
      rw [h.filed id b hb, ← hstore]
      exact starved.down
    have hsteady : (b.operate d.pool.store op).buffer.IsSteady := by
      apply steady.operate hhandles
      intro call hcall
      exact not_panics starved.calm ⟨b.tag, call, hstore ▸ hcall⟩
    have hordered := ordered.operate_of_down steady hroom hhandles hdown
    have hids := idsBy_of_operation hop hb
    by_cases hnext : op = .next
    · subst hnext
      have hspends := Buffer.spends_next steady ordered hroom starved.calm hdown
      have hcalls : calls id (past ++ [d]) = calls id past + 1 := by
        rw [calls_append_single, if_pos hop]
      refine ⟨(d.pool.played d.move).isFiled h.filed, ⟨_, he, hsteady, hordered, ?_⟩, ?_⟩
      · rw [hcalls, ← List.tail_drop, ← hstock]
        exact hspends.stock
      · rw [hcalls, List.take_add_one, issues_append_single, idsBy_append, h.ids, hids,
          ← List.head?_drop, ← hstock]
        exact congrArg (fun id? => stock.take (calls id past) ++ id?.toList) hspends.issued
    · obtain ⟨hcurrent, hstaged⟩ := Buffer.rests_of_down hnext hhandles hdown
      apply h.of_rests
      · rw [hop]
        rintro ⟨⟩
        exact hnext rfl
      · rw [hids, issued_operate_of_ne hnext]
        rfl
      · exact ⟨_, he, hsteady, hordered, (Buffer.stock_of_eq hcurrent hstaged).trans hstock⟩
  · cases hnone.symm.trans hb
  · apply h.of_rests
    · intro hop
      cases (hne _ hop).symm.trans hb
    · exact idsBy_of_not_operated hne
    · exact ⟨b, he.trans hb, steady, ordered, hstock⟩

theorem draws_plays (start : Draws id stock [] p)
    (starved : ∀ d ∈ p.deeds moves, d.IsStarved id) :
    Draws id stock (p.deeds moves) (p.plays moves) :=
  deeds_induction start fun _ d h hi => hi.after (starved d (mem_of_snoc h))

theorem draws_before (start : Draws id stock [] p)
    (starved : ∀ d ∈ p.deeds moves, d.IsStarved id) (h : past ++ [d] <+: p.deeds moves) :
    Draws id stock past d.pool :=
  deeds_induction_before start (fun _ d h hi => hi.after (starved d (mem_of_snoc h))) h

/-- How a call for an id turns out in an outage. -/
theorem Draws.next? {turn : Turn UInt64} (h : Draws id stock past d.pool)
    (starved : d.IsStarved id) (hnext : d.next? id = some turn) :
    (∀ n, stock[calls id past]? = some n → turn.outcome = .done n) ∧
    (stock[calls id past]? = none → ∃ e, turn.outcome = .failed (.allocation id.tag e) ∧
      turn.store.history = ⟨id.tag, .failed e⟩ :: d.pool.store.history) := by
  obtain ⟨b, hb, steady, ordered, hstock⟩ := h.buffer
  obtain ⟨hop, b', hb', rfl⟩ := next?_eq_some hnext
  cases hb.symm.trans hb'
  have htag : b.tag = id.tag := h.filed id b hb
  have hdown : d.pool.store.IsDown b.tag (b.next d.pool.store).store := by
    obtain ⟨pending, hplay, -⟩ := play_of_operation hop hb
    rw [htag]
    have hstore : d.after.store = (b.next d.pool.store).store := by rw [Deed.after, hplay]; rfl
    exact hstore ▸ starved.down
  rw [← List.head?_drop, ← hstock]
  cases Buffer.spends_next steady ordered (starved.room b hb) starved.calm hdown with
  | @served n rest hs ho hb =>
    rw [hs]
    refine ⟨fun n' hn => ?_, fun hnone => absurd hnone (Option.some_ne_none n)⟩
    cases hn
    exact ho
  | @refused e hs ho hh hb =>
    rw [hs, ← htag]
    exact ⟨fun n hn => absurd hn.symm (Option.some_ne_none n), fun _ => ⟨e, ho, hh⟩⟩

end Pool

end IdIssuer

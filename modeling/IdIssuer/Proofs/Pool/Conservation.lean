import IdIssuer.Proofs.Buffer.Conservation
import IdIssuer.Proofs.Pool.Orderly
import IdIssuer.Proofs.Pool.Ownership

/-!
# No id gets lost

As long as all deeds are orderly towards a tag, its ids are in three places: handed out, left in a
segment that is being served, or staged. Together these are the ids between the boundary with which
the tag was registered and the one that it has reached, each of them in one place (`Conserved`).
Every deed keeps that up (`conserved_step`), so it holds after every run (`conserved_plays`).
-/

namespace IdIssuer

namespace Segment

/-- The ids of a segment that are left to claim, in order. -/
def rest (s : Segment) : List UInt64 := between s.position s.max

theorem mem_between {base top n : UInt64} : n ∈ between base top ↔ base < n ∧ n ≤ top := by
  have hn := n.toNat_lt
  have htop := top.toNat_lt
  simp only [between, List.mem_map, List.mem_range'_1, UInt64.lt_iff_toNat_lt,
    UInt64.le_iff_toNat_le]
  constructor
  · rintro ⟨k, hk, rfl⟩
    have hword : (UInt64.ofNat k).toNat = k :=
      UInt64.toNat_ofNat_of_lt' (by change k < 2 ^ 64; omega)
    omega
  · intro h
    exact ⟨n.toNat, by omega, UInt64.ofNat_toNat⟩

theorem nodup_between (base top : UInt64) : (between base top).Nodup := by
  have h : ((between base top).map UInt64.toNat).Nodup := by
    rw [map_toNat_between]
    exact List.nodup_range'
  exact h.of_map _

theorem count_between (base top n : UInt64) :
    (between base top).count n = if base < n ∧ n ≤ top then 1 else 0 := by
  rw [(nodup_between base top).count]
  simp only [mem_between]

theorem count_rest (s : Segment) (n : UInt64) : s.rest.count n = s.holds n := by
  have hposition := s.toNat_position
  have hiff : s.position < n ∧ n ≤ s.max ↔ s.cursor < n ∧ n ≤ s.max := by
    simp only [UInt64.lt_iff_toNat_lt, UInt64.le_iff_toNat_le]
    omega
  simp only [rest, count_between, holds, hiff]

theorem IsFresh.count_ids {g : Segment} (h : g.IsFresh) (n : UInt64) :
    g.ids.count n = g.holds n := by
  rw [ids, count_between, holds, h.2]

end Segment

namespace Pool

/-- The ids that are left to claim from the segments being served for a tag. -/
def unclaimed (p : Pool) (tag : String) : List UInt64 :=
  (p.buffersOf tag).flatMap (·.current.rest)

/-- The ids of the segments staged for a tag. -/
def standby (p : Pool) (tag : String) : List UInt64 :=
  (p.buffersOf tag).flatMap fun b => b.staged.toList.flatMap Segment.ids

variable {p p' : Pool} {move : Move} {tag : String}

/-- All buffers of a tag are tidy. -/
def IsTidy (tag : String) (p : Pool) : Prop :=
  ∀ id b, id.tag = tag → p.buffer? id = some b → b.Tidy p.store

theorem mem_buffersOf_iff {b : Buffer} :
    b ∈ p.buffersOf tag ↔ ∃ index, p.buffer? ⟨tag, index⟩ = some b := List.mem_iff_getElem?

/-- What the buffers of a tag hold is left to claim or staged. -/
theorem count_unclaimed_add (tidy : p.IsTidy tag) (n : UInt64) :
    (p.unclaimed tag).count n + (p.standby tag).count n = p.holds tag n := by
  have hfresh : ∀ b ∈ p.buffersOf tag, ∀ g, b.staged = some g → g.IsFresh := by
    intro b hb g hg
    obtain ⟨index, hb⟩ := mem_buffersOf_iff.1 hb
    exact ((tidy _ b rfl hb).staged g hg).1
  unfold unclaimed standby holds
  generalize p.buffersOf tag = list at hfresh
  induction list with
  | nil => rfl
  | cons b rest ih =>
    have hrest := ih fun b hb => hfresh b (List.mem_cons_of_mem _ hb)
    have hstaged : (b.staged.toList.flatMap Segment.ids).count n = b.staged.elim 0 (·.holds n) := by
      cases hg : b.staged with
      | none => rfl
      | some g => simp [(hfresh b List.mem_cons_self g hg).count_ids]
    rw [List.flatMap_cons, List.flatMap_cons, List.count_append, List.count_append, hstaged,
      Segment.count_rest, List.map_cons, List.sum_cons, Buffer.holds]
    omega

/-! ## One deed -/

/-- What is reserved stays reserved. -/
theorem Played.reserved_le (h : Played p move p') (free : p.store.script.GivesNothing)
    (tag : String) (n : UInt64) :
    p.store.ledger.reserved tag n ≤ p'.store.ledger.reserved tag n := by
  rcases h.store with ⟨t, hcalls⟩ | ⟨r, -, he⟩
  · exact hcalls.reserved_le free tag n
  · have hreserved := reserved_answer p r tag n
    rw [he]
    omega

section

variable (orderly : (⟨p, move⟩ : Deed).IsOrderly tag) (free : p.store.script.GivesNothing)
  (calm : p.store.script.IsCalm) (filed : p.IsFiled) (waiting : p.IsWaiting)
  (tidy : p.IsTidy tag) (room : ∀ id b, id.tag = tag → p.buffer? id = some b → b.HasRoom)

include orderly free calm waiting tidy room

/-- What an orderly deed does to a buffer of the tag leaves it tidy, and loses nothing. -/
theorem conserves_operated {id : BufferId} {op : Operation} {b : Buffer}
    {pending : List BufferId} (ht : id.tag = tag) (hb : p.buffer? id = some b)
    (hq : pending = p.pending ∧ move = .operate id op ∨
      p.pending = id :: pending ∧ (op = .finish ∨ op = .drop)) :
    (b.operate p.store op).buffer.Tidy (b.operate p.store op).store ∧
      b.Conserves p.store (b.operate p.store op).buffer (b.operate p.store op).store
        (b.operate p.store op).outcome.issued.toList :=
  Buffer.conserves_operate free calm (tidy id b ht hb) (room id b ht hb)
    (isOrderly_operation (ht ▸ orderly) waiting hb hq)

theorem isTidy_step (h : Played p move p') : p'.IsTidy tag := by
  intro id b' ht hb'
  have hle := h.reserved_le free
  have still (he : p'.buffer? id = p.buffer? id) : b'.Tidy p'.store :=
    (tidy id b' ht (he ▸ hb')).mono (hle _)
  have hbuffer := h.buffer id
  cases h with
  | @operated move id₀ op b pending hop hb hq =>
    by_cases hid : id₀ = id
    · subst hid
      have hb₀ : { p with pending }.buffer? id₀ = some b := hb
      rw [buffer?_settle, if_pos rfl, hb₀] at hb'
      cases hb'
      exact (conserves_operated orderly free calm waiting tidy room ht hb hq).1
    · exact still (by rw [buffer?_settle, if_neg hid]; rfl)
  | @created t config spawner g log ha hv =>
    rcases hbuffer with
      ⟨b, op, hop, -⟩ | ⟨config', spawner', g', hmove, -, -, ha', -, he, -⟩ | ⟨he, -⟩
    · cases hop
    · cases hmove
      cases he.symm.trans hb'
      exact Buffer.tidy_new free ha'
    · exact still he
  | refused ha => exact still rfl
  | fetched t => exact still rfl
  | requested r => exact still rfl
  | idle hc hop hq => exact still rfl

include filed

/-- An orderly deed hands out what was held or is reserved by it, and loses nothing. -/
theorem conserves_step (h : Played p move p') (n : UInt64) :
    (idsOf tag (⟨p, move⟩ : Deed).issue?.toList).count n + p'.holds tag n +
        ((⟨p, move⟩ : Deed).origin? tag).toList.countP (n ≤ ·) + p.store.ledger.reserved tag n =
      p.holds tag n + p'.store.ledger.reserved tag n := by
  have quiet (hissue : (⟨p, move⟩ : Deed).issue? = none)
      (hsum : p'.holds tag n + ((⟨p, move⟩ : Deed).origin? tag).toList.countP (n ≤ ·) +
          p.store.ledger.reserved tag n = p.holds tag n + p'.store.ledger.reserved tag n) :
      (idsOf tag (⟨p, move⟩ : Deed).issue?.toList).count n + p'.holds tag n +
          ((⟨p, move⟩ : Deed).origin? tag).toList.countP (n ≤ ·) +
          p.store.ledger.reserved tag n =
        p.holds tag n + p'.store.ledger.reserved tag n := by
    simp only [hissue, idsOf, Option.toList_none, List.filterMap_nil, List.count_nil]
    omega
  cases h with
  | @operated move id op b pending hop hb hq =>
    have hsettle := holds_settle (p := { p with pending }) hb (b.operate p.store op) tag n
    have hholds : { p with pending }.holds tag n = p.holds tag n := rfl
    have hstore : ({ p with pending }.settle id (b.operate p.store op)).store =
        (b.operate p.store op).store := rfl
    rw [hholds] at hsettle
    rw [(readers_of_operation hop tag).2, issue?_of_operation hop hb, idsOf_issued, hstore,
      Option.toList_none, List.countP_nil]
    by_cases ht : id.tag = tag
    · have hconserves := (conserves_operated orderly free calm waiting tidy room ht hb hq).2 n
      rw [filed id b hb, ht] at hconserves
      rw [if_pos ht, if_pos ht] at hsettle
      rw [if_pos ht]
      omega
    · rw [if_neg ht, if_neg ht] at hsettle
      rw [if_neg ht, List.count_nil,
        (b.keeps_operate p.store op).store.reserved_of_ne ((filed id b hb).symm ▸ ht)]
      omega
  | @created t config spawner g log ha hv =>
    refine quiet (readers_of_call p _ rfl).1 ?_
    have hcall := reserved_call free t tag n
    have hholds := holds_created ha config spawner log tag n
    simp only [hholds, Deed.origin?, Option.toList_none, List.countP_nil]
    omega
  | @refused t config spawner ha =>
    refine quiet (readers_of_call p _ rfl).1 ?_
    have hholds : { p with store := (p.store.fetch t).2 }.holds tag n = p.holds tag n := rfl
    have hcall := reserved_call free t tag n
    have hnone : Call.grant? tag ⟨t, (p.store.fetch t).1⟩ = none := by
      cases hf : (p.store.fetch t).1 with
      | failed _ | panicked _ => rfl
      | segment g =>
        have hvalid := (Store.reserved_of_fetch free hf).1.1
        rw [ha g hf] at hvalid
        cases hvalid
    rw [hnone] at hcall
    simp only [hholds, hcall, held, Deed.origin?, Option.toList_none, List.countP_nil,
      List.map_nil, List.sum_nil]
    omega
  | fetched t =>
    refine quiet (readers_of_call p (.fetch t) rfl).1 ?_
    have ht : t ≠ tag := orderly
    have hholds : { p with store := (p.store.fetch t).2 }.holds tag n = p.holds tag n := rfl
    have hcalls : p.store.Calls t (p.store.fetch t).2 := .inr rfl
    simp only [hholds, hcalls.reserved_of_ne ht, Deed.origin?, Option.toList_none,
      List.countP_nil]
    omega
  | requested r =>
    refine quiet (readers_of_call p (.request r) rfl).1 ?_
    have hr : r ≠ .fetch tag := orderly
    have hcall := reserved_answer p r tag n
    have hloans : (⟨p, .request r⟩ : Deed).loans tag = [] :=
      List.eq_nil_iff_forall_not_mem.2 fun g hg => hr (mem_loans_request hg).1
    have hholds : { p with store := (p.store.answer r).2 }.holds tag n = p.holds tag n := rfl
    rw [hloans] at hcall
    simp only [held, List.map_nil, List.sum_nil] at hcall
    simp only [hholds]
    omega
  | @idle move pending log hc hop hq =>
    obtain ⟨hissue, -, -, horigin⟩ := readers_of_idle hc hop tag
    refine quiet hissue ?_
    have hholds : { p with pending, log }.holds tag n = p.holds tag n := rfl
    simp only [horigin, hholds, Option.toList_none, List.countP_nil]
    omega

end

/-! ## Runs -/

/-- The ids of a tag that have been reserved since it was registered have been handed out or are
held by its buffers, each of them once. -/
structure Conserved (tag : String) (past : List Deed) (q : Pool) : Prop where
  filed : q.IsFiled
  tidy : q.IsTidy tag
  rows : (origins tag past).length = q.rows tag
  whole : ∀ n, (idsOf tag (past.filterMap Deed.issue?)).count n + q.holds tag n +
      (origins tag past).countP (n ≤ ·) = q.store.ledger.reserved tag n

theorem conserved_step {past : List Deed} {d : Deed} (orderly : d.IsOrderly tag)
    (free : d.pool.store.script.GivesNothing) (calm : d.pool.store.script.IsCalm)
    (waiting : d.pool.IsWaiting)
    (room : ∀ id b, id.tag = tag → d.pool.buffer? id = some b → b.HasRoom)
    (h : Conserved tag past d.pool) : Conserved tag (past ++ [d]) d.after := by
  have hplayed := d.pool.played d.move
  refine ⟨hplayed.isFiled h.filed, isTidy_step orderly free calm waiting h.tidy room hplayed, ?_,
    fun n => ?_⟩
  · have hrows : (d.origin? tag).toList.length + d.pool.rows tag = d.after.rows tag :=
      hplayed.rows tag
    rw [origins_append_single, List.length_append, h.rows]
    omega
  · have hstep : (idsOf tag d.issue?.toList).count n + d.after.holds tag n +
        (d.origin? tag).toList.countP (n ≤ ·) + d.pool.store.ledger.reserved tag n =
      d.pool.holds tag n + d.after.store.ledger.reserved tag n :=
      conserves_step orderly free calm h.filed waiting h.tidy room hplayed n
    have hpast := h.whole n
    rw [issues_append_single, idsOf_append, List.count_append, origins_append_single,
      List.countP_append]
    omega

/-- The ids between the boundary at registration and the present one are those handed out, those
left to claim, and those staged. -/
theorem Conserved.perm {past : List Deed} {q : Pool} (h : Conserved tag past q) {m₀ : UInt64}
    (registered : m₀ ∈ origins tag past) :
    ∃ m, q.store.ledger.boundary tag = .ok m ∧
      (idsOf tag (past.filterMap Deed.issue?) ++ q.unclaimed tag ++ q.standby tag).Perm
        (Segment.between m₀ m) := by
  have hrows := h.rows
  have hwhole := h.whole
  unfold Pool.rows at hrows
  unfold Ledger.reserved at hwhole
  cases hrow : q.store.ledger.rows.get? tag with
  | none =>
    rw [hrow, Option.isSome_none, Bool.toNat_false, List.length_eq_zero_iff] at hrows
    rw [hrows] at registered
    cases registered
  | some row =>
    rw [hrow, Option.isSome_some, Bool.toNat_true] at hrows
    obtain ⟨origin, horigin⟩ := List.length_eq_one_iff.1 hrows
    rw [horigin, List.mem_singleton] at registered
    subst registered
    refine ⟨row.boundary, by simp [Ledger.boundary, hrow], List.perm_iff_count.2 fun n => ?_⟩
    have hn := hwhole n
    have hheld := count_unclaimed_add h.tidy n
    rw [hrow, horigin, List.countP_singleton] at hn
    rw [List.append_assoc, List.count_append, List.count_append, Segment.count_between, hheld]
    simp only [decide_eq_true_eq, UInt64.lt_iff_toNat_lt, UInt64.le_iff_toNat_le] at hn ⊢
    split_ifs at hn ⊢ <;> omega

theorem conserved_plays {moves : List Move} (free : p.store.script.GivesNothing)
    (calm : p.store.script.IsCalm) (orderly : ∀ d ∈ p.deeds moves, d.IsOrderly tag)
    (queued : ∀ d ∈ p.deeds moves, d.move.skipsQueue = false)
    (few : ∀ id : BufferId, id.tag = tag → calls id (p.deeds moves) < 2 ^ 62)
    (absent : ∀ id : BufferId, id.tag = tag → p.buffer? id = none) (waiting : p.IsWaiting)
    (start : Conserved tag [] p) : Conserved tag (p.deeds moves) (p.plays moves) := by
  apply deeds_induction start
  intro past d h hi
  have hd := mem_of_snoc h
  have hscript := script_deeds hd
  refine conserved_step (orderly d hd) (hscript ▸ free) (hscript ▸ calm)
    (isWaiting_before queued waiting h) (fun id b ht hb => ?_) hi
  exact room_before (few id ht) h
    (sound_before (isFair_of_orderly orderly ht) (few id ht) (absent id ht) h) hb

end Pool

end IdIssuer

import IdIssuer.Proofs.Buffer.Pace
import IdIssuer.Proofs.Pool.Counter
import IdIssuer.Proofs.Pool.Poison

/-!
# Reservations of a tag are counted

A tag that is left to one buffer and keeps its step stands one step higher for every segment that
the store has yielded for it, and its buffer goes through those segments at that pace. `Metered`
says so, and every deed keeps it up as long as the buffer is not refused an id (`metered_step`).
-/

namespace IdIssuer

namespace Store

variable {σ σ' : Store} {tag t : String} {m₀ s : ℕ} {m : UInt64}

theorem grants_fetch_of_ne (σ : Store) (ht : t ≠ tag) :
    (σ.fetch t).2.grants tag = σ.grants tag := by
  rw [grants_fetch]
  cases (σ.fetch t).1 <;> simp [Call.grant?, ht]

theorem Calls.grants_of_ne (hc : σ.Calls t σ') (ht : t ≠ tag) : σ'.grants tag = σ.grants tag := by
  rcases hc with rfl | rfl
  · rfl
  · exact σ.grants_fetch_of_ne ht

/-- The tag stands one step above a boundary for every segment that the store has yielded. -/
def Meters (σ : Store) (tag : String) (m₀ s : ℕ) : Prop :=
  ∃ m, σ.Stands tag m ∧ m.toNat = m₀ + (σ.grants tag).length * s

theorem Meters.calls_of_ne (h : σ.Meters tag m₀ s) (hc : σ.Calls t σ') (ht : t ≠ tag) :
    σ'.Meters tag m₀ s := by
  obtain ⟨m, hs, hm⟩ := h
  exact ⟨m, hs.calls_of_ne hc ht, by rw [hc.grants_of_ne ht, hm]⟩

theorem Meters.answer (h : σ.Meters tag m₀ s) {r : Ledger.Request} (hr : r ≠ .fetch tag) :
    (σ.answer r).2.Meters tag m₀ s := by
  obtain ⟨m, hs, hm⟩ := h
  exact ⟨m, hs.answer hr, hm⟩

/-- A call for the tag yields one step more, or nothing. -/
theorem Meters.calls (h : σ.Meters tag m₀ s) (free : σ.script.GivesNothing)
    (calm : σ.script.IsCalm) (hstep : σ.HasStep tag s) (hc : σ.Calls tag σ') :
    σ'.Meters tag m₀ s := by
  rcases hc with rfl | rfl
  · exact h
  obtain ⟨m, hs, hm⟩ := h
  rcases hs.fetch free calm with ⟨e, ha, -, hs'⟩ | ⟨g, ha, -, hbase, -, hs'⟩
  · refine ⟨m, hs', ?_⟩
    rw [grants_fetch, ha, hm]
    simp [Call.grant?]
  · refine ⟨g.max, hs', ?_⟩
    rw [grants_fetch_segment ha, List.length_append, List.length_singleton, Nat.succ_mul,
      hstep.span free ha, hbase, hm, Nat.add_assoc]

end Store

namespace Pool

/-- The store has yielded nothing for the tag as long as that has no buffer. Once it is registered,
it stands one step higher for every segment yielded, and its buffer keeps that pace. -/
structure Metered (tag : String) (s : ℕ) (p : Pool) (origin : List UInt64) : Prop where
  blank : p.buffersOf tag = [] → p.store.grants tag = []
  meters : ∀ m₀ ∈ origin, p.store.Meters tag m₀.toNat s
  paced : ∀ m₀ ∈ origin, ∀ b, p.buffer? ⟨tag, 0⟩ = some b → b.Paced m₀.toNat s

variable {p p' : Pool} {move : Move} {tag : String} {s : ℕ} {origin ids : List UInt64}

theorem metered_new (σ : Store) (hnone : σ.grants tag = []) : (Pool.new σ).Metered tag s [] :=
  ⟨fun _ => hnone, nofun, nofun⟩

/-- The buffer of the tag has room for one more call. -/
theorem Metered.hasRoom (h : p.Metered tag s origin) (hc : Counted tag p origin ids) {b : Buffer}
    (hb : p.buffer? ⟨tag, 0⟩ = some b) : b.HasRoom := by
  cases hc with
  | unregistered _ hnone | unused _ hnone =>
    rw [buffer?, hnone] at hb
    cases hb
  | counting hs hb₀ ht hl hle =>
    obtain rfl := eq_first_of_buffersOf hb₀ hb
    exact (h.paced _ List.mem_cons_self b hb).hasRoom hl

theorem Metered.of_calls {t : String} (h : p.Metered tag s origin)
    (hb : p'.buffersOf tag = p.buffersOf tag) (hc : p.store.Calls t p'.store) (ht : t ≠ tag) :
    p'.Metered tag s origin := by
  refine ⟨fun hnone => ?_, fun m₀ hm => (h.meters m₀ hm).calls_of_ne hc ht, fun m₀ hm b hb' => ?_⟩
  · rw [hc.grants_of_ne ht]
    exact h.blank (hb ▸ hnone)
  · rw [buffer?, hb] at hb'
    exact h.paced m₀ hm b hb'

section

variable (free : p.store.script.GivesNothing) (calm : p.store.script.IsCalm)
  (hstep : p.store.HasStep tag s)

include free calm hstep

/-- The first segment of the tag begins where the tag was registered. -/
theorem Metered.create (h : p.Metered tag s origin) (hb : p.buffersOf tag = []) {g : Segment}
    (ha : (p.store.fetch tag).1 = .segment g) (config : Config)
    (spawner : Spawner) (log : List Event) :
    (⟨(p.store.fetch tag).2, p.buffers.insert tag (p.buffersOf tag ++ [.new tag config spawner g]),
      p.pending, log⟩ : Pool).Metered tag s origin := by
  have hbuffers : (⟨(p.store.fetch tag).2,
      p.buffers.insert tag (p.buffersOf tag ++ [.new tag config spawner g]), p.pending, log⟩ :
        Pool).buffersOf tag = [.new tag config spawner g] := by
    rw [buffersOf_insert, if_pos rfl, hb]
    rfl
  refine ⟨fun hnone => ?_, fun m₀ hm => (h.meters m₀ hm).calls free calm hstep (.inr rfl),
    fun m₀ hm b hb' => ?_⟩
  · rw [hbuffers] at hnone
    cases hnone
  · rw [buffer?, hbuffers] at hb'
    cases hb'
    obtain ⟨m, hs, hcount⟩ := h.meters m₀ hm
    rcases hs.fetch free calm with ⟨e, he, -⟩ | ⟨g', hg, hfresh, hbase, -⟩
    · rw [ha] at he
      cases he
    · cases ha.symm.trans hg
      have hfirst : g.base.toNat = m₀.toNat := by
        rw [hbase, hcount, h.blank hb, List.length_nil, Nat.zero_mul, Nat.add_zero]
      rw [← hfirst]
      exact Buffer.paced_new hfresh (hstep.span free ha)

theorem Metered.refused (h : p.Metered tag s origin)
    (ha : ∀ g, (p.store.fetch tag).1 = .segment g → g.isValid = false) :
    { p with store := (p.store.fetch tag).2 }.Metered tag s origin := by
  refine ⟨fun hnone => ?_, fun m₀ hm => (h.meters m₀ hm).calls free calm hstep (.inr rfl), h.paced⟩
  show (p.store.fetch tag).2.grants tag = []
  rw [Store.grants_fetch, h.blank hnone]
  rcases Store.fetch_cases free tag with ⟨hnot, -⟩ | ⟨row, g, -, hy, hg, -⟩
  · cases hf : (p.store.fetch tag).1 with
    | segment g => exact absurd hf (hnot g)
    | failed _ | panicked _ => rfl
  · exact absurd hy.isFresh.1 (by simp [ha g hg])

/-- An operation on the buffer keeps the pace, unless it is a call that is refused an id. -/
theorem Metered.operate {op : Operation} {b : Buffer} (pending : List BufferId)
    (h : p.Metered tag s origin) (hc : Counted tag p origin ids)
    (hb : p.buffer? ⟨tag, 0⟩ = some b) (hop : op.IsOrderly b)
    (served : op = .next → ∃ n, (b.next p.store).outcome = .done n) :
    ({ p with pending }.settle ⟨tag, 0⟩ (b.operate p.store op)).Metered tag s origin := by
  cases hc with
  | unregistered _ hnone | unused _ hnone =>
    rw [buffer?, hnone] at hb
    cases hb
  | @counting m₀ m b₀ hs hb₀ ht hl hle =>
    obtain rfl := eq_first_of_buffersOf hb₀ hb
    have hcalls : p.store.Calls tag (b.operate p.store op).store :=
      ht ▸ (b.keeps_operate p.store op).store
    have hbuffer : ({ p with pending }.settle ⟨tag, 0⟩ (b.operate p.store op)).buffer? ⟨tag, 0⟩ =
        some (b.operate p.store op).buffer := by
      rw [buffer?_settle, if_pos rfl]
      exact congrArg (Option.map _) hb
    refine ⟨fun hnone => ?_, fun m₁ hm => (h.meters m₁ hm).calls free calm hstep hcalls,
      fun m₁ hm b' hb' => ?_⟩
    · rw [buffer?, hnone] at hbuffer
      cases hbuffer
    · cases hbuffer.symm.trans hb'
      rw [← ht] at hs hstep
      exact (h.paced m₁ hm b hb).operate free hstep calm hl hs hop served

end

/-- Requests reserve nothing. A registration finds that nothing has been reserved. -/
theorem Metered.answer (h : p.Metered tag s origin) (hc : Counted tag p origin ids)
    {r : Ledger.Request} (hr : r ≠ .fetch tag) :
    { p with store := (p.store.answer r).2 }.Metered tag s
      (origin ++ ((⟨p, .request r⟩ : Deed).origin? tag).toList) := by
  have same (hnone : (⟨p, .request r⟩ : Deed).origin? tag = none) :
      { p with store := (p.store.answer r).2 }.Metered tag s
        (origin ++ ((⟨p, .request r⟩ : Deed).origin? tag).toList) := by
    rw [hnone, Option.toList_none, List.append_nil]
    exact ⟨h.blank, fun m₀ hm => (h.meters m₀ hm).answer hr, h.paced⟩
  cases hc with
  | unregistered hrow hb =>
    rcases answer_of_missing hrow hr with ⟨hnone, -⟩ | ⟨m, horigin, hs⟩
    · exact same hnone
    · rw [horigin]
      refine ⟨h.blank, fun m₀ hm => ?_, fun m₀ hm b hb' => ?_⟩
      · cases List.mem_singleton.1 hm
        refine ⟨m, hs, ?_⟩
        show _ = _ + (p.store.grants tag).length * s
        rw [h.blank hb, List.length_nil, Nat.zero_mul, Nat.add_zero]
      · have hb₀ : (p.buffersOf tag)[0]? = some b := hb'
        rw [hb] at hb₀
        cases hb₀
  | unused hs hb => exact same (origin?_of_stands hs r)
  | counting hs hb ht hl hle => exact same (origin?_of_stands hs r)

/-! ## One deed -/

theorem metered_step (h : Played p move p') (exclusive : (⟨p, move⟩ : Deed).IsExclusive tag)
    (free : p.store.script.GivesNothing) (calm : p.store.script.IsCalm) (filed : p.IsFiled)
    (waiting : p.IsWaiting) (hstep : p.store.HasStep tag s)
    (served : ∀ b, move.operation? p = some (⟨tag, 0⟩, .next) → p.buffer? ⟨tag, 0⟩ = some b →
      ∃ n, (b.next p.store).outcome = .done n)
    (hc : Counted tag p origin ids) (hi : p.Metered tag s origin) :
    p'.Metered tag s (origin ++ ((⟨p, move⟩ : Deed).origin? tag).toList) := by
  have quiet (hnone : (⟨p, move⟩ : Deed).origin? tag = none) (hm : p'.Metered tag s origin) :
      p'.Metered tag s (origin ++ ((⟨p, move⟩ : Deed).origin? tag).toList) := by
    rw [hnone, Option.toList_none, List.append_nil]
    exact hm
  cases h with
  | @operated move id op b pending hop hb hq =>
    refine quiet (readers_of_operation hop tag).2 ?_
    by_cases ht : id.tag = tag
    · subst ht
      have hid : id = ⟨id.tag, 0⟩ := by
        cases hc with
        | unregistered _ hnone | unused _ hnone =>
          rw [buffer?, hnone] at hb
          cases hb
        | counting _ hb₀ _ _ _ => rw [← (eq_of_buffersOf hb₀ hb).1]
      have horderly := isOrderly_operation exclusive.isOrderly waiting hb hq
      rw [hid] at hb hop ⊢
      refine hi.operate free calm hstep pending hc hb horderly fun hnext => ?_
      subst hnext
      exact served b hop hb
    · refine hi.of_calls ?_ (b.keeps_operate p.store op).store ((filed id b hb).symm ▸ ht)
      rw [buffersOf_settle, if_neg ht]
      rfl
  | @created t config spawner g log ha hv =>
    refine quiet rfl ?_
    by_cases ht : t = tag
    · subst ht
      exact hi.create free calm hstep (exclusive rfl) ha config spawner log
    · refine hi.of_calls ?_ (.inr rfl) ht
      rw [buffersOf_insert, if_neg ht]
      rfl
  | @refused t config spawner ha =>
    refine quiet rfl ?_
    by_cases ht : t = tag
    · subst ht
      exact hi.refused free calm hstep ha
    · exact hi.of_calls rfl (.inr rfl) ht
  | fetched t => exact quiet rfl (hi.of_calls rfl (.inr rfl) exclusive)
  | requested r => exact hi.answer hc exclusive
  | idle hcall hop hq =>
    exact quiet (readers_of_idle hcall hop tag).2.2.2 ⟨hi.blank, hi.meters, hi.paced⟩

/-! ## What is counted -/

/-- How many segments have been reserved, and which of them is served, told by the number of ids
that have been handed out. -/
theorem Metered.count {b : Buffer} {m₀ : UInt64} (h : p.Metered tag s origin)
    (hc : Counted tag p origin ids) (hpos : 0 < s) (hm : m₀ ∈ origin)
    (hb : p.buffer? ⟨tag, 0⟩ = some b) :
    (p.store.grants tag).length =
        segmentsFor ids.length s + (if b.staged.isSome = true then 1 else 0) ∧
      b.current.base.toNat = m₀.toNat + (segmentsFor ids.length s - 1) * s ∧
      b.current.max.toNat = m₀.toNat + segmentsFor ids.length s * s := by
  cases hc with
  | unregistered => cases hm
  | unused _ hnone =>
    rw [buffer?, hnone] at hb
    cases hb
  | @counting m₁ m b₀ hs hb₀ ht hl hle =>
    cases List.mem_singleton.1 hm
    obtain rfl := eq_first_of_buffersOf hb₀ hb
    have hpaced := h.paced _ hm b hb
    have hlength : b.current.position.toNat =
        m₀.toNat + (Segment.between m₀ b.current.position).length := by
      rw [Segment.length_between]
      omega
    obtain ⟨hbase, hmax⟩ := hpaced.number hpos hlength
    refine ⟨?_, hbase, hmax⟩
    obtain ⟨m', hs', hcount⟩ := h.meters _ hm
    cases hs.unique hs'
    apply Nat.eq_of_mul_eq_mul_right hpos
    cases hst : b.staged with
    | none =>
      rw [hl.bare hst, hcount] at hmax
      simpa using hmax
    | some g =>
      obtain ⟨-, hgbase, -, hgmax⟩ := hl.filled g hst
      have hspan := hpaced.ahead g hst
      rw [hgmax, hcount, hgbase, hmax] at hspan
      rw [Option.isSome_some, if_pos rfl, Nat.succ_mul]
      omega

/-! ## Runs -/

/-- A call for the tag fails in the deed with an error that does not say that the tag is unknown. -/
def Deed.Overdraws (tag : String) (d : Deed) : Prop :=
  ∃ e, d.after.store.history = ⟨tag, .failed e⟩ :: d.pool.store.history ∧ e ≠ .unknownTag tag

/-- A buffer that is refused an id of a registered tag has overdrawn it. -/
theorem Metered.served {d : Deed} (h : d.pool.Metered tag s origin)
    (hc : Counted tag d.pool origin ids) (free : d.pool.store.script.GivesNothing)
    (calm : d.pool.store.script.IsCalm) (fits : ¬ d.Overdraws tag) {b : Buffer}
    (hop : d.move.operation? d.pool = some (⟨tag, 0⟩, .next))
    (hb : d.pool.buffer? ⟨tag, 0⟩ = some b) :
    ∃ n, (b.next d.pool.store).outcome = .done n := by
  have room := h.hasRoom hc hb
  cases hc with
  | unregistered _ hnone | unused _ hnone =>
    rw [buffer?, hnone] at hb
    cases hb
  | @counting m₀ m b₀ hs hb₀ ht hl hle =>
    obtain rfl := eq_first_of_buffersOf hb₀ hb
    rw [← ht] at hs
    rcases Buffer.next_answers free calm hl hs room with
      ⟨hdone, -⟩ | ⟨e, -, -, hrefuses, hhistory⟩
    · exact ⟨_, hdone⟩
    · refine absurd ⟨e, ?_, ?_⟩ fits
      · rw [Deed.after, eq_operate_of_next hop, play, operate_of_buffer? hb, ← ht]
        exact hhistory
      · rcases hrefuses with rfl | ⟨step, rfl, -⟩ <;> simp

theorem metered_plays {moves : List Move} (free : p.store.script.GivesNothing)
    (calm : p.store.script.IsCalm) (exclusive : ∀ d ∈ p.deeds moves, d.IsExclusive tag)
    (queued : ∀ d ∈ p.deeds moves, d.move.skipsQueue = false)
    (fixed : ∀ d ∈ p.deeds moves, d.pool.store.HasStep tag s)
    (fits : ∀ d ∈ p.deeds moves, ¬ d.Overdraws tag) (filed : p.IsFiled) (waiting : p.IsWaiting)
    (counted : Counted tag p [] []) (metered : p.Metered tag s []) :
    Counted tag (p.plays moves) (origins tag (p.deeds moves))
        (idsOf tag ((p.deeds moves).filterMap Deed.issue?)) ∧
      (p.plays moves).Metered tag s (origins tag (p.deeds moves)) := by
  refine And.right (a := (p.plays moves).IsFiled) ?_
  apply deeds_induction (I := fun past q => q.IsFiled ∧
    Counted tag q (origins tag past) (idsOf tag (past.filterMap Deed.issue?)) ∧
      q.Metered tag s (origins tag past))
  · exact ⟨filed, counted, metered⟩
  · rintro past d h ⟨hfiled, hcounted, hmetered⟩
    have hd := mem_of_snoc h
    have hplayed := d.pool.played d.move
    have hfree : d.pool.store.script.GivesNothing := script_deeds hd ▸ free
    have hcalm : d.pool.store.script.IsCalm := script_deeds hd ▸ calm
    have hwaiting := isWaiting_before queued waiting h
    refine ⟨hplayed.isFiled hfiled, ?_, ?_⟩
    · rw [origins_append_single, issues_append_single, idsOf_append]
      exact counted_step hplayed (exclusive d hd) hfree hcalm hfiled hwaiting
        (fun b hb => hmetered.hasRoom hcounted hb) hcounted
    · rw [origins_append_single]
      exact metered_step hplayed (exclusive d hd) hfree hcalm hfiled hwaiting (fixed d hd)
        (fun b hop hb => hmetered.served hcounted hfree hcalm (fits d hd) hop hb) hcounted hmetered

end Pool

end IdIssuer

import IdIssuer.Proofs.Pool.Orderly
import IdIssuer.Proofs.Pool.Ownership

/-!
# A tag as a counter

A tag whose ids all go through one buffer has a life in three stages: it is not registered, it is
registered but has no buffer yet, and it is counted by its buffer. `Counted` says of each stage what
has been handed out: nothing in the first two, and in the last the ids from the boundary at
registration up to where the cursor of the buffer is. Every deed that leaves the tag to the buffer
keeps to that (`counted_plays`).
-/

namespace IdIssuer

namespace Pool

/-- The deed leaves the tag to one buffer, which is asked for ids and for prefetches and is not
handled otherwise. -/
def Deed.IsExclusive (tag : String) (d : Deed) : Prop :=
  match d.move with
  | .request r => r ≠ .fetch tag
  | .fetch t => t ≠ tag
  | .create t _ _ => t = tag → d.pool.buffersOf tag = []
  | .operate id op => id.tag = tag → op = .next ∨ op = .check
  | .finish | .drop | .tell _ => True

theorem Deed.IsExclusive.isOrderly {tag : String} {d : Deed} (h : d.IsExclusive tag) :
    d.IsOrderly tag := by
  obtain ⟨p, move⟩ := d
  cases move with
  | create _ _ _ => trivial
  | request _ | fetch _ | operate _ _ | finish | drop | tell _ => exact h

/-- A tag that is left to one buffer, with the boundaries that it has been registered with and the
ids that have been handed out. -/
inductive Counted (tag : String) (p : Pool) : List UInt64 → List UInt64 → Prop where
  | unregistered (hrow : p.store.ledger.rows.get? tag = none) (hb : p.buffersOf tag = []) :
    Counted tag p [] []
  | unused {m₀} (hs : p.store.Stands tag m₀) (hb : p.buffersOf tag = []) : Counted tag p [m₀] []
  | counting {m₀ m b} (hs : p.store.Stands tag m) (hb : p.buffersOf tag = [b]) (ht : b.tag = tag)
    (hl : b.Lined m) (hle : m₀.toNat ≤ b.current.position.toNat) :
    Counted tag p [m₀] (Segment.between m₀ b.current.position)

variable {p p' : Pool} {move : Move} {tag : String} {origin ids : List UInt64}

/-- The buffer that counts a tag is the only one of the tag. -/
theorem eq_of_buffersOf {id : BufferId} {b b' : Buffer} (hb : p.buffersOf id.tag = [b])
    (hb' : p.buffer? id = some b') : id.index = 0 ∧ b' = b := by
  rw [buffer?, hb, List.getElem?_singleton] at hb'
  split_ifs at hb' with hindex
  cases hb'
  exact ⟨hindex, rfl⟩

theorem eq_first_of_buffersOf {b b' : Buffer} (hb : p.buffersOf tag = [b])
    (hb' : p.buffer? ⟨tag, 0⟩ = some b') : b' = b := by
  let id : BufferId := ⟨tag, 0⟩
  have h : id.index = 0 ∧ b' = b := eq_of_buffersOf hb hb'
  exact h.2

/-- A tag is registered with one boundary at most. -/
theorem Counted.eq_of_mem {m m' : UInt64} (h : Counted tag p origin ids) (hm : m ∈ origin)
    (hm' : m' ∈ origin) : m = m' := by
  cases h with
  | unregistered => cases hm
  | unused | counting => rw [List.mem_singleton.1 hm, List.mem_singleton.1 hm']

/-! ## Deeds on other tags -/

theorem Counted.of_same (h : Counted tag p origin ids) (hb : p'.buffersOf tag = p.buffersOf tag)
    (hnone : p.store.ledger.rows.get? tag = none → p'.store.ledger.rows.get? tag = none)
    (hstands : ∀ m, p.store.Stands tag m → p'.store.Stands tag m) : Counted tag p' origin ids := by
  cases h with
  | unregistered hrow hb' => exact .unregistered (hnone hrow) (hb.trans hb')
  | unused hs hb' => exact .unused (hstands _ hs) (hb.trans hb')
  | counting hs hb' ht hl hle => exact .counting (hstands _ hs) (hb.trans hb') ht hl hle

theorem Counted.of_calls {t : String} (h : Counted tag p origin ids)
    (hb : p'.buffersOf tag = p.buffersOf tag) (hc : p.store.Calls t p'.store) (ht : t ≠ tag) :
    Counted tag p' origin ids :=
  h.of_same hb (fun hrow => by rw [hc.row_of_ne ht, hrow]) fun _ hs => hs.calls_of_ne hc ht

/-! ## Requests -/

theorem origin?_of_stands {m : UInt64} (hs : p.store.Stands tag m) (r : Ledger.Request) :
    (⟨p, .request r⟩ : Deed).origin? tag = none := by
  obtain ⟨step, -, hrow⟩ := hs
  have hrows := rows_answer p r tag
  have hle := Bool.toNat_le ((p.store.answer r).2.ledger.rows.get? tag).isSome
  rw [Pool.rows, hrow, Option.isSome_some, Bool.toNat_true] at hrows
  have hlength : ((⟨p, .request r⟩ : Deed).origin? tag).toList.length = 0 := by omega
  rwa [List.length_eq_zero_iff, Option.toList_eq_nil_iff] at hlength

/-- A tag without a row is registered, or does not get a row. -/
theorem answer_of_missing (hrow : p.store.ledger.rows.get? tag = none) {r : Ledger.Request}
    (hr : r ≠ .fetch tag) :
    ((⟨p, .request r⟩ : Deed).origin? tag = none ∧
      (p.store.answer r).2.ledger.rows.get? tag = none) ∨
    ∃ m, (⟨p, .request r⟩ : Deed).origin? tag = some m ∧ (p.store.answer r).2.Stands tag m := by
  cases r with
  | register t m step =>
    simp only [Deed.origin?, Store.answer, Ledger.answer, Store.Stands]
    rcases p.store.ledger.register_cases t m step with ⟨e, he⟩ | ⟨-, hstep, -, hok⟩
    · rw [he]
      exact .inl ⟨rfl, hrow⟩
    · rw [hok]
      by_cases ht : t = tag
      · exact .inr ⟨m, if_pos ht, step, hstep, by simp [ht]⟩
      · exact .inl ⟨if_neg ht, by simp [ht, hrow]⟩
  | setStep t step =>
    refine .inl ⟨rfl, ?_⟩
    simp only [Store.answer, Ledger.answer]
    rcases p.store.ledger.setStep_cases t step with ⟨e, he⟩ | ⟨row, hrow', -, hok⟩
    · rw [he]
      exact hrow
    · rw [hok]
      have ht : t ≠ tag := by
        rintro rfl
        rw [hrow] at hrow'
        cases hrow'
      simp [ht, hrow]
  | boundary t => exact .inl ⟨rfl, hrow⟩
  | fetch t =>
    refine .inl ⟨rfl, ?_⟩
    have ht : t ≠ tag := fun he => hr (he ▸ rfl)
    simp only [Store.answer, Ledger.answer]
    rcases p.store.ledger.fetch_cases t with ⟨e, he⟩ | ⟨row, g, -, -, hok⟩
    · rw [he]
      exact hrow
    · rw [hok]
      simp [ht, hrow]

theorem Counted.answer (h : Counted tag p origin ids) {r : Ledger.Request} (hr : r ≠ .fetch tag) :
    Counted tag { p with store := (p.store.answer r).2 }
      (origin ++ ((⟨p, .request r⟩ : Deed).origin? tag).toList) ids := by
  have stands {m : UInt64} (hs : p.store.Stands tag m) :
      Counted tag { p with store := (p.store.answer r).2 }
        (origin ++ ((⟨p, .request r⟩ : Deed).origin? tag).toList) ids := by
    rw [origin?_of_stands hs r, Option.toList_none, List.append_nil]
    refine h.of_same rfl (fun hrow => ?_) fun m' hs' => hs'.answer hr
    obtain ⟨step, -, hrow'⟩ := hs
    rw [hrow] at hrow'
    cases hrow'
  cases h with
  | unregistered hrow hb =>
    rcases answer_of_missing hrow hr with ⟨horigin, hrow'⟩ | ⟨m, horigin, hs⟩
    · rw [horigin]
      exact .unregistered hrow' hb
    · rw [horigin]
      exact .unused hs hb
  | unused hs hb => exact stands hs
  | counting hs hb ht hl hle => exact stands hs

/-! ## The first segment -/

section

variable (free : p.store.script.GivesNothing) (calm : p.store.script.IsCalm)

include free

theorem Counted.create_refused (h : Counted tag p origin ids) (hb : p.buffersOf tag = [])
    (calm : p.store.script.IsCalm)
    (ha : ∀ g, (p.store.fetch tag).1 = .segment g → g.isValid = false) :
    Counted tag { p with store := (p.store.fetch tag).2 } origin ids := by
  cases h with
  | unregistered hrow hb' => exact .unregistered (Store.fetch_of_missing hrow free).2 hb'
  | unused hs hb' =>
    rcases hs.fetch free calm with ⟨e, -, -, hs'⟩ | ⟨g, hg, hfresh, -⟩
    · exact .unused hs' hb'
    · exact absurd hfresh.1 (by simp [ha g hg])
  | counting hs hb' ht hl hle =>
    rw [hb] at hb'
    cases hb'

include calm

theorem Counted.create (h : Counted tag p origin ids) (hb : p.buffersOf tag = []) {g : Segment}
    (ha : (p.store.fetch tag).1 = .segment g) (config : Config) (spawner : Spawner)
    (log : List Event) :
    Counted tag ⟨(p.store.fetch tag).2,
      p.buffers.insert tag (p.buffersOf tag ++ [.new tag config spawner g]), p.pending, log⟩
      origin ids := by
  cases h with
  | unregistered hrow hb' => exact absurd ha ((Store.fetch_of_missing hrow free).1 g)
  | @unused m₀ hs hb' =>
    rcases hs.fetch free calm with ⟨e, he, -⟩ | ⟨g', hg, hfresh, hbase, -, hs'⟩
    · rw [ha] at he
      cases he
    · cases ha.symm.trans hg
      have hposition : (Buffer.new tag config spawner g).current.position = m₀ :=
        hfresh.position.trans hbase
      have hids : Segment.between m₀ (Buffer.new tag config spawner g).current.position = [] := by
        rw [hposition, Segment.between_self]
      suffices hcounting : Counted tag ⟨(p.store.fetch tag).2,
          p.buffers.insert tag (p.buffersOf tag ++ [.new tag config spawner g]), p.pending, log⟩
          [m₀] (Segment.between m₀ (Buffer.new tag config spawner g).current.position) by
        rwa [hids] at hcounting
      refine .counting hs' ?_ rfl Buffer.lined_new (Nat.le_of_eq (congrArg _ hposition.symm))
      rw [buffersOf_insert, if_pos rfl, hb]
      rfl
  | counting hs hb' ht hl hle =>
    rw [hb] at hb'
    cases hb'

/-! ## Operations -/

theorem Counted.operate {id : BufferId} {op : Operation} {b : Buffer} (pending : List BufferId)
    (h : Counted id.tag p origin ids) (hb : p.buffer? id = some b) (room : b.HasRoom)
    (hop : op.IsOrderly b) :
    Counted id.tag ({ p with pending }.settle id (b.operate p.store op)) origin
      (ids ++ (b.operate p.store op).outcome.issued.toList) := by
  cases h with
  | unregistered hrow hnone | unused hs hnone =>
    rw [buffer?, hnone] at hb
    cases hb
  | @counting m₀ m b₀ hs hb₀ ht hl hle =>
    obtain ⟨hindex, rfl⟩ := eq_of_buffersOf hb₀ hb
    rw [← ht] at hs
    obtain ⟨⟨m', hl', hs'⟩, hcounts⟩ := Buffer.lined_operate free calm hl hs room hop
    rw [ht] at hs'
    rw [hcounts.ids, Segment.between_append hle hcounts.le]
    refine .counting hs' ?_ ((b.keeps_operate p.store op).tag.trans ht) hl'
      (Nat.le_trans hle hcounts.le)
    rw [buffersOf_settle, if_pos rfl]
    change (p.buffersOf id.tag).set id.index _ = _
    rw [hb₀, hindex]
    rfl

end

/-! ## One deed -/

/-- An operation on the buffer of the tag lets it go on counting, and one on another changes nothing
for the tag. -/
theorem counted_operated {id : BufferId} {op : Operation} {b : Buffer} {pending : List BufferId}
    (exclusive : (⟨p, move⟩ : Deed).IsExclusive tag) (free : p.store.script.GivesNothing)
    (calm : p.store.script.IsCalm) (filed : p.IsFiled) (waiting : p.IsWaiting)
    (room : ∀ b, p.buffer? ⟨tag, 0⟩ = some b → b.HasRoom) (hb : p.buffer? id = some b)
    (hq : pending = p.pending ∧ move = .operate id op ∨
      p.pending = id :: pending ∧ (op = .finish ∨ op = .drop))
    (hi : Counted tag p origin ids) :
    Counted tag ({ p with pending }.settle id (b.operate p.store op)) origin
      (ids ++ idsOf tag ((b.operate p.store op).outcome.issued.map (⟨id, ·⟩)).toList) := by
  rw [idsOf_issued]
  by_cases ht : id.tag = tag
  · subst ht
    rw [if_pos rfl]
    have hid : id = ⟨id.tag, 0⟩ := by
      cases hi with
      | unregistered _ hnone | unused _ hnone =>
        rw [buffer?, hnone] at hb
        cases hb
      | counting _ hb₀ _ _ _ => rw [← (eq_of_buffersOf hb₀ hb).1]
    exact hi.operate free calm pending hb (room b (hid ▸ hb))
      (isOrderly_operation exclusive.isOrderly waiting hb hq)
  · rw [if_neg ht, List.append_nil]
    refine hi.of_calls ?_ (b.keeps_operate p.store op).store ((filed id b hb).symm ▸ ht)
    rw [buffersOf_settle, if_neg ht]
    rfl

theorem counted_step (h : Played p move p') (exclusive : (⟨p, move⟩ : Deed).IsExclusive tag)
    (free : p.store.script.GivesNothing) (calm : p.store.script.IsCalm) (filed : p.IsFiled)
    (waiting : p.IsWaiting) (room : ∀ b, p.buffer? ⟨tag, 0⟩ = some b → b.HasRoom)
    (hi : Counted tag p origin ids) :
    Counted tag p' (origin ++ ((⟨p, move⟩ : Deed).origin? tag).toList)
      (ids ++ idsOf tag (⟨p, move⟩ : Deed).issue?.toList) := by
  have quiet (horigin : (⟨p, move⟩ : Deed).origin? tag = none)
      (hissue : (⟨p, move⟩ : Deed).issue? = none) (hc : Counted tag p' origin ids) :
      Counted tag p' (origin ++ ((⟨p, move⟩ : Deed).origin? tag).toList)
        (ids ++ idsOf tag (⟨p, move⟩ : Deed).issue?.toList) := by
    rw [horigin, hissue]
    simpa [idsOf] using hc
  cases h with
  | @operated move id op b pending hop hb hq =>
    rw [(readers_of_operation hop tag).2, issue?_of_operation hop hb, Option.toList_none,
      List.append_nil]
    exact counted_operated exclusive free calm filed waiting room hb hq hi
  | @created t config spawner g log ha hv =>
    refine quiet rfl (readers_of_call p _ rfl).1 ?_
    by_cases ht : t = tag
    · subst ht
      exact hi.create free calm (exclusive rfl) ha config spawner log
    · refine hi.of_calls ?_ (.inr rfl) ht
      rw [buffersOf_insert, if_neg ht]
      rfl
  | @refused t config spawner ha =>
    refine quiet rfl (readers_of_call p _ rfl).1 ?_
    by_cases ht : t = tag
    · subst ht
      exact hi.create_refused free (exclusive rfl) calm ha
    · exact hi.of_calls rfl (.inr rfl) ht
  | fetched t =>
    exact quiet rfl (readers_of_call p (.fetch t) rfl).1 (hi.of_calls rfl (.inr rfl) exclusive)
  | requested r =>
    have hc := hi.answer exclusive
    rw [(readers_of_call p (.request r) rfl).1]
    simpa [idsOf] using hc
  | idle hc h hq =>
    obtain ⟨hissue, -, -, horigin⟩ := readers_of_idle hc h tag
    exact quiet horigin hissue (hi.of_same rfl id fun _ hs => hs)

/-! ## Runs -/

theorem counted_plays {moves : List Move} (free : p.store.script.GivesNothing)
    (calm : p.store.script.IsCalm) (exclusive : ∀ d ∈ p.deeds moves, d.IsExclusive tag)
    (queued : ∀ d ∈ p.deeds moves, d.move.skipsQueue = false)
    (few : calls ⟨tag, 0⟩ (p.deeds moves) < 2 ^ 62) (filed : p.IsFiled) (waiting : p.IsWaiting)
    (start : Counted tag p [] []) :
    Counted tag (p.plays moves) (origins tag (p.deeds moves))
      (idsOf tag ((p.deeds moves).filterMap Deed.issue?)) := by
  have absent : p.buffer? ⟨tag, 0⟩ = none := by
    cases start with
    | unregistered _ hb => rw [buffer?, hb, List.getElem?_nil]
  refine And.right (a := (p.plays moves).IsFiled) ?_
  apply deeds_induction (I := fun past q => q.IsFiled ∧
    Counted tag q (origins tag past) (idsOf tag (past.filterMap Deed.issue?)))
  · exact ⟨filed, start⟩
  · rintro past d h ⟨hfiled, hcounted⟩
    have hd := mem_of_snoc h
    have hscript := script_deeds hd
    have hplayed := d.pool.played d.move
    have hsound := sound_before
      (isFair_of_orderly (fun d hd => (exclusive d hd).isOrderly) rfl) few absent h
    refine ⟨hplayed.isFiled hfiled, ?_⟩
    rw [origins_append_single, issues_append_single, idsOf_append]
    exact counted_step hplayed (exclusive d hd) (hscript ▸ free) (hscript ▸ calm) hfiled
      (isWaiting_before queued waiting h) (fun b hb => room_before few h hsound hb) hcounted

end Pool

end IdIssuer

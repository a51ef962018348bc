import IdIssuer.Proofs.Pool.Isolation
import IdIssuer.Proofs.Pool.Pace
import IdIssuer.Proofs.Session.Moves

/-!
# The books of a pool

In a trial every tag is registered from zero with the step of the plan and left to one buffer.
`Books` says what has been handed out of each tag up to some point, and that everything else is in
the state that goes with it. A move keeps the books as long as no call is refused an id
(`Books.play`), and a call is refused only where the id space has no room for the reservation that
the id takes (`Books.next`).
-/

namespace IdIssuer

open Pool

namespace Store

/-- A call does not change the step of a tag. -/
theorem HasStep.calls {σ σ' : Store} {tag t : String} {s : ℕ} (h : σ.HasStep tag s)
    (free : σ.script.GivesNothing) (hc : σ.Calls t σ') : σ'.HasStep tag s := by
  rcases hc with rfl | rfl
  · exact h
  rcases fetch_cases free t with ⟨-, hledger⟩ | ⟨row, g, hrow, -, -, hledger⟩
  · rwa [HasStep, hledger]
  · intro row' hrow'
    rw [hledger, Table.get?_insert] at hrow'
    split_ifs at hrow' with ht
    · cases hrow'
      exact h row (ht ▸ hrow)
    · exact h row' hrow'

/-- Without a script, a call for a registered tag fails where the id space ends. -/
theorem Stands.lt_of_failed {σ : Store} {tag : String} {m : UInt64} {s : ℕ} {e : StoreError}
    (hs : σ.Stands tag m) (free : σ.script = .free) (hstep : σ.HasStep tag s)
    (h : (σ.fetch tag).1 = .failed e) : idLimit.toNat < m.toNat + s := by
  obtain ⟨step, -, hrow⟩ := hs
  have hnone : σ.script (σ.calls + 1) = none := by rw [free]; rfl
  rw [← hstep _ hrow]
  by_contra hfits
  have hle : m.toNat + step.toNat ≤ idLimit.toNat := Nat.le_of_not_lt hfits
  unfold Store.fetch at h
  rw [hnone] at h
  simp only [consult, Ledger.fetch_of_fits hrow hle, reduceCtorEq] at h

end Store

theorem Script.givesNothing_free : Script.free.GivesNothing := fun _ _ _ _ => nofun

namespace Trial

/-- What has been handed out of each tag, counted from zero, and that nothing is amiss. -/
structure Books (tags : List String) (step : ℕ) (p : Pool) (ids : String → List UInt64) : Prop where
  filed : p.IsFiled
  waiting : p.IsWaiting
  free : p.store.script = .free
  fixed : ∀ tag ∈ tags, p.store.HasStep tag step
  counted : ∀ tag ∈ tags, Counted tag p [0] (ids tag)
  metered : ∀ tag ∈ tags, p.Metered tag step [0]

variable {tags : List String} {step : ℕ} {p : Pool} {ids : String → List UInt64} {tag : String}
  {b : Buffer}

/-- A move other than a request, by which no call is refused an id. -/
theorem Books.play {move : Pool.Move} (h : Books tags step p ids)
    (hmove : ∀ r, move ≠ .request r)
    (exclusive : ∀ tag ∈ tags, (⟨p, move⟩ : Deed).IsExclusive tag)
    (queued : move.skipsQueue = false)
    (served : ∀ tag b, move.operation? p = some (⟨tag, 0⟩, .next) → p.buffer? ⟨tag, 0⟩ = some b →
      ∃ n, (b.next p.store).outcome = .done n) :
    Books tags step (p.play move)
      fun tag => ids tag ++ idsOf tag (⟨p, move⟩ : Deed).issue?.toList := by
  have hplayed := p.played move
  have free : p.store.script.GivesNothing := h.free ▸ Script.givesNothing_free
  have calm : p.store.script.IsCalm := h.free ▸ isCalm_free
  have horigin (tag : String) : (⟨p, move⟩ : Deed).origin? tag = none := by
    cases move with
    | request r => exact absurd rfl (hmove r)
    | _ => rfl
  refine ⟨hplayed.isFiled h.filed, hplayed.isWaiting queued h.waiting, hplayed.script.trans h.free,
    ?_, ?_, ?_⟩
  · intro tag htag
    rcases hplayed.store with ⟨t, hcalls⟩ | ⟨r, he, -⟩
    · exact (h.fixed tag htag).calls free hcalls
    · exact absurd he (hmove r)
  · intro tag htag
    have hcounted := counted_step hplayed (exclusive tag htag) free calm h.filed h.waiting
      (fun b hb => (h.metered tag htag).hasRoom (h.counted tag htag) hb) (h.counted tag htag)
    rwa [horigin, Option.toList_none, List.append_nil] at hcounted
  · intro tag htag
    have hmetered := metered_step hplayed (exclusive tag htag) free calm h.filed h.waiting
      (h.fixed tag htag) (served tag) (h.counted tag htag) (h.metered tag htag)
    rwa [horigin, Option.toList_none, List.append_nil] at hmetered

theorem Books.play_quiet {move : Pool.Move} (h : Books tags step p ids)
    (hmove : ∀ r, move ≠ .request r)
    (exclusive : ∀ tag ∈ tags, (⟨p, move⟩ : Deed).IsExclusive tag)
    (queued : move.skipsQueue = false) (asks : move.asks = false) :
    Books tags step (p.play move) ids := by
  have hissue := issue?_of_not_asks (p := p) asks
  have hbooks := h.play hmove exclusive queued ?_
  · simpa only [hissue, Option.toList_none, idsOf, List.filterMap_nil, List.append_nil] using hbooks
  · intro tag b hop
    rw [eq_operate_of_next hop] at asks
    cases asks

/-! ## Prefetches -/

/-- The order in which prefetches wait is not in the books. -/
theorem Books.reorder {pending : List BufferId} (h : Books tags step p ids)
    (hp : pending.Perm p.pending) : Books tags step { p with pending } ids := by
  refine ⟨h.filed, fun id => (hp.count_eq id).trans (h.waiting id), h.free, h.fixed, ?_, ?_⟩
  · intro tag htag
    exact (h.counted tag htag).of_same rfl id fun _ hs => hs
  · intro tag htag
    have hmetered := h.metered tag htag
    exact ⟨hmetered.blank, hmetered.meters, hmetered.paced⟩

/-- To run one of the prefetches that wait is to run it when it has come to the head. -/
theorem runOne_cases (p : Pool) (place : ℕ) :
    p.runOne place = p ∨ ∃ pending, pending.Perm p.pending ∧
      p.runOne place = ({ p with pending } : Pool).play .finish := by
  unfold runOne
  cases hid : p.pending[place]? with
  | none => exact .inl rfl
  | some id =>
    obtain ⟨hplace, rfl⟩ := List.getElem?_eq_some_iff.1 hid
    refine .inr ⟨p.pending[place] :: p.pending.eraseIdx place,
      List.getElem_cons_eraseIdx_perm hplace, ?_⟩
    · simp only [play, resolve, runAll, operate]
      have hsame : ({ p with pending := p.pending.eraseIdx place } : Pool).buffer?
          p.pending[place] = p.buffer? p.pending[place] := rfl
      rw [hsame]
      cases p.buffer? p.pending[place] with
      | none => rfl
      | some b =>
        simp only [Buffer.operate]
        cases (b.finishPrefetch p.store).outcome <;> rfl

theorem Books.runOne (h : Books tags step p ids) (place : ℕ) :
    Books tags step (p.runOne place) ids := by
  rcases runOne_cases p place with he | ⟨pending, hp, he⟩
  · rwa [he]
  · rw [he]
    exact (h.reorder hp).play_quiet (fun _ => nofun) (fun _ _ => trivial) rfl rfl

/-! ## Calls -/

/-- An id that a buffer hands out goes into the books. -/
theorem Books.answered (h : Books tags step p ids) (hb : p.buffer? ⟨tag, 0⟩ = some b) {id : UInt64}
    (hdone : (b.next p.store).outcome = .done id) :
    Books tags step (p.play (.operate ⟨tag, 0⟩ .next))
      fun t => ids t ++ if tag = t then [id] else [] := by
  have hmove : ∀ r, Move.operate ⟨tag, 0⟩ .next ≠ .request r := by
    intro r he
    cases he
  have hissue : (⟨p, .operate ⟨tag, 0⟩ .next⟩ : Deed).issue? = (some id).map (⟨⟨tag, 0⟩, ·⟩) := by
    rw [issue?_of_operation rfl hb, Buffer.operate, hdone]
    rfl
  have hbooks := h.play hmove (fun _ _ _ => .inl rfl) rfl fun t b' hop hb' => by
    cases hop
    cases hb.symm.trans hb'
    exact ⟨id, hdone⟩
  simpa only [hissue, idsOf_issued, Option.toList_some] using hbooks

/-- What a buffer has handed out takes reservations that fit. -/
theorem Books.fits (h : Books tags step p ids) (hpos : 0 < step) (htag : tag ∈ tags)
    (hb : p.buffer? ⟨tag, 0⟩ = some b) :
    segmentsFor (ids tag).length step * step ≤ idLimit.toNat := by
  obtain ⟨-, -, hmax⟩ :=
    (h.metered tag htag).count (h.counted tag htag) hpos List.mem_cons_self hb
  have hpaced := (h.metered tag htag).paced 0 List.mem_cons_self b hb
  have hvalid := (Segment.isValid_iff.1 hpaced.valid).2
  rw [hmax, UInt64.toNat_zero, Nat.zero_add] at hvalid
  exact hvalid

/-- A buffer hands out the id that follows, or there is no room for the reservation it takes. -/
theorem Books.next (h : Books tags step p ids) (hpos : 0 < step) (htag : tag ∈ tags)
    (hb : p.buffer? ⟨tag, 0⟩ = some b) :
    (∃ top : UInt64, ids tag = Segment.between 0 top ∧ top.toNat ≤ idLimit.toNat ∧
      (b.next p.store).outcome = .done (top + 1)) ∨
    (∃ e, (b.next p.store).outcome = .failed e) ∧
      idLimit.toNat < segmentsFor ((ids tag).length + 1) step * step := by
  have hcounted := h.counted tag htag
  have hpaced := (h.metered tag htag).paced 0 List.mem_cons_self b hb
  have room := (h.metered tag htag).hasRoom hcounted hb
  generalize hids : ids tag = given at hcounted
  generalize horigin : [(0 : UInt64)] = origin at hcounted
  cases hcounted with
  | unregistered => cases horigin
  | unused _ hnone =>
    rw [buffer?, hnone] at hb
    cases hb
  | @counting m₀ m b₀ hs hb₀ ht hl hle =>
    cases horigin
    obtain rfl := eq_first_of_buffersOf hb₀ hb
    rw [← ht] at hs
    rcases Buffer.next_answers (h.free ▸ Script.givesNothing_free) (h.free ▸ isCalm_free) hl hs room
      with ⟨hdone, -⟩ | ⟨e, hfailed, hposition, -, hhistory⟩
    · have hwithin := Segment.toNat_position b.current
      have hvalid := (Segment.isValid_iff.1 hpaced.valid).2
      refine .inl ⟨_, rfl, ?_, hdone⟩
      rw [Segment.toNat_idLimit]
      omega
    · refine .inr ⟨⟨_, hfailed⟩, ?_⟩
      -- the call has found the store out of ids
      have hanswer : (p.store.fetch b.tag).1 = .failed e :=
        (b.keeps_operate p.store .next).store.answer hhistory
      have hlimit := hs.lt_of_failed h.free (ht.symm ▸ h.fixed tag htag) hanswer
      -- and all reservations are used up, so that the next id takes one more
      have hfull : m.toNat = segmentsFor m.toNat step * step :=
        hpaced.full hl hpos hposition (Nat.zero_add _).symm
      have hlength : (Segment.between 0 b.current.position).length = m.toNat := by
        rw [Segment.length_between, hposition]
        rfl
      rw [hlength, segmentsFor_succ hpos hfull, Nat.succ_mul, ← hfull]
      exact hlimit

end Trial

end IdIssuer

import IdIssuer.Proofs.Buffer.Counter
import IdIssuer.Proofs.Buffer.Rise
import IdIssuer.Proofs.Buffer.Trigger

/-!
# What a buffer has in stock

Without the store, a buffer can hand out the ids that are left of its current segment and then all
of the staged one, provided that this follows the current one. A store that yields its segments in
order leaves it so (`IsOrdered.operate`). From then on the store may be down: every call hands out
the next id in stock or, once that is used up, fails with the store's error (`spends_next`), and
nothing else touches the stock (`rests_of_down`).
-/

namespace IdIssuer

namespace Segment

theorem between_eq_cons {base top : UInt64} (h : base < top) :
    between base top = (base + 1) :: between (base + 1) top := by
  have htop := top.toNat_lt
  rw [UInt64.lt_iff_toNat_lt] at h
  have hnext : (base + 1).toNat = base.toNat + 1 := by
    rw [UInt64.toNat_add]
    exact Nat.mod_eq_of_lt (by show base.toNat + 1 < 2 ^ 64; omega)
  have hone : between base (base + 1) = [base + 1] := by
    rw [between_succ (Nat.le_refl _) (by omega), between_self]
    rfl
  rw [← between_append (a := base) (b := base + 1) (c := top) (by omega) (by omega), hone]
  rfl

end Segment

/-- The call has failed. -/
def Call.fails (c : Call) : Bool :=
  match c.answer with
  | .failed _ => true
  | .segment _ | .panicked _ => false

namespace Store

variable {σ σ' σ₁ σ₂ : Store} {tag : String}

/-- Every call for the tag between two states of the store has failed. -/
def IsDown (σ : Store) (tag : String) (σ' : Store) : Prop :=
  ∀ c ∈ σ'.history.take (σ'.calls - σ.calls), c.tag = tag → c.fails = true

instance : Decidable (σ.IsDown tag σ') :=
  inferInstanceAs (Decidable (∀ c ∈ σ'.history.take (σ'.calls - σ.calls), _ → _))

theorem isDown_iff {new : List Call} (h : σ'.history = new ++ σ.history) :
    σ.IsDown tag σ' ↔ ∀ c ∈ new, c.tag = tag → c.fails = true := by
  have hcalls : σ'.calls - σ.calls = new.length := by simp [calls, h]
  rw [IsDown, hcalls, h, List.take_left]

/-- A call for the tag while the store is down. -/
theorem IsDown.of_call {answer : Answer} (down : σ.IsDown tag σ')
    (h : σ'.history = ⟨tag, answer⟩ :: σ.history) : ∃ e, answer = .failed e := by
  have hnew : σ'.history = [⟨tag, answer⟩] ++ σ.history := h
  have hfails := (isDown_iff hnew).1 down _ List.mem_cons_self rfl
  cases answer with
  | failed e => exact ⟨e, rfl⟩
  | segment _ | panicked _ => cases hfails

/-- An outage has no gaps. -/
theorem IsDown.between (down : σ.IsDown tag σ') (hfirst : σ.history <:+ σ₁.history)
    (hmiddle : σ₁.history <:+ σ₂.history) (hlast : σ₂.history <:+ σ'.history) :
    σ₁.IsDown tag σ₂ := by
  obtain ⟨before, hbefore⟩ := hfirst
  obtain ⟨new, hnew⟩ := hmiddle
  obtain ⟨later, hlater⟩ := hlast
  have hall : σ'.history = (later ++ new ++ before) ++ σ.history := by
    rw [← hlater, ← hnew, ← hbefore]
    simp only [List.append_assoc]
  intro c hc
  apply (isDown_iff hall).1 down
  have hcalls : σ₂.calls - σ₁.calls = new.length := by simp [calls, ← hnew]
  rw [hcalls, ← hnew, List.take_left] at hc
  simp [hc]

end Store

namespace Buffer

/-- The ids that the buffer can hand out without the store. -/
def stock (b : Buffer) : List UInt64 :=
  Segment.between b.current.position b.current.max ++ b.staged.toList.flatMap Segment.ids

/-- What is staged follows what is served. -/
def IsOrdered (b : Buffer) : Prop := ∀ g, b.staged = some g → b.current.max ≤ g.base

variable {b b' : Buffer} {σ : Store} {seen new : List Segment}

/-- What readers of the buffer see of its stock: what is left of the segment that they see, and all
of the slot if it is said to be filled. -/
theorem stock_eq (flagged : b.IsFlagged) :
    b.stock = Segment.between b.snapshot.cursor b.snapshot.max ++
      if b.snapshot.nextReady = true then b.staged.elim [] Segment.ids else [] := by
  have hready : b.snapshot.nextReady = b.staged.isSome := flagged
  rw [stock, hready]
  cases b.staged with
  | none => rfl
  | some g =>
    rw [Option.isSome_some, if_pos rfl, Option.toList_some, List.flatMap_singleton]
    rfl

theorem length_stock (flagged : b.IsFlagged) :
    b.stock.length = b.snapshot.remaining.toNat +
      if b.snapshot.nextReady = true then
        b.staged.elim 0 fun g => g.max.toNat - g.base.toNat else 0 := by
  have hready : b.snapshot.nextReady = b.staged.isSome := flagged
  rw [stock, List.length_append, Segment.length_between, remaining_snapshot,
    Segment.toNat_remaining, hready]
  cases b.staged with
  | none => rfl
  | some g =>
    rw [Option.isSome_some, if_pos rfl, Option.toList_some, List.flatMap_singleton, Segment.ids,
      Segment.length_between]
    rfl

/-! ## While the store yields segments in order -/

theorem IsOrdered.receive (h : b.IsOrdered) (known : b.Known seen)
    (hnew : (σ.fetch b.tag).2.grants b.tag = σ.grants b.tag ++ new)
    (honest : IsHonest (seen ++ new)) : (b.receive (σ.fetch b.tag).1).1.IsOrdered := by
  rcases b.receive_cases (σ.fetch b.tag).1 with ⟨he, -⟩ | ⟨g, ha, -, -, -, he⟩
  · rwa [he]
  · rw [he]
    intro g' hg'
    cases hg'
    rw [Store.grants_fetch_segment ha, List.append_right_inj] at hnew
    subst hnew
    obtain ⟨y, hy, hmax⟩ := known.current
    show b.current.max ≤ g.base
    rw [← hmax]
    exact honest.max_le hy

theorem staged_refill (h : b.staged = none) (answer : Answer) :
    (b.refill answer).2.staged = none := by
  cases answer with
  | panicked _ | failed _ => exact h
  | segment g =>
    unfold refill serve claim
    dsimp only
    split_ifs
    · cases g.advance.1 <;> rfl
    · exact h

/-- Whoever renews the current segment leaves the slot empty. -/
theorem staged_renew (flagged : b.IsFlagged) : (b.renew σ).buffer.staged = none := by
  have hpromote : b.promote.2.1.staged = none := by
    cases hr : b.ready with
    | false =>
      have hprom : b.promote = (none, b, []) := by simp [promote, hr]
      rw [flagged] at hr
      rw [hprom]
      simpa using hr
    | true =>
      cases hsucc : b.successor? with
      | none =>
        obtain ⟨events, hprom⟩ := promote_of_no_successor hr hsucc
        rw [hprom]
      | some g =>
        obtain ⟨events, hprom⟩ := promote_of_successor hsucc
        rw [hprom]
  unfold renew
  generalize b.promote = promoted at hpromote
  obtain ⟨id?, b', events⟩ := promoted
  cases id? with
  | some id => exact hpromote
  | none => exact staged_refill hpromote _

/-- Nothing that is done to the buffer, short of filling its slot by hand, stages a segment out of
order. -/
theorem IsOrdered.operate (h : b.IsOrdered) (steady : b.IsSteady) (room : b.HasRoom)
    (known : b.Known seen) {op : Operation} (hop : op.handles = false)
    (hnew : (b.operate σ op).store.grants b.tag = σ.grants b.tag ++ new)
    (honest : IsHonest (seen ++ new)) : (b.operate σ op).buffer.IsOrdered := by
  have hcheck (b' : Buffer) (h' : b'.IsOrdered) (known' : b'.Known seen) (ht : b'.tag = b.tag)
      (hnew' : (b'.check σ).store.grants b.tag = σ.grants b.tag ++ new) :
      (b'.check σ).buffer.IsOrdered := by
    rcases b'.check_cases σ with ⟨he, -⟩ | ⟨he, hstore⟩ | ⟨he, -⟩
    · rwa [he]
    · rw [he]
      rw [hstore, ← ht] at hnew'
      exact h'.receive known' hnew' honest
    · rw [he]
      exact h'
  cases op with
  | next =>
    rcases UInt64.lt_or_le b.current.cursor b.current.max with hlt | hle
    · simp only [Buffer.operate, next_of_lt hlt] at hnew ⊢
      exact hcheck b.claim.2 h ⟨known.current, known.staged⟩ rfl hnew
    · simp only [Buffer.operate, next_of_le hle room.first steady.usable]
      intro g hg
      have hnone : (b.claim.2.claim.2.renew σ).buffer.staged = none := staged_renew steady.flagged
      rw [hnone] at hg
      cases hg
  | check => exact hcheck b h known rfl hnew
  | prefetch => exact h.receive known hnew honest
  | finish => exact IsOrdered.receive (b := b) h known hnew honest
  | drop => exact h
  | put | mark => cases hop

/-! ## While the store is down -/

theorem stock_of_eq (hc : b'.current = b.current) (hs : b'.staged = b.staged) :
    b'.stock = b.stock := by rw [stock, stock, hc, hs]

theorem stock_of_dry (h : b.current.max ≤ b.current.cursor) (hs : b.staged = none) :
    b.stock = [] := by
  rw [stock, hs, Segment.position_of_le h, Segment.between_self]
  rfl

/-- Seeing whether a prefetch is due, with the store down, touches neither segment. -/
theorem check_of_down (down : σ.IsDown b.tag (b.check σ).store) :
    (b.check σ).buffer.current = b.current ∧ (b.check σ).buffer.staged = b.staged := by
  rcases b.check_cases σ with ⟨he, -⟩ | ⟨he, hstore⟩ | ⟨he, -⟩
  · rw [he]
    exact ⟨rfl, rfl⟩
  · obtain ⟨e, ha⟩ := down.of_call (hstore ▸ σ.history_fetch b.tag)
    rw [he, ha]
    exact ⟨rfl, rfl⟩
  · rw [he]
    exact ⟨rfl, rfl⟩

/-- Nothing but a call for an id touches the stock, or what is in order. -/
theorem rests_of_down {op : Operation} (hne : op ≠ .next) (hop : op.handles = false)
    (down : σ.IsDown b.tag (b.operate σ op).store) :
    (b.operate σ op).buffer.current = b.current ∧ (b.operate σ op).buffer.staged = b.staged := by
  cases op with
  | next => exact absurd rfl hne
  | check => exact check_of_down down
  | prefetch | finish =>
    obtain ⟨e, ha⟩ := down.of_call (σ.history_fetch b.tag)
    simp only [operate, finishPrefetch, prefetch, ha]
    exact ⟨rfl, rfl⟩
  | drop => exact ⟨rfl, rfl⟩
  | put | mark => cases hop

/-- What a call for an id comes to with the store down: it takes the next id from the stock, or
finds nothing there and passes on the store's error. -/
inductive Spends (b : Buffer) (σ : Store) (turn : Turn UInt64) : Prop where
  | served {n rest} (hs : b.stock = n :: rest) (ho : turn.outcome = .done n)
    (hb : turn.buffer.stock = rest)
  | refused {e} (hs : b.stock = []) (ho : turn.outcome = .failed (.allocation b.tag e))
    (hh : turn.store.history = ⟨b.tag, .failed e⟩ :: σ.history) (hb : turn.buffer.stock = [])

theorem Spends.stock {turn : Turn UInt64} (h : b.Spends σ turn) :
    turn.buffer.stock = b.stock.tail := by
  cases h with
  | served hs _ hb => rw [hb, hs, List.tail_cons]
  | refused hs _ _ hb => rw [hb, hs, List.tail_nil]

/-- The id that is handed out is the first in stock. -/
theorem Spends.issued {turn : Turn UInt64} (h : b.Spends σ turn) :
    (turn.outcome.map some).issued = b.stock.head? := by
  cases h with
  | served hs ho _ =>
    rw [ho, hs]
    rfl
  | refused hs ho _ _ =>
    rw [ho, hs]
    rfl

theorem spends_next_of_lt (calm : σ.script.IsCalm) (hlt : b.current.cursor < b.current.max)
    (down : σ.IsDown b.tag (b.next σ).store) : b.Spends σ (b.next σ) := by
  have hstock : b.stock = (b.current.cursor + 1) :: b.claim.2.stock := by
    show Segment.between b.current.position b.current.max ++ _ =
      (b.current.cursor + 1) :: (Segment.between b.current.advance.2.position b.current.max ++ _)
    rw [Segment.position_of_lt hlt, Segment.position_advance_of_lt hlt,
      Segment.between_eq_cons hlt]
    rfl
  have hcalm := (b.claim.2.keeps_check σ).calm (Store.fetch_ne_panicked calm _)
  rw [next_of_lt hlt] at down ⊢
  obtain ⟨hcurrent, hstaged⟩ := check_of_down (b := b.claim.2) down
  refine .served hstock ?_ (stock_of_eq hcurrent hstaged)
  cases ho : (b.claim.2.check σ).outcome with
  | done _ => rfl
  | failed e => exact absurd ho (check_ne_failed _ _ e)
  | panicked call => exact absurd ho (hcalm call)

theorem spends_next (steady : b.IsSteady) (ordered : b.IsOrdered) (room : b.HasRoom)
    (calm : σ.script.IsCalm) (down : σ.IsDown b.tag (b.next σ).store) :
    b.Spends σ (b.next σ) := by
  rcases UInt64.lt_or_le b.current.cursor b.current.max with hlt | hle
  · exact spends_next_of_lt calm hlt down
  have hdown : (b.next σ).store = (σ.fetch b.tag).2 → ∃ e, (σ.fetch b.tag).1 = .failed e :=
    fun hstore => down.of_call (hstore ▸ σ.history_fetch b.tag)
  cases hst : b.staged with
  | none =>
    have hready : b.ready = false := by rw [steady.flagged, hst]; rfl
    rw [next_of_bare hle room steady.usable hready] at hdown ⊢
    obtain ⟨e, ha⟩ := hdown rfl
    have hdry := max_le_cursor_claim (max_le_cursor_claim hle room.first) room.second
    refine .refused (stock_of_dry hle hst) (by rw [ha]; rfl) (by rw [Store.history_fetch, ha]) ?_
    rw [ha]
    exact stock_of_dry (b := b.claim.2.claim.2) hdry hst
  | some g =>
    have hsucc : b.successor? = some g :=
      successor?_eq_some_iff.2 ⟨by rw [steady.flagged, hst]; rfl, hst, ordered g hst⟩
    have hfresh := room.staged g hst
    have hstock : b.stock = Segment.between g.cursor g.max := by
      rw [stock, hst, Segment.position_of_le hle, Segment.between_self, hfresh.2]
      simp [Segment.ids]
    rcases UInt64.lt_or_le g.cursor g.max with hfull | hempty
    · obtain ⟨events, hnext⟩ := next_of_successor (σ := σ) hle room steady.usable hsucc hfull
      rw [hnext]
      refine .served (hstock.trans (Segment.between_eq_cons hfull)) rfl ?_
      rw [stock, Segment.position_advance_of_lt hfull]
      simp
    · obtain ⟨events, hnext⟩ :=
        next_of_empty_successor (σ := σ) hle room steady.usable hsucc hempty
      rw [hnext] at hdown ⊢
      obtain ⟨e, ha⟩ := hdown rfl
      have hnone : Segment.between g.cursor g.max = [] := by
        rw [UInt64.le_iff_toNat_le] at hempty
        rw [Segment.between, Nat.sub_eq_zero_of_le hempty]
        rfl
      refine .refused (hstock.trans hnone) (by rw [ha]; rfl) (by rw [Store.history_fetch, ha]) ?_
      rw [ha]
      apply stock_of_dry
      · exact max_le_cursor_claim (b := { b with current := g }) hempty hfresh.cursor_lt
      · rfl

/-- What is in order stays so with the store down. -/
theorem IsOrdered.operate_of_down {op : Operation} (h : b.IsOrdered) (steady : b.IsSteady)
    (room : b.HasRoom) (hop : op.handles = false)
    (down : σ.IsDown b.tag (b.operate σ op).store) : (b.operate σ op).buffer.IsOrdered := by
  by_cases hne : op = .next
  · subst hne
    rcases UInt64.lt_or_le b.current.cursor b.current.max with hlt | hle
    · simp only [Buffer.operate, next_of_lt hlt] at down ⊢
      obtain ⟨hcurrent, hstaged⟩ := check_of_down (b := b.claim.2) down
      intro g hg
      rw [hcurrent]
      exact h g (hstaged ▸ hg)
    · simp only [Buffer.operate, next_of_le hle room.first steady.usable]
      intro g hg
      have hnone : (b.claim.2.claim.2.renew σ).buffer.staged = none := staged_renew steady.flagged
      rw [hnone] at hg
      cases hg
  · obtain ⟨hcurrent, hstaged⟩ := rests_of_down hne hop down
    intro g hg
    rw [hcurrent]
    exact h g (hstaged ▸ hg)

end Buffer

end IdIssuer

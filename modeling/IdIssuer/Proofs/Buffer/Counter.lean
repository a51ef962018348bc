import IdIssuer.Proofs.Buffer.Serving
import IdIssuer.Proofs.Store.Standing

/-!
# A buffer as a counter

A buffer that has its tag to itself serves and stages the ids of the tag without a gap: its
segments follow one another, and the last of them ends where the tag stands. It then counts:
whatever happens to it, the ids that it hands out are those that follow where its cursor was
(`lined_operate`), and it fails to hand one out only where the store refuses to go on
(`next_answers`).
-/

namespace IdIssuer

open Note

namespace Segment

theorem between_append {a b c : UInt64} (hab : a.toNat ≤ b.toNat) (hbc : b.toNat ≤ c.toNat) :
    between a b ++ between b c = between a c := by
  have hstart : a.toNat + 1 + (b.toNat - a.toNat) = b.toNat + 1 := by omega
  have hlen : c.toNat - a.toNat = b.toNat - a.toNat + (c.toNat - b.toNat) := by omega
  rw [between, between, between, hlen, ← List.map_append, ← hstart, List.range'_append_1]

theorem length_between (base top : UInt64) :
    (between base top).length = top.toNat - base.toNat := by
  rw [between, List.length_map, List.length_range']

theorem map_toNat_between (base top : UInt64) :
    (between base top).map UInt64.toNat =
      List.range' (base.toNat + 1) (between base top).length := by
  rw [length_between, between, List.map_map]
  refine (List.map_congr_left fun n hn => ?_).trans (List.map_id _)
  have htop := top.toNat_lt
  have hrange := List.mem_range'_1.1 hn
  exact UInt64.toNat_ofNat_of_lt' (by change n < 2 ^ 64; omega)

theorem add_length_between {base top : UInt64} (h : base.toNat ≤ top.toNat) :
    base + .ofNat (between base top).length = top := by
  have htop := top.toNat_lt
  apply UInt64.toNat_inj.1
  rw [UInt64.toNat_add, UInt64.toNat_ofNat', length_between]
  omega

end Segment

/-- The operation is asked for, or ends a prefetch that is under way. -/
def Operation.IsOrderly (b : Buffer) : Operation → Prop
  | next | check | drop => True
  | finish => b.loading = true
  | prefetch | put .. | mark => False

/-- The change is one that an orderly operation makes of the buffer. -/
def Note.IsOrderly (b : Buffer) : Note → Prop
  | finished => b.loading = true
  | dropped => True
  | note => note.isRegular = true

theorem Note.isOrderly_of_isRegular {b : Buffer} {note : Note} (h : note.isRegular = true) :
    note.IsOrderly b := by
  cases note with
  | finished | dropped => cases h
  | _ => exact h

namespace Buffer

/-- The segments of the buffer follow one another up to a boundary, and its flags tell the truth. -/
structure Lined (b : Buffer) (boundary : UInt64) : Prop where
  usable : b.poisoned = false
  ready : b.ready = b.staged.isSome
  loading : b.loading = true → b.staged = none
  bare : b.staged = none → b.current.max = boundary
  filled : ∀ g, b.staged = some g →
    g.IsFresh ∧ g.base = b.current.max ∧ g.base < g.max ∧ g.max = boundary

/-- The cursor moves from one buffer state to the other, and claims what it passes. -/
structure Counts (b b' : Buffer) (ids : List UInt64) : Prop where
  le : b.current.position.toNat ≤ b'.current.position.toNat
  ids : ids = Segment.between b.current.position b'.current.position

variable {b b' : Buffer} {σ σ' : Store} {notes : List Note} {m : UInt64}

theorem counts_of_eq (h : b'.current.position = b.current.position) : b.Counts b' [] :=
  ⟨Nat.le_of_eq (by rw [h]), by rw [h, Segment.between_self]⟩

theorem Counts.trans {b'' : Buffer} {ids ids' : List UInt64} (h : b.Counts b' ids)
    (h' : b'.Counts b'' ids') : b.Counts b'' (ids ++ ids') :=
  ⟨Nat.le_trans h.le h'.le, by rw [h.ids, h'.ids, Segment.between_append h.le h'.le]⟩

theorem lined_new {tag : String} {config : Config} {spawner : Spawner} {g : Segment} :
    (Buffer.new tag config spawner g).Lined g.max :=
  ⟨rfl, rfl, fun _ => rfl, fun _ => rfl, nofun⟩

theorem Lined.install {g : Segment} (h : b.Lined m) :
    Lined { b with current := g, staged := none, ready := false } g.max :=
  ⟨h.usable, rfl, fun _ => rfl, fun _ => rfl, nofun⟩

theorem Lined.max_le (h : b.Lined m) : b.current.max.toNat ≤ m.toNat := by
  cases hst : b.staged with
  | none => exact Nat.le_of_eq (congrArg UInt64.toNat (h.bare hst))
  | some g =>
    obtain ⟨-, hbase, hlt, hmax⟩ := h.filled g hst
    rw [UInt64.lt_iff_toNat_lt, hbase, hmax] at hlt
    omega

theorem Lined.staged_of_not_ready (h : b.Lined m) (hr : b.ready = false) : b.staged = none := by
  rw [h.ready] at hr
  simpa using hr

/-! ## Orderly operations -/

/-- What holds at the start of a chain of changes and passes through each of them holds at its end,
together with the ids that are claimed along it. -/
theorem changes_induction {I : List UInt64 → Buffer → Store → Prop}
    (hc : Changes b σ notes b' σ') (start : I [] b σ)
    (step : ∀ {ids b₁ σ₁ note b₂ σ₂}, Change b₁ σ₁ note b₂ σ₂ → note ∈ notes → b₁.tag = b.tag →
      σ₁.script = σ.script → I ids b₁ σ₁ → I (ids ++ note.claim?.toList) b₂ σ₂) :
    I (notes.filterMap claim?) b' σ' := by
  have general : ∀ {rest b₁ σ₁ b₂ σ₂}, Changes b₁ σ₁ rest b₂ σ₂ → ∀ ids, rest ⊆ notes →
      b₁.tag = b.tag → σ₁.script = σ.script → I ids b₁ σ₁ →
      I (ids ++ rest.filterMap claim?) b₂ σ₂ := by
    intro rest b₁ σ₁ b₂ σ₂ hrest
    induction hrest with
    | nil =>
      intro ids _ _ _ hi
      simpa using hi
    | cons hhead _ ih =>
      intro ids hsub htag hscript hi
      obtain ⟨hmem, hsub⟩ := List.cons_subset.1 hsub
      rw [filterMap_cons_eq, ← List.append_assoc]
      exact ih _ hsub ((tag_change hhead).trans htag)
        ((calls_change hhead).script.trans hscript) (step hhead hmem htag hscript hi)
  exact general hc [] (List.Subset.refl _) rfl rfl start

/-- What holds at the start and passes through each change that an orderly operation makes holds of
what the operation leaves behind, together with the ids that it hands out. -/
theorem orderly_induction {I : List UInt64 → Buffer → Store → Prop} {op : Operation}
    (calm : σ.script.IsCalm) (room : b.HasRoom) (hop : op.IsOrderly b) (start : I [] b σ)
    (step : ∀ {ids b₁ σ₁ note b₂ σ₂}, Change b₁ σ₁ note b₂ σ₂ → note.IsOrderly b₁ →
      b₁.tag = b.tag → σ₁.script = σ.script → I ids b₁ σ₁ →
      I (ids ++ note.claim?.toList) b₂ σ₂) :
    I (b.operate σ op).outcome.issued.toList (b.operate σ op).buffer (b.operate σ op).store := by
  have regular (hadmits : ∀ note, op.Admits b note → note.isRegular = true) :
      I (b.operate σ op).outcome.issued.toList (b.operate σ op).buffer
        (b.operate σ op).store := by
    obtain ⟨notes, hcourse⟩ := course_operate (σ := σ) room op
    have hcalm := (b.keeps_operate σ op).calm (Store.fetch_ne_panicked calm b.tag)
    rw [← hcourse.claimed hcalm]
    refine changes_induction hcourse.changes start fun hc hmem htag hscript hi => ?_
    exact step hc (isOrderly_of_isRegular (hadmits _ (hcourse.admits _ hmem))) htag hscript hi
  cases op with
  | next => exact regular fun _ hn => hn
  | check => exact regular fun _ hn => hn
  | finish =>
    have hids : (b.operate σ .finish).outcome.issued = none := issued_map_none _
    rw [hids]
    exact step .finished hop rfl rfl start
  | drop => exact step .dropped trivial rfl rfl start
  | prefetch | put | mark => cases hop

/-! ## Counting -/

section

variable (free : σ.script.GivesNothing) (calm : σ.script.IsCalm)

include free calm

/-- A prefetch for an empty slot fills it with what follows, or changes nothing. -/
theorem Lined.receive (h : b.Lined m) (hs : σ.Stands b.tag m) (hbare : b.staged = none) :
    ∃ m', Lined { (b.receive (σ.fetch b.tag).1).1 with loading := false } m' ∧
      (σ.fetch b.tag).2.Stands b.tag m' := by
  rcases hs.fetch free calm with ⟨e, ha, -, hstands⟩ | ⟨g, ha, hg, hbase, hlt, hstands⟩
  · rw [ha]
    exact ⟨m, ⟨h.usable, h.ready, by simp, h.bare, h.filled⟩, hstands⟩
  · have hreceive : (b.receive (.segment g)).1 = { b with staged := some g, ready := true } := by
      simp [Buffer.receive, hg.1, h.usable, hbare]
    rw [ha, hreceive]
    refine ⟨g.max, ⟨h.usable, rfl, by simp, by simp, fun g' hg' => ?_⟩, hstands⟩
    cases hg'
    exact ⟨hg, by rw [hbase, h.bare hbare], hlt, rfl⟩

theorem lined_change {note : Note} (hc : Change b σ note b' σ') (hn : note.IsOrderly b)
    (h : b.Lined m) (hs : σ.Stands b.tag m) :
    (∃ m', b'.Lined m' ∧ σ'.Stands b.tag m') ∧ b.Counts b' note.claim?.toList := by
  cases hc with
  | claimed hlt =>
    have hpos := Segment.position_of_lt hlt
    have hnext := Segment.position_advance_of_lt hlt
    have hw := Segment.succ_lt_of_lt hlt
    refine ⟨⟨m, ⟨h.usable, h.ready, h.loading, h.bare, h.filled⟩, hs⟩, ?_, ?_⟩
    · rw [claim, hpos, hnext, Segment.toNat_cursor_succ hw]
      omega
    · rw [claim, hpos, hnext, Segment.between_succ (Nat.le_refl _) hw, Segment.between_self]
      rfl
  | missed hle hw =>
    refine ⟨⟨m, ⟨h.usable, h.ready, h.loading, h.bare, h.filled⟩, hs⟩, counts_of_eq ?_⟩
    rw [claim, Segment.position_advance_of_le hle hw, Segment.position_of_le hle]
  | promoted hx hr hst hg =>
    obtain ⟨hfresh, hbase, -, hmax⟩ := h.filled _ hst
    refine ⟨⟨m, hmax ▸ h.install, hs⟩, counts_of_eq ?_⟩
    rw [hfresh.position, hbase, Segment.position_of_le hx]
  | cleared hr hst =>
    rw [h.ready, Option.isSome_iff_exists] at hr
    obtain ⟨g, hg⟩ := hr
    have hlow := hst g hg
    rw [(h.filled g hg).2.1] at hlow
    exact absurd hlow (UInt64.lt_irrefl _)
  | @refilled g hx hr ha hv =>
    have hbare := h.staged_of_not_ready hr
    rcases hs.fetch free calm with ⟨e, he, -⟩ | ⟨g', hg', hfresh, hbase, -, hstands⟩
    · rw [he] at ha
      cases ha
    · cases hg'.symm.trans ha
      refine ⟨⟨g.max, h.install, hstands⟩, counts_of_eq ?_⟩
      rw [hfresh.position, hbase, ← h.bare hbare, Segment.position_of_le hx]
  | refused ha =>
    rcases hs.fetch free calm with ⟨e, he, -, hstands⟩ | ⟨g, hg, hfresh, -⟩
    · exact ⟨⟨m, h, hstands⟩, counts_of_eq rfl⟩
    · exact absurd hfresh.1 (by simp [ha g hg])
  | poisoned ha => exact absurd ha (Store.fetch_ne_panicked calm _ _)
  | due hw =>
    obtain ⟨hready, hloading⟩ := flags_of_wantsPrefetch hw
    have hsame : { b with loading := false } = b := by rw [← hloading]
    have hreceive := b.receive_loading (σ.fetch b.tag).1 false
    rw [hsame] at hreceive
    refine ⟨?_, counts_of_eq (by rw [b.current_receive])⟩
    rw [hreceive]
    exact h.receive free calm hs (h.staged_of_not_ready hready)
  | started hw =>
    have hbare := h.staged_of_not_ready (flags_of_wantsPrefetch hw).1
    exact ⟨⟨m, ⟨h.usable, h.ready, fun _ => hbare, h.bare, h.filled⟩, hs⟩, counts_of_eq rfl⟩
  | finished =>
    exact ⟨h.receive free calm hs (h.loading hn),
      counts_of_eq (congrArg Segment.position (b.current_receive _))⟩
  | dropped => exact ⟨⟨m, ⟨h.usable, h.ready, by simp, h.bare, h.filled⟩, hs⟩, counts_of_eq rfl⟩
  | direct | put | marked => cases hn

/-- A buffer that has its tag to itself goes on counting. -/
theorem lined_operate {op : Operation} (h : b.Lined m) (hs : σ.Stands b.tag m) (room : b.HasRoom)
    (hop : op.IsOrderly b) :
    (∃ m', (b.operate σ op).buffer.Lined m' ∧ (b.operate σ op).store.Stands b.tag m') ∧
      b.Counts (b.operate σ op).buffer (b.operate σ op).outcome.issued.toList := by
  apply orderly_induction (I := fun ids b' σ' =>
    (∃ m', b'.Lined m' ∧ σ'.Stands b.tag m') ∧ b.Counts b' ids) calm room hop
  · exact ⟨⟨m, h, hs⟩, counts_of_eq rfl⟩
  · rintro ids b₁ σ₁ note b₂ σ₂ hc hn htag hscript ⟨⟨m₁, h₁, hs₁⟩, hcounts⟩
    obtain ⟨hend, hcounts'⟩ :=
      lined_change (hscript ▸ free) (hscript ▸ calm) hc hn h₁ (htag.symm ▸ hs₁)
    exact ⟨htag ▸ hend, hcounts.trans hcounts'⟩

/-! ## What `next` answers -/

/-- The buffer hands out the id that follows, unless it has handed out all that are reserved and the
store refuses to reserve more. -/
theorem next_answers (h : b.Lined m) (hs : σ.Stands b.tag m) (room : b.HasRoom) :
    ((b.next σ).outcome = .done (b.current.position + 1) ∧
      (b.current.position = m →
        ∃ g, (b.next σ).store.history = ⟨b.tag, .segment g⟩ :: σ.history)) ∨
    ∃ e, (b.next σ).outcome = .failed (.allocation b.tag e) ∧ b.current.position = m ∧
      σ.Refuses b.tag m e ∧ (b.next σ).store.history = ⟨b.tag, .failed e⟩ :: σ.history := by
  rcases UInt64.lt_or_le b.current.cursor b.current.max with hlt | hle
  · refine .inl ⟨?_, fun hm => ?_⟩
    · rw [next_of_lt hlt, Segment.position_of_lt hlt]
      have hcalm := (b.claim.2.keeps_check σ).calm (Store.fetch_ne_panicked calm _)
      cases ho : (b.claim.2.check σ).outcome with
      | done _ => rfl
      | failed e => exact absurd ho (check_ne_failed _ _ e)
      | panicked call => exact absurd ho (hcalm call)
    · have hmax := h.max_le
      rw [Segment.position_of_lt hlt] at hm
      rw [UInt64.lt_iff_toNat_lt, hm] at hlt
      omega
  · rw [Segment.position_of_le hle]
    cases hst : b.staged with
    | some g =>
      obtain ⟨hfresh, hbase, hlt, hmax⟩ := h.filled g hst
      have hready : b.ready = true := by rw [h.ready, hst]; rfl
      have hsucc : b.successor? = some g :=
        successor?_eq_some_iff.2 ⟨hready, hst, by rw [hbase]; exact UInt64.le_refl _⟩
      have hcursor : g.cursor < g.max := by rwa [hfresh.2]
      obtain ⟨events, hnext⟩ := next_of_successor (σ := σ) hle room h.usable hsucc hcursor
      rw [hnext, hfresh.2, hbase]
      refine .inl ⟨rfl, fun hm => ?_⟩
      rw [hbase, hm, hmax] at hlt
      exact absurd hlt (UInt64.lt_irrefl _)
    | none =>
      have hready : b.ready = false := by rw [h.ready, hst]; rfl
      rw [next_of_bare hle room h.usable hready]
      simp only [Store.history_fetch]
      rcases hs.fetch free calm with ⟨e, ha, hrefuses, -⟩ | ⟨g, ha, hfresh, hbase, hlt, -⟩
      · rw [ha]
        exact .inr ⟨e, rfl, h.bare hst, hrefuses, rfl⟩
      · have hcursor : g.cursor < g.max := by rwa [hfresh.2]
        rw [ha, refill_of_lt hfresh.1 hcursor, hfresh.2, hbase, h.bare hst]
        exact .inl ⟨rfl, fun _ => ⟨g, rfl⟩⟩

end

end Buffer

end IdIssuer

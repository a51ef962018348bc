import IdIssuer.Proofs.Buffer.Course

/-!
# The cursor only rises

Where readers see the cursor never falls, and every claim lies above it, as long as the store yields
segments in order. Segments may be staged in any order, even stale ones: the one that takes over
starts no lower than the one before it ends, or has just been yielded.
-/

namespace IdIssuer

open Note

/-- A store that yields valid segments, none of which starts below the end of an earlier one. -/
structure IsHonest (yields : List Segment) : Prop where
  valid : ∀ g ∈ yields, g.isValid = true
  sorted : yields.Pairwise fun y g => y.max ≤ g.base

theorem IsHonest.before {first yields : List Segment} (h : IsHonest yields)
    (hp : first <+: yields) : IsHonest first :=
  ⟨fun g hg => h.valid g (hp.subset hg), h.sorted.sublist hp.sublist⟩

theorem IsHonest.max_le {seen : List Segment} {g y : Segment} (h : IsHonest (seen ++ [g]))
    (hy : y ∈ seen) : y.max ≤ g.base :=
  (List.pairwise_append.1 h.sorted).2.2 y hy g List.mem_cons_self

namespace Buffer

/-- The segments of a buffer are among those that the store has yielded. -/
structure Known (b : Buffer) (seen : List Segment) : Prop where
  current : ∃ y ∈ seen, y.max = b.current.max
  staged : ∀ g, b.staged = some g → g ∈ seen ∧ g.IsFresh

variable {b b' : Buffer} {σ σ' : Store} {notes : List Note} {seen new : List Segment}

theorem Known.mono (h : b.Known seen) {seen' : List Segment} (hs : seen ⊆ seen') :
    b.Known seen' := by
  obtain ⟨y, hy, hmax⟩ := h.current
  exact ⟨⟨y, hs hy, hmax⟩, fun g hg => ⟨hs (h.staged g hg).1, (h.staged g hg).2⟩⟩

theorem Known.install {g : Segment} (hg : g ∈ seen) :
    Known { b with current := g, staged := none, ready := false } seen := ⟨⟨g, hg, rfl⟩, nofun⟩

theorem Known.receive (h : b.Known seen)
    (hnew : (σ.fetch b.tag).2.grants b.tag = σ.grants b.tag ++ new) :
    (b.receive (σ.fetch b.tag).1).1.Known (seen ++ new) := by
  have hmono := h.mono (List.subset_append_left seen new)
  rcases b.receive_cases (σ.fetch b.tag).1 with ⟨he, -⟩ | ⟨g, ha, hv, -, -, he⟩
  · rw [he]
    exact hmono
  · rw [he]
    refine ⟨hmono.current, fun g' hg' => ?_⟩
    cases hg'
    rw [Store.grants_fetch_segment ha, List.append_right_inj] at hnew
    exact ⟨by simp [← hnew], hv, Store.cursor_fetch ha⟩

/-- The new segment starts no lower than the old one can be claimed from. -/
theorem position_le_of_install {g : Segment} (hx : b.current.max ≤ b.current.cursor)
    (hg : b.current.max ≤ g.base) (hfresh : g.IsFresh) :
    b.current.position.toNat ≤ g.position.toNat := by
  have hv := Segment.isValid_iff.1 hfresh.1
  rw [UInt64.le_iff_toNat_le] at hg
  rw [Segment.position_of_le hx, Segment.toNat_position, hfresh.2]
  omega

/-- What a change does to a buffer whose segments are known. -/
structure Rises (b : Buffer) (b' : Buffer) (seen : List Segment) (ids : List UInt64) : Prop where
  known : b'.Known seen
  position_le : b.current.position.toNat ≤ b'.current.position.toNat
  claims : ∀ n ∈ ids, b.current.position.toNat < n.toNat ∧ n.toNat ≤ b'.current.position.toNat
  sorted : ids.Pairwise (· < ·)

theorem rises_change {note : Note} (h : Change b σ note b' σ')
    (hnew : σ'.grants b.tag = σ.grants b.tag ++ new) (honest : IsHonest (seen ++ new))
    (known : b.Known seen) (hput : ∀ g m, note = .put g m → g ∈ seen ∧ g.IsFresh) :
    b.Rises b' (seen ++ new) note.claim?.toList := by
  have hmono := known.mono (List.subset_append_left seen new)
  have still {b'' : Buffer} (hk : b''.Known (seen ++ new)) (hc : b''.current = b.current) :
      b.Rises b'' (seen ++ new) [] :=
    ⟨hk, Nat.le_of_eq (by rw [hc]), fun n hn => absurd hn List.not_mem_nil, .nil⟩
  cases h with
  | claimed hlt =>
    have hw := Segment.succ_lt_of_lt hlt
    have hpos := Segment.toNat_position_advance hw
    have hold := Segment.position_of_lt hlt
    rw [UInt64.lt_iff_toNat_lt] at hlt
    refine ⟨⟨hmono.current, hmono.staged⟩, ?_, fun n hn => ?_, List.pairwise_singleton _ _⟩
    · rw [claim, hold, hpos]
      omega
    · rw [List.mem_singleton.1 hn, claim, hold, hpos, Segment.toNat_cursor_succ hw]
      omega
  | missed hle hw =>
    refine ⟨⟨hmono.current, hmono.staged⟩, ?_, List.forall_mem_nil _, .nil⟩
    rw [claim, Segment.toNat_position_advance hw, Segment.toNat_position]
    omega
  | promoted hx hr hs hg =>
    obtain ⟨hmem, hfresh⟩ := known.staged _ hs
    exact ⟨.install (List.mem_append_left _ hmem), position_le_of_install hx hg hfresh,
      List.forall_mem_nil _, .nil⟩
  | cleared hr hs => exact still ⟨hmono.current, by simp⟩ rfl
  | @refilled g hx hr ha hv =>
    rw [Store.grants_fetch_segment ha, List.append_right_inj] at hnew
    subst hnew
    obtain ⟨y, hy, hmax⟩ := known.current
    have hbase : b.current.max ≤ g.base := hmax ▸ honest.max_le hy
    exact ⟨.install (List.mem_append_right _ List.mem_cons_self),
      position_le_of_install hx hbase ⟨hv, Store.cursor_fetch ha⟩, List.forall_mem_nil _, .nil⟩
  | refused ha => exact still hmono rfl
  | poisoned ha => exact still ⟨hmono.current, hmono.staged⟩ rfl
  | due hw => exact still (known.receive hnew) (b.current_receive _)
  | direct => exact still (known.receive hnew) (b.current_receive _)
  | started hw => exact still ⟨hmono.current, hmono.staged⟩ rfl
  | finished =>
    have hk := known.receive hnew
    exact still ⟨hk.current, hk.staged⟩ (b.current_receive _)
  | dropped => exact still ⟨hmono.current, hmono.staged⟩ rfl
  | put g mark hp =>
    refine still ⟨hmono.current, fun g' hg' => ?_⟩ rfl
    cases hg'
    obtain ⟨hmem, hfresh⟩ := hput g mark rfl
    exact ⟨List.mem_append_left _ hmem, hfresh⟩
  | marked => exact still ⟨hmono.current, hmono.staged⟩ rfl

theorem Rises.trans {b'' : Buffer} {seen' : List Segment} {ids ids' : List UInt64}
    (h : b.Rises b' seen ids) (h' : b'.Rises b'' seen' ids') :
    b.Rises b'' seen' (ids ++ ids') := by
  have hle := h.position_le
  have hle' := h'.position_le
  refine ⟨h'.known, by omega, fun n hn => ?_, List.pairwise_append.2 ⟨h.sorted, h'.sorted, ?_⟩⟩
  · rcases List.mem_append.1 hn with hn | hn
    · have := h.claims n hn
      omega
    · have := h'.claims n hn
      omega
  · intro n hn n' hn'
    have := h.claims n hn
    have := h'.claims n' hn'
    rw [UInt64.lt_iff_toNat_lt]
    omega

theorem grants_changes (h : Changes b σ notes b' σ') (t : String) :
    σ.grants t <+: σ'.grants t := by
  induction h with
  | nil => exact List.prefix_rfl
  | cons hc _ ih => exact ((calls_change hc).grants_grow t).trans ih

theorem rises_changes (h : Changes b σ notes b' σ')
    (hnew : σ'.grants b.tag = σ.grants b.tag ++ new) (honest : IsHonest (seen ++ new))
    (known : b.Known seen) (hput : ∀ g m, .put g m ∈ notes → g ∈ seen ∧ g.IsFresh) :
    b.Rises b' (seen ++ new) (notes.filterMap claim?) := by
  induction h generalizing seen new with
  | nil =>
    refine ⟨known.mono (List.subset_append_left _ _), Nat.le_refl _, List.forall_mem_nil _, .nil⟩
  | @cons b σ note b₁ σ₁ notes b₂ σ₂ hc hs ih =>
    obtain ⟨new₁, hnew₁⟩ := (calls_change hc).grants_grow b.tag
    obtain ⟨new₂, hnew₂⟩ := grants_changes hs b.tag
    have hsplit : new = new₁ ++ new₂ := by
      rw [← hnew₂, ← hnew₁, List.append_assoc, List.append_right_inj] at hnew
      exact hnew.symm
    subst hsplit
    rw [← List.append_assoc] at honest ⊢
    have hhead := rises_change hc hnew₁.symm (honest.before (List.prefix_append _ _)) known
      fun g m hg => hput g m (hg ▸ List.mem_cons_self)
    have htail := ih (by rw [tag_change hc, hnew₂]) honest hhead.known fun g m hg =>
      ⟨List.mem_append_left _ (hput g m (List.mem_cons_of_mem _ hg)).1,
        (hput g m (List.mem_cons_of_mem _ hg)).2⟩
    rw [filterMap_cons_eq]
    exact hhead.trans htail

end Buffer

end IdIssuer

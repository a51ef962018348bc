import IdIssuer.Proofs.Store.Reserved

/-!
# Where a tag stands

A tag stands at a boundary if the ledger has a row for it with that boundary and a step that is not
zero. From there, a call for the tag yields the ids that follow the boundary and moves it behind
them, or fails and leaves it where it is: because the script lets it, or because the id space ends
there (`Stands.fetch`).
-/

namespace IdIssuer

namespace Store

/-- The tag has a row with this boundary, and its step is not zero. -/
def Stands (s : Store) (tag : String) (boundary : UInt64) : Prop :=
  ∃ step, step ≠ 0 ∧ s.ledger.rows.get? tag = some ⟨boundary, step⟩

/-- Why a call for a tag fails. -/
def Refuses (s : Store) (tag : String) (boundary : UInt64) (error : StoreError) : Prop :=
  error = .injected (s.calls + 1) ∨
    ∃ step, error = .overflow tag boundary step ∧ idLimit.toNat < boundary.toNat + step.toNat

variable {s : Store} {tag : String} {m : UInt64}

theorem Stands.boundary (h : s.Stands tag m) : s.ledger.boundary tag = .ok m := by
  obtain ⟨step, -, hrow⟩ := h
  simp [Ledger.boundary, hrow]

theorem Stands.unique (h : s.Stands tag m) {m' : UInt64}
    (h' : s.Stands tag m') : m = m' := by
  obtain ⟨step, -, hrow⟩ := h
  obtain ⟨step', -, hrow'⟩ := h'
  cases hrow.symm.trans hrow'
  rfl

/-- A call yields the ids that follow the boundary, or is refused. -/
theorem Stands.fetch (h : s.Stands tag m) (free : s.script.GivesNothing)
    (calm : s.script.IsCalm) :
    (∃ e, (s.fetch tag).1 = .failed e ∧ s.Refuses tag m e ∧
      (s.fetch tag).2.Stands tag m) ∨
    ∃ g, (s.fetch tag).1 = .segment g ∧ g.IsFresh ∧ g.base = m ∧ g.base < g.max ∧
      (s.fetch tag).2.Stands tag g.max := by
  obtain ⟨step, hstep, hrow⟩ := h
  unfold Store.fetch
  cases hact : s.script (s.calls + 1) with
  | some act =>
    cases act with
    | fail => exact .inl ⟨_, rfl, .inl rfl, step, hstep, hrow⟩
    | panic => exact absurd hact (calm _)
    | give base max step => exact absurd hact (free _ _ _ _)
  | none =>
    simp only [consult]
    rcases Nat.lt_or_ge idLimit.toNat (m.toNat + step.toNat) with hover | hfits
    · rw [Ledger.fetch_of_overflows hrow hover]
      exact .inl ⟨_, rfl, .inr ⟨step, rfl, hover⟩, step, hstep, hrow⟩
    · have hy : Row.Yields ⟨m, step⟩ _ := Row.yields_of_fits hfits
      rw [Ledger.fetch_of_fits hrow hfits]
      exact .inr ⟨_, rfl, hy.isFresh, rfl, hy.lt hstep, step, hstep, by simp⟩

/-- A call for a tag without a row yields nothing. -/
theorem fetch_of_missing (hrow : s.ledger.rows.get? tag = none) (free : s.script.GivesNothing) :
    (∀ g, (s.fetch tag).1 ≠ .segment g) ∧ (s.fetch tag).2.ledger.rows.get? tag = none := by
  rcases s.fetch_cases free tag with ⟨ha, hledger⟩ | ⟨row, g, hrow', -⟩
  · exact ⟨ha, by rw [hledger, hrow]⟩
  · rw [hrow] at hrow'
    cases hrow'

/-- A call for another tag leaves a tag where it stands. -/
theorem Stands.calls_of_ne {s' : Store} {t : String} (h : s.Stands tag m)
    (hc : s.Calls t s') (ht : t ≠ tag) : s'.Stands tag m := by
  obtain ⟨step, hstep, hrow⟩ := h
  exact ⟨step, hstep, by rw [hc.row_of_ne ht, hrow]⟩

/-- A request that reserves nothing leaves a tag where it stands. -/
theorem Stands.answer (h : s.Stands tag m) {r : Ledger.Request} (hr : r ≠ .fetch tag) :
    (s.answer r).2.Stands tag m := by
  obtain ⟨step, hstep, hrow⟩ := h
  cases r with
  | register t m' step' =>
    simp only [Store.answer, Ledger.answer, Stands]
    rcases s.ledger.register_cases t m' step' with ⟨e, he⟩ | ⟨hnone, -, -, hok⟩
    · rw [he]
      exact ⟨step, hstep, hrow⟩
    · rw [hok]
      have ht : t ≠ tag := by
        rintro rfl
        rw [hrow] at hnone
        cases hnone
      exact ⟨step, hstep, by simp [ht, hrow]⟩
  | setStep t step' =>
    simp only [Store.answer, Ledger.answer, Stands]
    rcases s.ledger.setStep_cases t step' with ⟨e, he⟩ | ⟨row, hrow', hstep', hok⟩
    · rw [he]
      exact ⟨step, hstep, hrow⟩
    · rw [hok]
      by_cases ht : t = tag
      · subst ht
        cases hrow.symm.trans hrow'
        exact ⟨step', hstep', by simp⟩
      · exact ⟨step, hstep, by simp [ht, hrow]⟩
  | boundary t => exact ⟨step, hstep, hrow⟩
  | fetch t =>
    have ht : t ≠ tag := fun he => hr (he ▸ rfl)
    simp only [Store.answer, Ledger.answer, Stands]
    rcases s.ledger.fetch_cases t with ⟨e, he⟩ | ⟨row, g, -, -, hok⟩
    · rw [he]
      exact ⟨step, hstep, hrow⟩
    · rw [hok]
      exact ⟨step, hstep, by simp [ht, hrow]⟩

end Store

end IdIssuer

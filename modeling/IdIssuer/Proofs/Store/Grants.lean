import IdIssuer.Proofs.Segment
import IdIssuer.Store.Basic

/-!
# What a store yields

The segments that a store has yielded for a tag, its `grants`, can be read off its history. Each of
them starts with its cursor at its base. A segment that comes from the ledger is the range by which
the boundary of its tag has just moved (`Ledger.fetch_cases`), and nothing but that changes
(`Store.fetch_cases`).
-/

namespace IdIssuer

/-! ## Requests to the ledger -/

/-- The range by which the boundary of a row moves with the next reservation. -/
structure Row.Yields (row : Row) (g : Segment) : Prop where
  base : g.base = row.boundary
  step : g.step = row.step
  cursor : g.cursor = row.boundary
  max : g.max.toNat = row.boundary.toNat + row.step.toNat
  max_le : g.max.toNat ≤ 2 ^ 63 - 1

theorem Row.Yields.isFresh {row : Row} {g : Segment} (h : row.Yields g) : g.IsFresh := by
  refine ⟨Segment.isValid_iff.2 ⟨?_, h.max_le⟩, by rw [h.cursor, h.base]⟩
  rw [h.base, h.max]
  exact Nat.le_add_right _ _

/-- A step that is not zero leaves no segment empty. -/
theorem Row.Yields.lt {row : Row} {g : Segment} (h : row.Yields g) (hstep : row.step ≠ 0) :
    g.base < g.max := by
  have hpos : 0 < row.step.toNat :=
    Nat.pos_of_ne_zero fun hzero => hstep (UInt64.toNat_inj.1 hzero)
  rw [UInt64.lt_iff_toNat_lt, h.base, h.max]
  omega

theorem ofBoundary_add {boundary step : UInt64}
    (h : boundary.toNat + step.toNat ≤ idLimit.toNat) :
    Segment.ofBoundary (boundary + step) step = .new boundary (boundary + step) step := by
  have hsum := toNat_add_of_lt (lt_size_of_fits h)
  have hle : step ≤ boundary + step := by
    rw [UInt64.le_iff_toNat_le]
    omega
  have hsub : boundary + step - step = boundary := by
    apply UInt64.toNat_inj.1
    rw [UInt64.toNat_sub_of_le _ _ hle]
    omega
  rw [Segment.ofBoundary, if_pos hle, hsub]

theorem Row.yields_of_fits {row : Row}
    (h : row.boundary.toNat + row.step.toNat ≤ idLimit.toNat) :
    row.Yields (.new row.boundary (row.boundary + row.step) row.step) := by
  have hsum := toNat_add_of_lt (lt_size_of_fits h)
  exact ⟨rfl, rfl, rfl, hsum, hsum ▸ h⟩

namespace Ledger

variable {l : Ledger} {tag : String} {row : Row}

/-! How a reservation may end: the tag has no row, or its boundary and step add up to more than the
id space holds, or they do not. -/

theorem fetch_of_unknown (hrow : l.rows.get? tag = none) :
    l.fetch tag = (.error (.unknownTag tag), l) := by
  rw [fetch, hrow]

theorem fetch_of_overflows (hrow : l.rows.get? tag = some row)
    (h : idLimit.toNat < row.boundary.toNat + row.step.toNat) :
    l.fetch tag = (.error (.overflow tag row.boundary row.step), l) := by
  simp only [fetch, hrow, Row.next?_eq, if_neg (Nat.not_le.2 h)]

theorem fetch_of_fits (hrow : l.rows.get? tag = some row)
    (h : row.boundary.toNat + row.step.toNat ≤ idLimit.toNat) :
    l.fetch tag = (.ok (.new row.boundary (row.boundary + row.step) row.step),
      ⟨l.rows.insert tag { row with boundary := row.boundary + row.step }, l.fetches + 1⟩) := by
  simp only [fetch, hrow, Row.next?_eq, if_pos h, ofBoundary_add h]

/-- A reservation is refused and changes nothing, or yields the range by which the boundary of its
tag moves. -/
theorem fetch_cases (l : Ledger) (tag : String) :
    (∃ e, l.fetch tag = (.error e, l)) ∨
    ∃ row g, l.rows.get? tag = some row ∧ row.Yields g ∧
      l.fetch tag =
        (.ok g, ⟨l.rows.insert tag { row with boundary := g.max }, l.fetches + 1⟩) := by
  cases hrow : l.rows.get? tag with
  | none => exact .inl ⟨_, fetch_of_unknown hrow⟩
  | some row =>
    rcases Nat.lt_or_ge idLimit.toNat (row.boundary.toNat + row.step.toNat) with hover | hfits
    · exact .inl ⟨_, fetch_of_overflows hrow hover⟩
    · exact .inr ⟨row, _, rfl, Row.yields_of_fits hfits, fetch_of_fits hrow hfits⟩

/-- A registration is refused and changes nothing, or gives a tag without a row one. -/
theorem register_cases (l : Ledger) (tag : String) (boundary step : UInt64) :
    (∃ e, l.register tag boundary step = (.error e, l)) ∨
    l.rows.get? tag = none ∧ step ≠ 0 ∧ boundary ≤ idLimit ∧
      l.register tag boundary step =
        (.ok (), ⟨l.rows.insert tag ⟨boundary, step⟩, l.fetches⟩) := by
  unfold register
  by_cases hs : step = 0
  · exact .inl ⟨_, if_pos hs⟩
  rw [if_neg hs]
  by_cases hb : idLimit < boundary
  · exact .inl ⟨_, if_pos hb⟩
  rw [if_neg hb]
  cases hrow : l.rows.get? tag with
  | some row => exact .inl ⟨_, rfl⟩
  | none => exact .inr ⟨rfl, hs, UInt64.not_lt.1 hb, rfl⟩

/-- A change of the step is refused and changes nothing, or changes the step of a row and nothing
else. -/
theorem setStep_cases (l : Ledger) (tag : String) (step : UInt64) :
    (∃ e, l.setStep tag step = (.error e, l)) ∨
    ∃ row, l.rows.get? tag = some row ∧ step ≠ 0 ∧
      l.setStep tag step = (.ok (), ⟨l.rows.insert tag { row with step }, l.fetches⟩) := by
  unfold setStep
  by_cases hs : step = 0
  · exact .inl ⟨_, if_pos hs⟩
  rw [if_neg hs]
  cases hrow : l.rows.get? tag with
  | none => exact .inl ⟨_, rfl⟩
  | some row => exact .inr ⟨row, rfl, hs, rfl⟩

end Ledger

/-! ## Calls of the store -/

/-- A script under which every segment comes from the ledger. -/
def Script.GivesNothing (script : Script) : Prop :=
  ∀ call base max step, script call ≠ some (.give base max step)

/-- A script under which no call panics. -/
def Script.IsCalm (script : Script) : Prop := ∀ call, script call ≠ some .panic

/-- The segment that a call yields for a tag. -/
def Call.grant? (tag : String) (c : Call) : Option Segment :=
  match c.answer with
  | .segment g => if c.tag = tag then some g else none
  | .failed _ | .panicked _ => none

namespace Store

/-- The segments that a store has yielded for a tag, oldest first. -/
def grants (s : Store) (tag : String) : List Segment :=
  s.history.reverse.filterMap (Call.grant? tag)

theorem grants_fetch (s : Store) (tag t : String) :
    (s.fetch tag).2.grants t =
      s.grants t ++ (Call.grant? t ⟨tag, (s.fetch tag).1⟩).toList := by
  unfold grants
  rw [history_fetch, List.reverse_cons, List.filterMap_append]
  cases h : Call.grant? t ⟨tag, (s.fetch tag).1⟩ <;> simp [h]

theorem grants_fetch_segment {s : Store} {tag : String} {g : Segment}
    (h : (s.fetch tag).1 = .segment g) : (s.fetch tag).2.grants tag = s.grants tag ++ [g] := by
  rw [grants_fetch, h]
  simp [Call.grant?]

theorem grants_grow_fetch (s : Store) (tag t : String) :
    s.grants t <+: (s.fetch tag).2.grants t := by
  rw [grants_fetch]
  exact List.prefix_append _ _

/-- The store has been called for a tag once, or not at all. -/
def Calls (s : Store) (tag : String) (s' : Store) : Prop := s' = s ∨ s' = (s.fetch tag).2

theorem Calls.script {s s' : Store} {tag : String} (h : s.Calls tag s') : s'.script = s.script := by
  rcases h with rfl | rfl
  · rfl
  · exact s.script_fetch tag

theorem Calls.grants_grow {s s' : Store} {tag : String} (h : s.Calls tag s') (t : String) :
    s.grants t <+: s'.grants t := by
  rcases h with rfl | rfl
  · exact List.prefix_rfl
  · exact s.grants_grow_fetch tag t

/-- A call that stands in the history only now has been answered just then. -/
theorem Calls.answer {s s' : Store} {t : String} {c : Call} (h : s.Calls t s')
    (hc : s'.history = c :: s.history) : (s.fetch c.tag).1 = c.answer := by
  rcases h with rfl | rfl
  · exact absurd hc (List.cons_ne_self _ _).symm
  · rw [history_fetch] at hc
    injection hc with hc
    rw [← hc]

/-- A segment comes from the store with nothing claimed. -/
theorem cursor_fetch {s : Store} {tag : String} {g : Segment}
    (h : (s.fetch tag).1 = .segment g) : g.cursor = g.base := by
  unfold fetch at h
  cases hact : s.script (s.calls + 1) with
  | some act =>
    rw [hact] at h
    cases act <;> simp only [Act.answer, Answer.segment.injEq, reduceCtorEq] at h
    rw [← h]
    rfl
  | none =>
    rw [hact] at h
    simp only [consult] at h
    rcases s.ledger.fetch_cases tag with ⟨e, he⟩ | ⟨row, g', -, hy, hg⟩
    · rw [he] at h
      cases h
    · rw [hg] at h
      cases h
      rw [hy.cursor, hy.base]

/-- A call that yields no segment from the ledger leaves the ledger as it is. -/
theorem fetch_cases {s : Store} (free : s.script.GivesNothing) (tag : String) :
    ((∀ g, (s.fetch tag).1 ≠ .segment g) ∧ (s.fetch tag).2.ledger = s.ledger) ∨
    ∃ row g, s.ledger.rows.get? tag = some row ∧ row.Yields g ∧ (s.fetch tag).1 = .segment g ∧
      (s.fetch tag).2.ledger =
        ⟨s.ledger.rows.insert tag { row with boundary := g.max }, s.ledger.fetches + 1⟩ := by
  unfold fetch
  cases hact : s.script (s.calls + 1) with
  | some act =>
    refine .inl ⟨fun g => ?_, rfl⟩
    cases act with
    | fail => simp [Act.answer]
    | panic => simp [Act.answer]
    | give base max step => exact absurd hact (free _ _ _ _)
  | none =>
    simp only [consult]
    rcases s.ledger.fetch_cases tag with ⟨e, he⟩ | ⟨row, g, hrow, hy, hg⟩
    · rw [he]
      exact .inl ⟨by simp, rfl⟩
    · rw [hg]
      exact .inr ⟨row, g, hrow, hy, rfl, rfl⟩

/-- A store whose script is calm answers every call. -/
theorem fetch_ne_panicked {s : Store} (calm : s.script.IsCalm) (tag : String) (call : ℕ) :
    (s.fetch tag).1 ≠ .panicked call := by
  unfold fetch
  cases hact : s.script (s.calls + 1) with
  | some act =>
    cases act with
    | fail => simp [Act.answer]
    | panic => exact absurd hact (calm _)
    | give base max step => simp [Act.answer]
  | none =>
    simp only [consult]
    rcases s.ledger.fetch_cases tag with ⟨e, he⟩ | ⟨row, g, -, -, hg⟩
    · simp [he]
    · simp [hg]

end Store

end IdIssuer

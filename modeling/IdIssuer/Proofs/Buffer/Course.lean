import IdIssuer.Proofs.Buffer.Change

/-!
# The course of an operation

Each operation is a chain of changes (`course_operate`). The notes along the chain account for what
the operation hands out, for the segments that it makes the one being served (`installs`), and for
the prefetch that it leaves to be run later; and no operation makes more than two claims on one
segment.
-/

namespace IdIssuer

open Note

namespace Buffer

/-- The staged segment, if it is due to be served next. -/
def successor? (b : Buffer) : Option Segment :=
  if b.ready then b.staged.filter (b.current.max ≤ ·.base) else none

/-- The segment that the store yields to a caller who waits, if it is fit to be served. -/
def refills (b : Buffer) (store : Store) : List Segment :=
  match (store.fetch b.tag).1 with
  | .segment g => if g.isValid then [g] else []
  | .failed _ | .panicked _ => []

/-- The segments that take over from an exhausted one, until there is one with an id. -/
def succession (b : Buffer) (store : Store) : List Segment :=
  match b.successor? with
  | some g => g :: if g.cursor < g.max then [] else b.refills store
  | none => b.refills store

/-- The segments that `next` makes the one being served, in order. -/
def installs (b : Buffer) (store : Store) : List Segment :=
  if b.poisoned ∨ b.current.cursor < b.current.max then [] else b.succession store

end Buffer

namespace Operation

/-- The changes that an operation on a buffer is made of. -/
def Admits (b : Buffer) : Operation → Note → Prop
  | next, note | check, note => note.isRegular = true
  | prefetch, note => note = .direct
  | finish, note => note = .finished
  | drop, note => note = .dropped
  | put g m, note => note = .put g m ∧ b.poisoned = false
  | mark, note => note = .marked

/-- The segments that an operation makes the one being served, in order. -/
def installs (b : Buffer) (store : Store) : Operation → List Segment
  | next => b.installs store
  | _ => []

/-- The most claims that an operation makes on one segment. -/
def claims : Operation → ℕ
  | next => 2
  | _ => 0

/-- What the notes along an operation add up to. -/
structure Course (op : Operation) (b : Buffer) (store : Store) (notes : List Note) : Prop where
  changes : Changes b store notes (b.operate store op).buffer (b.operate store op).store
  admits : ∀ note ∈ notes, op.Admits b note
  issued : (b.operate store op).outcome.issued.toList.Sublist (notes.filterMap claim?)
  claimed : (∀ call, (b.operate store op).outcome ≠ .panicked call) →
    notes.filterMap claim? = (b.operate store op).outcome.issued.toList
  installed : notes.filterMap install? = op.installs b store
  drift : ∀ c, drift c notes ≤ c + op.claims
  queued : (b.operate store op).queued = true ↔ .started ∈ notes

/-- Only what an operation stages by hand, if the lock lets it, is staged by hand. -/
theorem Admits.put {b : Buffer} {op : Operation} {g : Segment} {m : Bool}
    (h : op.Admits b (.put g m)) : op = .put g m ∧ b.poisoned = false := by
  cases op with
  | put g' m' =>
    obtain ⟨he, hp⟩ := h
    cases he
    exact ⟨rfl, hp⟩
  | next | check | prefetch | finish | drop | mark => cases h

end Operation

namespace Buffer

variable {b : Buffer} {σ : Store}

/-! ## Seeing whether a prefetch is due -/

theorem changes_check (b : Buffer) (σ : Store) :
    ∃ notes, Changes b σ notes (b.check σ).buffer (b.check σ).store ∧
      (notes = [] ∨ notes = [.due] ∨ notes = [.started]) ∧
      ((b.check σ).queued = true ↔ .started ∈ notes) := by
  unfold check
  by_cases hw : b.wantsPrefetch = true
  · rw [if_pos hw]
    have hl := (flags_of_wantsPrefetch hw).2
    unfold startPrefetch
    dsimp only
    -- The flag that the prefetch sets goes down again, whichever way it ends.
    generalize hstarted : { b with loading := true } = started
    have hdrop : started.dropPrefetch = b := by rw [← hstarted, dropPrefetch, ← hl]
    have hrun : (started.finishPrefetch σ).buffer = (b.receive (σ.fetch b.tag).1).1 ∧
        (started.finishPrefetch σ).store = (σ.fetch b.tag).2 := by
      simp only [← hstarted, finishPrefetch, prefetch, receive_loading, and_true]
      rw [← receive_loading, ← hl]
    cases b.spawner with
    | inline | detached =>
      refine ⟨[.due], ?_, by simp, by simp [finishPrefetch, prefetch]⟩
      rw [hrun.1, hrun.2]
      exact .single (.due hw)
    | dropping =>
      refine ⟨[], ?_, by simp, by simp⟩
      rw [hdrop]
      exact .nil
    | queueing =>
      refine ⟨[.started], ?_, by simp, by simp⟩
      rw [← hstarted]
      exact .single (.started hw)
  · rw [if_neg hw]
    exact ⟨[], .nil, by simp, by simp⟩

/-! ## Renewing an exhausted segment -/

/-- A segment from the store that holds an id is served at once. -/
theorem refill_of_lt {g : Segment} (hv : g.isValid = true) (hg : g.cursor < g.max) :
    b.refill (.segment g) = (.done (g.cursor + 1),
      { b with current := g.advance.2, staged := none, ready := false }) := by
  simp [refill, hv, serve, claim, Segment.advance_of_lt hg]

/-- The chain behind an answer of the store to a caller who waited. -/
theorem changes_refill (hx : b.current.max ≤ b.current.cursor) (hr : b.ready = false) :
    ∃ notes, Changes b σ notes (b.refill (σ.fetch b.tag).1).2 (σ.fetch b.tag).2 ∧
      (∀ note ∈ notes, note.isRegular = true ∧ note ≠ .started) ∧
      notes.filterMap claim? = (((b.refill (σ.fetch b.tag).1).1.map some).issued).toList ∧
      notes.filterMap install? = b.refills σ ∧ ∀ c, drift c notes = c ∨ drift c notes = 1 := by
  unfold refills
  cases ha : (σ.fetch b.tag).1 with
  | panicked call =>
    exact ⟨[.poisoned], .single (.poisoned ha), by simp [isRegular], rfl, rfl,
      fun c => .inl rfl⟩
  | failed error =>
    refine ⟨[.refused], .single (.refused ?_), by simp [isRegular], rfl, rfl,
      fun c => .inl rfl⟩
    rw [ha]
    simp
  | segment g =>
    cases hv : g.isValid with
    | false =>
      have hrefill : b.refill (.segment g) = (.failed (.invalidSegment b.tag g.base g.max), b) := by
        simp [refill, hv]
      rw [hrefill]
      refine ⟨[.refused], .single (.refused fun g' h => ?_), by simp [isRegular], rfl,
        by simp only [hv, Bool.false_eq_true, if_false]; rfl, fun c => .inl rfl⟩
      rw [ha] at h
      cases h
      exact hv
    | true =>
      have hc := Store.cursor_fetch ha
      have hins := Change.refilled hx hr ha hv
      by_cases hlt : g.cursor < g.max
      · rw [refill_of_lt hv hlt]
        exact ⟨[.installed g, .claimed (g.cursor + 1)], .cons hins (.single (.claimed hlt)),
          by simp [isRegular], rfl, by simp only [hv, if_true]; rfl, fun c => .inr rfl⟩
      · have hle := UInt64.not_lt.1 hlt
        have hw : g.cursor.toNat + 1 < 2 ^ 64 := Segment.IsFresh.cursor_lt ⟨hv, hc⟩
        have hrefill : b.refill (.segment g) =
            (.failed (.emptySegment b.tag),
              { b with current := g.advance.2, staged := none, ready := false }) := by
          simp [refill, hv, serve, claim, Segment.advance_of_le hle]
        rw [hrefill]
        exact ⟨[.installed g, .missed], .cons hins (.single (.missed hle hw)),
          by simp [isRegular], rfl, by simp only [hv, if_true]; rfl, fun c => .inr rfl⟩

theorem successor?_eq_some_iff {g : Segment} :
    b.successor? = some g ↔ b.ready = true ∧ b.staged = some g ∧ b.current.max ≤ g.base := by
  unfold successor?
  cases b.ready <;> simp

theorem successor?_eq_none_iff :
    b.successor? = none ↔
      (b.ready = true → ∀ g, b.staged = some g → g.base < b.current.max) := by
  unfold successor?
  cases b.ready <;> simp

theorem promote_of_successor {g : Segment} (h : b.successor? = some g) :
    ∃ events, b.promote =
      (g.advance.1, { b with current := g.advance.2, staged := none, ready := false }, events) := by
  obtain ⟨hr, hs, hg⟩ := successor?_eq_some_iff.1 h
  refine ⟨[.promoted g.base g.max], ?_⟩
  simp [promote, hr, hs, hg, serve, claim]

theorem promote_of_no_successor (hr : b.ready = true) (h : b.successor? = none) :
    ∃ events, b.promote = (none, { b with staged := none, ready := false }, events) := by
  have hlow := successor?_eq_none_iff.1 h hr
  unfold promote
  rw [if_pos hr]
  cases hs : b.staged with
  | none => exact ⟨[], rfl⟩
  | some g =>
    dsimp only
    rw [if_neg (UInt64.not_le.2 (hlow g hs))]
    exact ⟨_, rfl⟩

/-- The chain behind a caller who finds the segment exhausted while holding the lock. -/
theorem changes_renew (hx : b.current.max ≤ b.current.cursor)
    (hfresh : ∀ g, b.staged = some g → g.IsFresh) :
    ∃ notes, Changes b σ notes (b.renew σ).buffer (b.renew σ).store ∧
      (∀ note ∈ notes, note.isRegular = true ∧ note ≠ .started) ∧
      notes.filterMap claim? = ((b.renew σ).outcome.map some).issued.toList ∧
      notes.filterMap install? = b.succession σ ∧
      ∀ c, drift c notes = c ∨ drift c notes = 1 := by
  unfold renew succession
  cases hr : b.ready with
  | false =>
    have hprom : b.promote = (none, b, []) := by simp [promote, hr]
    have hsucc : b.successor? = none := by simp [successor?, hr]
    rw [hprom, hsucc]
    exact changes_refill hx hr
  | true =>
    cases hsucc : b.successor? with
    | none =>
      obtain ⟨events, hprom⟩ := promote_of_no_successor hr hsucc
      rw [hprom]
      let b' : Buffer := { b with staged := none, ready := false }
      obtain ⟨notes, hc, hreg, hids, hins, hdrift⟩ := changes_refill (b := b') (σ := σ) hx rfl
      have hclear : Change b σ .cleared b' σ := .cleared hr (successor?_eq_none_iff.1 hsucc hr)
      exact ⟨.cleared :: notes, .cons hclear hc, List.forall_mem_cons.2 ⟨by simp [isRegular], hreg⟩,
        hids, hins, hdrift⟩
    | some g =>
      obtain ⟨events, hprom⟩ := promote_of_successor hsucc
      obtain ⟨-, hs, hg⟩ := successor?_eq_some_iff.1 hsucc
      rw [hprom]
      have hinst := Change.promoted (σ := σ) hx hr hs hg
      by_cases hlt : g.cursor < g.max
      · rw [Segment.advance_of_lt hlt]
        simp only [if_pos hlt]
        exact ⟨[.installed g, .claimed (g.cursor + 1)], .cons hinst (.single (.claimed hlt)),
          by simp [isRegular], rfl, rfl, fun c => .inr rfl⟩
      · have hle := UInt64.not_lt.1 hlt
        have hw := (hfresh g hs).cursor_lt
        rw [Segment.advance_of_le hle]
        simp only [if_neg hlt]
        let b' : Buffer := { b with current := g.advance.2, staged := none, ready := false }
        obtain ⟨notes, hc, hreg, hids, hins, hdrift⟩ :=
          changes_refill (b := b') (σ := σ)
            (max_le_cursor_claim (b := { b with current := g }) hle hw)
            rfl
        refine ⟨.installed g :: .missed :: notes, .cons hinst (.cons (.missed hle hw) hc), ?_,
          hids, congrArg (g :: ·) hins, fun c => .inr ?_⟩
        · exact List.forall_mem_cons.2 ⟨by simp [isRegular],
            List.forall_mem_cons.2 ⟨by simp [isRegular], hreg⟩⟩
        · exact (hdrift 1).elim id id

/-! ## Asking for an id -/

/-- The cursor has room for the claims of one more `next`. -/
structure HasRoom (b : Buffer) : Prop where
  cursor : b.current.cursor.toNat + 2 < 2 ^ 64
  staged : ∀ g, b.staged = some g → g.IsFresh

theorem HasRoom.first (h : b.HasRoom) : b.current.cursor.toNat + 1 < 2 ^ 64 :=
  Nat.lt_of_succ_lt h.cursor

theorem HasRoom.second (h : b.HasRoom) : b.claim.2.current.cursor.toNat + 1 < 2 ^ 64 := by
  have hfirst := Segment.toNat_cursor_succ h.first
  simp only [claim, Segment.cursor_advance, hfirst]
  exact h.cursor

/-- A staged segment that holds an id is promoted, and the store is not called. -/
theorem next_of_successor {g : Segment} (h : b.current.max ≤ b.current.cursor) (room : b.HasRoom)
    (hp : b.poisoned = false) (hs : b.successor? = some g) (hg : g.cursor < g.max) :
    ∃ events, b.next σ =
      ⟨.done (g.cursor + 1), { b with current := g.advance.2, staged := none, ready := false }, σ,
        events, false⟩ := by
  have hs' : b.claim.2.claim.2.successor? = some g := hs
  obtain ⟨events, hprom⟩ := promote_of_successor hs'
  refine ⟨events, ?_⟩
  rw [next_of_le h room.first hp, renew, hprom, Segment.advance_of_lt hg]
  rfl

/-- A staged segment that holds no id is promoted as well, and the caller goes on to wait. -/
theorem next_of_empty_successor {g : Segment} (h : b.current.max ≤ b.current.cursor)
    (room : b.HasRoom) (hp : b.poisoned = false) (hs : b.successor? = some g)
    (hg : g.max ≤ g.cursor) :
    ∃ events, b.next σ =
      ⟨(refill { b with current := g.advance.2, staged := none, ready := false }
          (σ.fetch b.tag).1).1,
        (refill { b with current := g.advance.2, staged := none, ready := false }
          (σ.fetch b.tag).1).2, (σ.fetch b.tag).2, events, false⟩ := by
  have hs' : b.claim.2.claim.2.successor? = some g := hs
  obtain ⟨events, hprom⟩ := promote_of_successor hs'
  refine ⟨events ++ [.fallback], ?_⟩
  rw [next_of_le h room.first hp, renew, hprom, Segment.advance_of_le hg]
  rfl

/-- With nothing staged, the caller waits for the store. -/
theorem next_of_bare (h : b.current.max ≤ b.current.cursor) (room : b.HasRoom)
    (hp : b.poisoned = false) (hr : b.ready = false) :
    b.next σ =
      ⟨(b.claim.2.claim.2.refill (σ.fetch b.tag).1).1,
        (b.claim.2.claim.2.refill (σ.fetch b.tag).1).2, (σ.fetch b.tag).2, [.fallback], false⟩ := by
  have hprom : b.claim.2.claim.2.promote = (none, b.claim.2.claim.2, []) := by
    simp [promote, claim, hr]
  rw [next_of_le h room.first hp, renew, hprom]
  rfl

theorem issued_map {α : Type} (outcome : Outcome α) (id : UInt64) :
    ((outcome.map fun _ => id).map some).issued.toList.Sublist [id] ∧
      ((∀ call, (outcome.map fun _ => id).map some ≠ .panicked call) →
        (∀ error, outcome ≠ .failed error) →
        ((outcome.map fun _ => id).map some).issued.toList = [id]) := by
  cases outcome with
  | done value => exact ⟨List.Sublist.refl _, fun _ _ => rfl⟩
  | failed error => exact ⟨List.nil_sublist _, fun _ h => absurd rfl (h error)⟩
  | panicked call => exact ⟨List.nil_sublist _, fun h _ => absurd rfl (h call)⟩

theorem check_ne_failed (b : Buffer) (σ : Store) (error : BufferError) :
    (b.check σ).outcome ≠ .failed error := by
  have hrun : ∀ b' : Buffer, (b'.finishPrefetch σ).outcome ≠ .failed error := by
    intro b'
    simp only [finishPrefetch, prefetch]
    cases (σ.fetch b'.tag).1 <;> simp
  unfold check startPrefetch
  split_ifs
  · cases b.spawner with
    | inline => exact hrun _
    | detached | dropping | queueing => simp
  · simp

/-- The course of `next` as long as the current segment lasts. -/
theorem course_next_of_lt (h : b.current.cursor < b.current.max) :
    ∃ notes, Operation.next.Course b σ notes := by
  obtain ⟨notes, hc, hshape, hqueued⟩ := changes_check b.claim.2 σ
  have hplain : notes.filterMap claim? = [] ∧ notes.filterMap install? = [] ∧
      (∀ c, drift c notes = c) ∧ ∀ note ∈ notes, note.isRegular = true := by
    rcases hshape with rfl | rfl | rfl <;> exact ⟨rfl, rfl, fun _ => rfl, by simp [isRegular]⟩
  obtain ⟨hids, hins, hdrift, hreg⟩ := hplain
  have hissued := issued_map (b.claim.2.check σ).outcome (b.current.cursor + 1)
  have hclaims : (.claimed (b.current.cursor + 1) :: notes).filterMap claim? =
      [b.current.cursor + 1] := congrArg ((b.current.cursor + 1) :: ·) hids
  refine ⟨.claimed (b.current.cursor + 1) :: notes, ?_, ?_, ?_, ?_, ?_, ?_, ?_⟩
  · simp only [operate, next_of_lt h]
    exact .cons (.claimed h) hc
  · exact List.forall_mem_cons.2 ⟨rfl, hreg⟩
  · simp only [operate, next_of_lt h]
    rw [hclaims]
    exact hissued.1
  · intro hcalm
    simp only [operate, next_of_lt h] at hcalm ⊢
    rw [hclaims]
    exact (hissued.2 hcalm (check_ne_failed _ _)).symm
  · simp only [Operation.installs, installs, if_pos (Or.inr h)]
    exact hins
  · intro c
    rw [drift, hdrift (c + 1), Operation.claims]
    omega
  · simp only [operate, next_of_lt h, List.mem_cons, reduceCtorEq, false_or]
    exact hqueued

theorem course_next (h : b.HasRoom) : ∃ notes, Operation.next.Course b σ notes := by
  have hw := h.first
  rcases UInt64.lt_or_le b.current.cursor b.current.max with hlt | hle
  · exact course_next_of_lt hlt
  cases hp : b.poisoned with
  | true =>
    refine ⟨[.missed], ?_, by simp [Operation.Admits, isRegular], ?_, ?_, ?_, ?_, ?_⟩
    · simp only [operate, next_of_poisoned hle hp]
      exact .single (.missed hle hw)
    · simp only [operate, next_of_poisoned hle hp]
      exact List.nil_sublist _
    · intro _
      simp only [operate, next_of_poisoned hle hp]
      rfl
    · simp only [Operation.installs, installs, hp, true_or, if_true]
      rfl
    · intro c
      simp [drift, Operation.claims]
    · simp [operate, next_of_poisoned hle hp]
  | false =>
    have hw₁ := h.second
    have hle₁ := max_le_cursor_claim hle hw
    have hle₂ := max_le_cursor_claim hle₁ hw₁
    obtain ⟨notes, hc, hreg, hids, hins, hdrift⟩ :=
      changes_renew (b := b.claim.2.claim.2) (σ := σ) hle₂ h.staged
    refine ⟨.missed :: .missed :: notes, ?_, ?_, ?_, ?_, ?_, ?_, ?_⟩
    · simp only [operate, next_of_le hle hw hp]
      exact .cons (.missed hle hw) (.cons (.missed hle₁ hw₁) hc)
    · exact List.forall_mem_cons.2 ⟨rfl, List.forall_mem_cons.2 ⟨rfl, fun n hn => (hreg n hn).1⟩⟩
    · simp only [operate, next_of_le hle hw hp]
      rw [← hids]
      exact List.Sublist.refl _
    · intro _
      simp only [operate, next_of_le hle hw hp]
      exact hids
    · have hlt : ¬ (b.poisoned = true ∨ b.current.cursor < b.current.max) := by
        simp [hp, UInt64.not_lt.2 hle]
      simp only [Operation.installs, installs, if_neg hlt]
      exact hins
    · intro c
      simp only [drift, Operation.claims]
      rcases hdrift (c + 1 + 1) with hd | hd <;> omega
    · have hq : (b.claim.2.claim.2.renew σ).queued = false := by
        unfold renew
        split <;> rfl
      simp only [operate, next_of_le hle hw hp, hq, List.mem_cons, reduceCtorEq, false_or,
        Bool.false_eq_true, false_iff]
      exact fun hm => (hreg _ hm).2 rfl

/-! ## Any operation -/

/-- The course of an operation that claims nothing, makes one change and starts no prefetch. -/
theorem course_single {op : Operation} {note : Note}
    (h : Change b σ note (b.operate σ op).buffer (b.operate σ op).store)
    (hadmits : op.Admits b note)
    (hissued : (b.operate σ op).outcome.issued = none) (hclaim : note.claim? = none)
    (hinstall : note.install? = none) (hop : op ≠ .next) (hdrift : ∀ c, drift c [note] = c)
    (hqueued : (b.operate σ op).queued = false) (hstarted : note ≠ .started) :
    op.Course b σ [note] := by
  refine ⟨.single h, by simpa using hadmits, ?_, fun _ => ?_, ?_, fun c => ?_, ?_⟩
  · rw [hissued]
    exact List.nil_sublist _
  · rw [hissued]
    simp [hclaim]
  · cases op with
    | next => exact absurd rfl hop
    | check | prefetch | finish | drop | put | mark => simp [hinstall, Operation.installs]
  · rw [hdrift]
    exact Nat.le_add_right _ _
  · simp [hqueued, hstarted.symm]

theorem issued_map_none {α : Type} (outcome : Outcome α) :
    (outcome.map fun _ => (none : Option UInt64)).issued = none := by
  cases outcome <;> rfl

/-- Every operation is a chain of changes that it admits. -/
theorem course_operate (h : b.HasRoom) (op : Operation) : ∃ notes, op.Course b σ notes := by
  cases op with
  | next => exact course_next h
  | check =>
    obtain ⟨notes, hc, hshape, hqueued⟩ := changes_check b σ
    have hnone : (b.operate σ .check).outcome.issued = none := issued_map_none _
    refine ⟨notes, hc, ?_, ?_, fun _ => ?_, ?_, ?_, hqueued⟩
    · rcases hshape with rfl | rfl | rfl <;> simp [Operation.Admits, isRegular]
    · rw [hnone]
      exact List.nil_sublist _
    · rw [hnone]
      rcases hshape with rfl | rfl | rfl <;> rfl
    · rcases hshape with rfl | rfl | rfl <;> rfl
    · intro c
      rcases hshape with rfl | rfl | rfl <;> exact Nat.le_refl c
  | prefetch =>
    exact ⟨[.direct], course_single .direct rfl (issued_map_none _) rfl rfl (by decide)
      (fun _ => rfl) rfl (by simp)⟩
  | finish =>
    exact ⟨[.finished], course_single .finished rfl (issued_map_none _) rfl rfl (by decide)
      (fun _ => rfl) rfl (by simp)⟩
  | drop =>
    exact ⟨[.dropped], course_single .dropped rfl rfl rfl rfl (by decide) (fun _ => rfl) rfl
      (by simp)⟩
  | put g m =>
    cases hp : b.poisoned with
    | true =>
      have hput : b.putStaged? g m = none := if_pos hp
      refine ⟨[], ?_, by simp, List.nil_sublist _, fun _ => rfl, rfl, fun c => Nat.le_refl c,
        by simp [operate]⟩
      simp only [operate, hput]
      exact .nil
    | false =>
      have hput : b.putStaged? g m =
          some { b with staged := some g, ready := b.ready || m } := by simp [putStaged?, hp]
      refine ⟨[.put g m], course_single ?_ ⟨rfl, hp⟩ rfl rfl rfl (by simp)
        (fun _ => rfl) rfl (by simp)⟩
      simp only [operate, hput]
      exact .put g m hp
  | mark =>
    exact ⟨[.marked], course_single .marked rfl rfl rfl rfl (by decide) (fun _ => rfl) rfl
      (by simp)⟩

end Buffer

end IdIssuer

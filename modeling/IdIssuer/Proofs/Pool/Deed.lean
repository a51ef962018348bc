import IdIssuer.Proofs.Buffer.Sound
import IdIssuer.Proofs.Pool.Played

/-!
# What is read off the deeds of a run

For each deed: the id that it issues, the segments that the store yields during it, the segment that
it stages by hand, the boundary with which it registers a tag, and the segments that a buffer begins
to serve in it. Each reader has one equation per outcome of a move.
-/

namespace IdIssuer

namespace Pool

namespace Deed

/-- The id that is handed out, and by which buffer. -/
def issue? (d : Deed) : Option Issue :=
  (d.move.operation? d.pool).bind fun (id, op) =>
    (d.pool.buffer? id).bind fun b => (b.operate d.pool.store op).outcome.issued.map (⟨id, ·⟩)

/-- The segment that gets into the slot of a buffer by hand. -/
def put? (d : Deed) : Option (BufferId × Segment) :=
  match d.move with
  | .operate id (.put g _) =>
    (d.pool.buffer? id).bind fun b => if b.poisoned then none else some (id, g)
  | _ => none

/-- The segments that the store yields for a tag, be it to a call or to a request. -/
def yields (d : Deed) (tag : String) : List Segment :=
  match d.move with
  | .request r =>
    match (d.pool.answer r).1 with
    | .ok (.segment g) => if r.tag = tag then [g] else []
    | _ => []
  | _ => (d.after.store.grants tag).drop (d.pool.store.grants tag).length

/-- The segments that the store yields for a tag to someone who is not a buffer. -/
def loans (d : Deed) (tag : String) : List Segment :=
  match d.move with
  | .request _ | .fetch _ => d.yields tag
  | _ => []

/-- The boundary with which a tag is registered. -/
def origin? (d : Deed) (tag : String) : Option UInt64 :=
  match d.move with
  | .request (.register t boundary step) =>
    match (d.pool.store.ledger.register t boundary step).1 with
    | .ok _ => if t = tag then some boundary else none
    | .error _ => none
  | _ => none

/-- The segments that a buffer begins to serve, in order. -/
def installs (d : Deed) (id : BufferId) : List Segment :=
  match d.pool.buffer? id, d.after.buffer? id with
  | none, some created => [created.current]
  | none, none => []
  | some b, _ =>
    match d.move.operation? d.pool with
    | some (id', op) => if id' = id then op.installs b d.pool.store else []
    | none => []

end Deed

/-- The ids among some issues that a buffer has handed out. -/
def idsBy (id : BufferId) (issues : List Issue) : List UInt64 :=
  issues.filterMap fun issue => if issue.buffer = id then some issue.id else none

/-- How often `next` was called on a buffer. -/
def calls (id : BufferId) (deeds : List Deed) : ℕ :=
  deeds.countP fun d => d.move.operation? d.pool = some (id, .next)

/-- The segments that the store yields for a tag to others than buffers. -/
def loans (tag : String) (deeds : List Deed) : List Segment := deeds.flatMap (·.loans tag)

/-- The segments that get into the slots of the buffers of a tag by hand. -/
def puts (tag : String) (deeds : List Deed) : List Segment :=
  deeds.filterMap fun d => d.put?.bind fun (id, g) => if id.tag = tag then some g else none

/-- The boundaries with which a tag is registered. -/
def origins (tag : String) (deeds : List Deed) : List UInt64 := deeds.filterMap (·.origin? tag)

/-- The segments that a buffer begins to serve, in order. -/
def installs (id : BufferId) (deeds : List Deed) : List Segment := deeds.flatMap (·.installs id)

variable {p : Pool} {move : Move} {id : BufferId} {op : Operation} {b : Buffer}

/-! ## Operations on a buffer -/

theorem issue?_of_operation (h : move.operation? p = some (id, op)) (hb : p.buffer? id = some b) :
    (⟨p, move⟩ : Deed).issue? = (b.operate p.store op).outcome.issued.map (⟨id, ·⟩) := by
  simp only [Deed.issue?, h, Option.bind_some, hb]

theorem issue?_of_missing (h : ∀ id op, move.operation? p = some (id, op) → p.buffer? id = none) :
    (⟨p, move⟩ : Deed).issue? = none := by
  unfold Deed.issue?
  cases hop : move.operation? p with
  | none => rfl
  | some found =>
    obtain ⟨id, op⟩ := found
    simp [h id op hop]

theorem idsBy_append (first second : List Issue) :
    idsBy id (first ++ second) = idsBy id first ++ idsBy id second := List.filterMap_append

/-- The ids of a buffer come from the moves that operate on it. -/
theorem idsBy_of_operation (h : move.operation? p = some (id, op))
    (hb : p.buffer? id = some b) :
    idsBy id (⟨p, move⟩ : Deed).issue?.toList = (b.operate p.store op).outcome.issued.toList := by
  rw [issue?_of_operation h hb]
  cases (b.operate p.store op).outcome.issued <;> simp [idsBy]

theorem issued_operate_of_ne {op : Operation} (h : op ≠ .next) (σ : Store) :
    (b.operate σ op).outcome.issued = none := by
  cases op with
  | next => exact absurd rfl h
  | check | prefetch | finish => exact Buffer.issued_map_none _
  | drop | put g m | mark => rfl

theorem idsBy_of_not_operated (h : ∀ op, move.operation? p = some (id, op) → p.buffer? id = none) :
    idsBy id (⟨p, move⟩ : Deed).issue?.toList = [] := by
  cases hi : (⟨p, move⟩ : Deed).issue? with
  | none => rfl
  | some issue =>
    obtain ⟨⟨id', op⟩, hop, hi⟩ := Option.bind_eq_some_iff.1 hi
    obtain ⟨b, hb, hi⟩ := Option.bind_eq_some_iff.1 hi
    obtain ⟨n, -, rfl⟩ := Option.map_eq_some_iff.1 hi
    have hne : id' ≠ id := by
      rintro rfl
      exact absurd (h op hop) (by simp [hb])
    simp [idsBy, hne]

theorem installs_of_operation {d : Deed} (h : d.move.operation? d.pool = some (id, op))
    (hb : d.pool.buffer? id = some b) : d.installs id = op.installs b d.pool.store := by
  simp only [Deed.installs, hb, h, if_true]

theorem installs_of_created {d : Deed} (hb : d.pool.buffer? id = none)
    (he : d.after.buffer? id = some b) : d.installs id = [b.current] := by
  simp only [Deed.installs, hb, he]

theorem installs_of_not_operated {d : Deed}
    (h : ∀ op, d.move.operation? d.pool = some (id, op) → d.pool.buffer? id = none)
    (he : d.after.buffer? id = d.pool.buffer? id) : d.installs id = [] := by
  unfold Deed.installs
  rw [he]
  cases hb : d.pool.buffer? id with
  | none => rfl
  | some b =>
    cases hop : d.move.operation? d.pool with
    | none => rfl
    | some found =>
      obtain ⟨id', op⟩ := found
      have hne : id' ≠ id := by
        rintro rfl
        rw [h op hop] at hb
        cases hb
      exact if_neg hne

theorem installs_append_single (id : BufferId) (past : List Deed) (d : Deed) :
    installs id (past ++ [d]) = installs id past ++ d.installs id := by
  simp [installs]

theorem calls_append_single (id : BufferId) (past : List Deed) (d : Deed) :
    calls id (past ++ [d]) =
      calls id past + if d.move.operation? d.pool = some (id, .next) then 1 else 0 := by
  simp [calls, List.countP_append, List.countP_singleton]

theorem calls_le {past deeds : List Deed} (h : past <+: deeds) (id : BufferId) :
    calls id past ≤ calls id deeds := h.sublist.countP_le

/-- A move that operates on a buffer makes no request to the store past the buffers. -/
theorem readers_of_operation (h : move.operation? p = some (id, op)) (tag : String) :
    (⟨p, move⟩ : Deed).loans tag = [] ∧ (⟨p, move⟩ : Deed).origin? tag = none := by
  cases move with
  | operate _ _ | finish | drop => exact ⟨rfl, rfl⟩
  | request _ | fetch _ | create _ _ _ | tell _ => cases h

theorem issues_append_single (past : List Deed) (d : Deed) :
    (past ++ [d]).filterMap Deed.issue? = past.filterMap Deed.issue? ++ d.issue?.toList := by
  rw [List.filterMap_append]
  cases h : d.issue? <;> simp [h]

theorem origins_append_single (tag : String) (past : List Deed) (d : Deed) :
    origins tag (past ++ [d]) = origins tag past ++ (d.origin? tag).toList := by
  rw [origins, List.filterMap_append, ← origins]
  cases h : d.origin? tag <;> simp [h]

theorem loans_append_single (tag : String) (past : List Deed) (d : Deed) :
    loans tag (past ++ [d]) = loans tag past ++ d.loans tag := by
  simp [loans]

theorem puts_append (tag : String) (first second : List Deed) :
    puts tag (first ++ second) = puts tag first ++ puts tag second := List.filterMap_append

/-- A request that lends a segment asks for one. -/
theorem mem_loans_request {r : Ledger.Request} {tag : String} {g : Segment}
    (h : g ∈ (⟨p, .request r⟩ : Deed).loans tag) :
    r = .fetch tag ∧ (p.store.ledger.fetch tag).1 = .ok g := by
  revert h
  cases r with
  | register t m step =>
    simp only [Deed.loans, Deed.yields, answer, Store.answer, Ledger.answer]
    cases (p.store.ledger.register t m step).1 <;> simp [Except.map]
  | setStep t step =>
    simp only [Deed.loans, Deed.yields, answer, Store.answer, Ledger.answer]
    cases (p.store.ledger.setStep t step).1 <;> simp [Except.map]
  | boundary t =>
    simp only [Deed.loans, Deed.yields, answer, Store.answer, Ledger.answer]
    cases p.store.ledger.boundary t <;> simp [Except.map]
  | fetch t =>
    simp only [Deed.loans, Deed.yields, answer, Store.answer, Ledger.answer, Ledger.Request.tag]
    cases hf : (p.store.ledger.fetch t).1 with
    | error e => simp [Except.map]
    | ok g' =>
      by_cases ht : t = tag
      · subst ht
        intro h
        have hg : g = g' := by simpa [Except.map] using h
        exact ⟨rfl, by rw [hg, hf]⟩
      · simp [Except.map, ht]

theorem put?_of_operation (h : move.operation? p = some (id, op)) (hb : p.buffer? id = some b) :
    (⟨p, move⟩ : Deed).put? =
      match op with
      | .put g _ => if b.poisoned then none else some (id, g)
      | _ => none := by
  cases move with
  | operate id' op' =>
    cases h
    cases op <;> simp [Deed.put?, hb]
  | finish | drop =>
    obtain ⟨head, -, h⟩ := Option.map_eq_some_iff.1 h
    cases h
    rfl
  | request _ | fetch _ | create _ _ _ | tell _ => cases h

theorem readers_of_call (p : Pool) (move : Move) (hc : move.isCall = true) :
    (⟨p, move⟩ : Deed).issue? = none ∧ (⟨p, move⟩ : Deed).put? = none := by
  cases move with
  | request _ | fetch _ | create _ _ _ => exact ⟨rfl, rfl⟩
  | operate _ _ | finish | drop | tell _ => cases hc

theorem readers_of_idle (hc : move.isCall = false)
    (h : ∀ id op, move.operation? p = some (id, op) → p.buffer? id = none) (tag : String) :
    (⟨p, move⟩ : Deed).issue? = none ∧ (⟨p, move⟩ : Deed).put? = none ∧
      (⟨p, move⟩ : Deed).loans tag = [] ∧ (⟨p, move⟩ : Deed).origin? tag = none := by
  refine ⟨issue?_of_missing h, ?_, ?_, ?_⟩
  · cases move with
    | operate id op => cases op <;> simp [Deed.put?, h id _ rfl]
    | _ => rfl
  · cases move with
    | request _ | fetch _ => cases hc
    | _ => rfl
  · cases move with
    | request _ => cases hc
    | _ => rfl

end Pool

end IdIssuer

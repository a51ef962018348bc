import IdIssuer.Proofs.Buffer.Operation
import IdIssuer.Proofs.Store.Reserved

/-!
# What is seen of the store

A ledger answers a request from the row of the tag that it names, and changes no other row. A store
whose script leaves every call to the ledger does the same. An operation on a buffer calls the store
once for the tag of the buffer or not at all, and depends on the store through the answer to that
call alone (`agrees_operate`), so that two stores with the same row for the tag cannot be told apart
by it.
-/

namespace IdIssuer

namespace Ledger

variable {l l' : Ledger} {tag : String}

theorem fetch_congr (h : l.rows.get? tag = l'.rows.get? tag) :
    (l.fetch tag).1 = (l'.fetch tag).1 ∧
      (l.fetch tag).2.rows.get? tag = (l'.fetch tag).2.rows.get? tag := by
  unfold fetch
  rw [h]
  cases hrow : l'.rows.get? tag with
  | none => exact ⟨rfl, h.trans rfl⟩
  | some row =>
    dsimp only
    cases row.next? with
    | none => exact ⟨rfl, h⟩
    | some boundary => exact ⟨rfl, by simp⟩

theorem answer_congr {r : Request} (h : l.rows.get? r.tag = l'.rows.get? r.tag) :
    (l.answer r).1 = (l'.answer r).1 ∧
      (l.answer r).2.rows.get? r.tag = (l'.answer r).2.rows.get? r.tag := by
  cases r with
  | register t m step =>
    simp only [Request.tag] at h
    simp only [answer, register, Request.tag, h]
    split_ifs
    · exact ⟨rfl, h⟩
    · exact ⟨rfl, h⟩
    · cases hrow : l'.rows.get? t with
      | some row => exact ⟨rfl, h⟩
      | none => exact ⟨rfl, by simp⟩
  | setStep t step =>
    simp only [Request.tag] at h
    simp only [answer, setStep, Request.tag, h]
    split_ifs
    · exact ⟨rfl, h⟩
    · cases hrow : l'.rows.get? t with
      | none => exact ⟨rfl, h⟩
      | some row => exact ⟨rfl, by simp⟩
  | boundary t =>
    simp only [Request.tag] at h
    simp only [answer, boundary, Request.tag, h, and_self]
  | fetch t =>
    obtain ⟨hresult, hrow⟩ := fetch_congr h
    exact ⟨congrArg (Except.map Response.segment) hresult, hrow⟩

theorem row_answer_of_ne (l : Ledger) {r : Request} (h : r.tag ≠ tag) :
    (l.answer r).2.rows.get? tag = l.rows.get? tag := by
  cases r with
  | register t m step =>
    have ht : t ≠ tag := h
    rcases l.register_cases t m step with ⟨e, he⟩ | ⟨-, -, -, hok⟩
    · simp only [answer, he]
    · simp [answer, hok, ht]
  | setStep t step =>
    have ht : t ≠ tag := h
    rcases l.setStep_cases t step with ⟨e, he⟩ | ⟨row, -, -, hok⟩
    · simp only [answer, he]
    · simp [answer, hok, ht]
  | boundary t => rfl
  | fetch t =>
    have ht : t ≠ tag := h
    rcases l.fetch_cases t with ⟨e, he⟩ | ⟨row, g, -, -, hok⟩
    · simp only [answer, he]
    · simp [answer, hok, ht]

end Ledger

namespace Store

variable {σ σ' : Store} {tag : String}

theorem fetch_congr (free : σ.script = .free) (free' : σ'.script = .free)
    (h : σ.ledger.rows.get? tag = σ'.ledger.rows.get? tag) :
    (σ.fetch tag).1 = (σ'.fetch tag).1 ∧
      (σ.fetch tag).2.ledger.rows.get? tag = (σ'.fetch tag).2.ledger.rows.get? tag := by
  obtain ⟨hresult, hrow⟩ := Ledger.fetch_congr h
  have hconsult : (consult σ.ledger tag).1 = (consult σ'.ledger tag).1 ∧
      (consult σ.ledger tag).2.rows.get? tag = (consult σ'.ledger tag).2.rows.get? tag := by
    unfold consult
    generalize σ.ledger.fetch tag = fetched at hresult hrow
    generalize σ'.ledger.fetch tag = fetched' at hresult hrow
    obtain ⟨result, ledger⟩ := fetched
    obtain ⟨result', ledger'⟩ := fetched'
    cases hresult
    cases result <;> exact ⟨rfl, hrow⟩
  unfold fetch
  rw [free, free']
  exact hconsult

end Store

namespace Buffer

/-- Two turns of a buffer over two stores differ in the stores alone, which were both called once
for the tag, or both not at all. -/
structure Agrees {α : Type} (tag : String) (σ σ' : Store) (turn turn' : Turn α) : Prop where
  outcome : turn.outcome = turn'.outcome
  buffer : turn.buffer = turn'.buffer
  events : turn.events = turn'.events
  queued : turn.queued = turn'.queued
  store : turn.store = σ ∧ turn'.store = σ' ∨
    turn.store = (σ.fetch tag).2 ∧ turn'.store = (σ'.fetch tag).2

variable {b : Buffer} {σ σ' : Store}

theorem Agrees.map {α β : Type} {tag : String} {turn turn' : Turn α}
    (h : Agrees tag σ σ' turn turn') (f : α → β) :
    Agrees tag σ σ' { turn with outcome := turn.outcome.map f }
      { turn' with outcome := turn'.outcome.map f } :=
  ⟨congrArg (Outcome.map f) h.outcome, h.buffer, h.events, h.queued, h.store⟩

theorem agrees_prefetch (h : (σ.fetch b.tag).1 = (σ'.fetch b.tag).1) :
    Agrees b.tag σ σ' (b.prefetch σ) (b.prefetch σ') := by
  refine ⟨?_, ?_, ?_, rfl, .inr ⟨rfl, rfl⟩⟩ <;> simp only [prefetch, h]

theorem agrees_finishPrefetch (h : (σ.fetch b.tag).1 = (σ'.fetch b.tag).1) :
    Agrees b.tag σ σ' (b.finishPrefetch σ) (b.finishPrefetch σ') := by
  have hrun := agrees_prefetch h
  exact ⟨hrun.outcome, congrArg (fun b : Buffer => { b with loading := false }) hrun.buffer,
    hrun.events, rfl, hrun.store⟩

theorem agrees_check (h : (σ.fetch b.tag).1 = (σ'.fetch b.tag).1) :
    Agrees b.tag σ σ' (b.check σ) (b.check σ') := by
  have hrun := agrees_finishPrefetch (b := { b with loading := true }) h
  unfold check startPrefetch
  split_ifs
  · cases hs : b.spawner with
    | inline =>
      rw [hs] at hrun
      exact ⟨hrun.outcome, hrun.buffer, congrArg (List.cons _) hrun.events, rfl, hrun.store⟩
    | detached =>
      rw [hs] at hrun
      exact ⟨rfl, hrun.buffer, congrArg (List.cons _) hrun.events, rfl, hrun.store⟩
    | dropping | queueing => exact ⟨rfl, rfl, rfl, rfl, .inl ⟨rfl, rfl⟩⟩
  · exact ⟨rfl, rfl, rfl, rfl, .inl ⟨rfl, rfl⟩⟩

theorem agrees_nextWaiting (h : (σ.fetch b.tag).1 = (σ'.fetch b.tag).1) :
    Agrees b.tag σ σ' (b.nextWaiting σ) (b.nextWaiting σ') := by
  unfold nextWaiting
  split_ifs
  · exact ⟨rfl, rfl, rfl, rfl, .inl ⟨rfl, rfl⟩⟩
  · obtain ⟨current, staged, ready, hb⟩ := b.claim.2.promote_frame
    have htag : b.claim.2.promote.2.1.tag = b.tag := by
      rw [hb]
      rfl
    rw [show b.claim = (b.claim.1, b.claim.2) from rfl]
    cases b.claim.1 with
    | some id => exact ⟨rfl, rfl, rfl, rfl, .inl ⟨rfl, rfl⟩⟩
    | none =>
      dsimp only
      generalize b.claim.2.promote = promoted at htag ⊢
      obtain ⟨id?, b₂, events⟩ := promoted
      cases id? with
      | some id => exact ⟨rfl, rfl, rfl, rfl, .inl ⟨rfl, rfl⟩⟩
      | none =>
        dsimp only at htag ⊢
        rw [htag, h]
        exact ⟨rfl, rfl, rfl, rfl, .inr ⟨rfl, rfl⟩⟩

theorem agrees_next (h : (σ.fetch b.tag).1 = (σ'.fetch b.tag).1) :
    Agrees b.tag σ σ' (b.next σ) (b.next σ') := by
  unfold next
  rw [show b.claim = (b.claim.1, b.claim.2) from rfl]
  cases b.claim.1 with
  | some id => exact (agrees_check (b := b.claim.2) h).map fun _ => id
  | none => exact agrees_nextWaiting (b := b.claim.2) h

theorem agrees_operate (h : (σ.fetch b.tag).1 = (σ'.fetch b.tag).1) (op : Operation) :
    Agrees b.tag σ σ' (b.operate σ op) (b.operate σ' op) := by
  cases op with
  | next => exact (agrees_next h).map some
  | check => exact (agrees_check h).map fun _ => none
  | prefetch => exact (agrees_prefetch h).map fun _ => none
  | finish => exact (agrees_finishPrefetch h).map fun _ => none
  | drop | put _ _ | mark => exact ⟨rfl, rfl, rfl, rfl, .inl ⟨rfl, rfl⟩⟩

theorem create_agrees {tag : String} (h : (σ.fetch tag).1 = (σ'.fetch tag).1) (config : Config)
    (spawner : Spawner) :
    (create tag config spawner σ).1 = (create tag config spawner σ').1 ∧
      (create tag config spawner σ).2.1 = (σ.fetch tag).2 := by
  unfold create
  generalize σ.fetch tag = fetched at h ⊢
  generalize σ'.fetch tag = fetched' at h
  obtain ⟨answer, τ⟩ := fetched
  obtain ⟨answer', τ'⟩ := fetched'
  cases h
  cases answer with
  | panicked _ | failed _ => exact ⟨rfl, rfl⟩
  | segment g =>
    dsimp only
    split_ifs <;> exact ⟨rfl, rfl⟩

end Buffer

end IdIssuer

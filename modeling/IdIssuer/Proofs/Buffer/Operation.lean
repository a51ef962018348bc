import IdIssuer.Buffer.Turn
import IdIssuer.Proofs.Store.Grants

/-!
# Operations on one buffer

Everything that is done to a buffer once it exists is an `Operation`, and `operate` carries it out.
The equations below say how `next` goes on, depending on whether the current segment lasts.
-/

namespace IdIssuer

/-- What is done to a buffer that exists. -/
inductive Operation where
  | next
  | check
  | prefetch
  /-- Run a prefetch that was started earlier. -/
  | finish
  /-- Give up a prefetch that was started earlier. -/
  | drop
  /-- Put a segment into the slot by hand, and say so if `mark` holds. -/
  | put (segment : Segment) (mark : Bool)
  /-- Say that the slot is filled. -/
  | mark
deriving DecidableEq

/-- The id that an operation hands out, if it comes to that. -/
def Outcome.issued : Outcome (Option UInt64) → Option UInt64
  | .done id => id
  | .failed _ | .panicked _ => none

namespace Buffer

variable {b : Buffer} {σ : Store}

/-- Carries out an operation. -/
def operate (b : Buffer) (store : Store) : Operation → Turn (Option UInt64)
  | .next =>
    let turn := b.next store
    { turn with outcome := turn.outcome.map some }
  | .check =>
    let turn := b.check store
    { turn with outcome := turn.outcome.map fun _ => none }
  | .prefetch =>
    let turn := b.prefetch store
    { turn with outcome := turn.outcome.map fun _ => none }
  | .finish =>
    let turn := b.finishPrefetch store
    { turn with outcome := turn.outcome.map fun _ => none }
  | .drop =>
    { outcome := .done none, buffer := b.dropPrefetch, store, events := [], queued := false }
  | .put segment mark =>
    { outcome := .done none, buffer := (b.putStaged? segment mark).getD b, store, events := [],
      queued := false }
  | .mark => { outcome := .done none, buffer := b.markReady, store, events := [], queued := false }

/-! ## What a prefetch does -/

/-- A prefetch fills the free slot with a valid segment, or changes nothing: the store yielded no
valid segment, nobody gets the lock, or the slot was taken. -/
theorem receive_cases (b : Buffer) (answer : Answer) :
    ((b.receive answer).1 = b ∧
      ((∀ g, answer = .segment g → g.isValid = false) ∨ b.poisoned = true ∨ b.staged.isSome)) ∨
    ∃ g, answer = .segment g ∧ g.isValid = true ∧ b.poisoned = false ∧ b.staged = none ∧
      (b.receive answer).1 = { b with staged := some g, ready := true } := by
  cases answer with
  | panicked call => exact .inl ⟨rfl, .inl (by simp)⟩
  | failed error => exact .inl ⟨rfl, .inl (by simp)⟩
  | segment g =>
    cases hv : g.isValid with
    | false =>
      refine .inl ⟨by simp [receive, hv], .inl fun g' h => ?_⟩
      cases h
      exact hv
    | true =>
      cases hp : b.poisoned with
      | true => exact .inl ⟨by simp [receive, hv, hp], .inr (.inl rfl)⟩
      | false =>
        cases hs : b.staged with
        | some old => exact .inl ⟨by simp [receive, hv, hp, hs], .inr (.inr rfl)⟩
        | none => exact .inr ⟨g, rfl, hv, rfl, rfl, by simp [receive, hv, hp, hs]⟩

theorem current_receive (b : Buffer) (answer : Answer) :
    (b.receive answer).1.current = b.current := by
  rcases b.receive_cases answer with ⟨h, -⟩ | ⟨g, -, -, -, -, h⟩ <;> rw [h]

theorem tag_receive (b : Buffer) (answer : Answer) : (b.receive answer).1.tag = b.tag := by
  rcases b.receive_cases answer with ⟨h, -⟩ | ⟨g, -, -, -, -, h⟩ <;> rw [h]

/-- A prefetch looks at neither side of the flag that says it is under way. -/
theorem receive_loading (b : Buffer) (answer : Answer) (x : Bool) :
    ({ b with loading := x }.receive answer).1 = { (b.receive answer).1 with loading := x } := by
  obtain ⟨_, _, _, _, staged, _, _, poisoned⟩ := b
  cases answer with
  | panicked call => rfl
  | failed error => rfl
  | segment g =>
    unfold receive
    dsimp only
    split_ifs
    · rfl
    · cases staged <;> rfl
    · rfl

theorem flags_of_wantsPrefetch (h : b.wantsPrefetch = true) :
    b.ready = false ∧ b.loading = false := by
  obtain ⟨hready, hloading, -⟩ := b.wantsPrefetch_iff.1 h
  exact ⟨hready, hloading⟩

/-! ## What an operation leaves alone -/

/-- The buffer is still for the same tag, the store was called for that tag once or not at all, and
the operation does not panic unless the store does. -/
structure Keeps {α : Type} (b : Buffer) (σ : Store) (turn : Turn α) : Prop where
  tag : turn.buffer.tag = b.tag
  store : σ.Calls b.tag turn.store
  calm : (∀ call, (σ.fetch b.tag).1 ≠ .panicked call) → ∀ call, turn.outcome ≠ .panicked call

theorem Keeps.map {α β : Type} {turn : Turn α} (h : b.Keeps σ turn) (f : α → β) :
    b.Keeps σ { turn with outcome := turn.outcome.map f } := by
  refine ⟨h.tag, h.store, fun hcalm call => ?_⟩
  have hturn := h.calm hcalm
  cases ho : turn.outcome with
  | panicked call' => exact absurd ho (hturn call')
  | done _ | failed _ => simp [Outcome.map]

theorem keeps_prefetch (b : Buffer) (σ : Store) : b.Keeps σ (b.prefetch σ) := by
  refine ⟨b.tag_receive _, .inr rfl, fun hcalm call => ?_⟩
  simp only [prefetch]
  cases ha : (σ.fetch b.tag).1 with
  | panicked call' => exact absurd ha (hcalm call')
  | segment _ | failed _ => simp

theorem keeps_finishPrefetch (b : Buffer) (σ : Store) : b.Keeps σ (b.finishPrefetch σ) := by
  have h := b.keeps_prefetch σ
  exact ⟨h.tag, h.store, h.calm⟩

theorem keeps_check (b : Buffer) (σ : Store) : b.Keeps σ (b.check σ) := by
  have h := keeps_finishPrefetch { b with loading := true } σ
  unfold check startPrefetch
  split_ifs
  · cases hs : b.spawner with
    | inline =>
      rw [hs] at h
      exact ⟨h.tag, h.store, h.calm⟩
    | detached =>
      rw [hs] at h
      exact ⟨h.tag, h.store, fun _ _ => by simp⟩
    | dropping | queueing => exact ⟨rfl, .inl rfl, fun _ _ => by simp⟩
  · exact ⟨rfl, .inl rfl, fun _ _ => by simp⟩

/-- A promotion touches the current segment and the slot. -/
theorem promote_frame (b : Buffer) :
    ∃ current staged ready, b.promote.2.1 = { b with current, staged, ready } := by
  unfold promote
  split_ifs
  · cases b.staged with
    | none => exact ⟨_, _, _, rfl⟩
    | some g =>
      dsimp only
      split_ifs <;> exact ⟨_, _, _, rfl⟩
  · exact ⟨_, _, _, rfl⟩

/-- What a caller who waited does with the answer touches the current segment, the slot and the
lock, and panics only with the store. -/
theorem refill_frame (b : Buffer) (answer : Answer) :
    (∃ current staged ready poisoned,
      (b.refill answer).2 = { b with current, staged, ready, poisoned }) ∧
      ((∀ call, answer ≠ .panicked call) → ∀ call, (b.refill answer).1 ≠ .panicked call) := by
  cases answer with
  | panicked call => exact ⟨⟨_, _, _, _, rfl⟩, fun hcalm => absurd rfl (hcalm call)⟩
  | failed error => exact ⟨⟨_, _, _, _, rfl⟩, fun _ _ => by simp [refill]⟩
  | segment g =>
    unfold refill
    dsimp only
    split_ifs
    · unfold serve claim
      cases g.advance.1 <;> exact ⟨⟨_, _, _, _, rfl⟩, fun _ _ => by simp⟩
    · exact ⟨⟨_, _, _, _, rfl⟩, fun _ _ => by simp⟩

/-- A caller who waits touches the same, calls the store once or not at all, and leaves no prefetch
to be run later. -/
theorem nextWaiting_frame (b : Buffer) (σ : Store) :
    (∃ current staged ready poisoned,
      (b.nextWaiting σ).buffer = { b with current, staged, ready, poisoned }) ∧
      (b.nextWaiting σ).queued = false ∧ σ.Calls b.tag (b.nextWaiting σ).store ∧
      ((∀ call, (σ.fetch b.tag).1 ≠ .panicked call) →
        ∀ call, (b.nextWaiting σ).outcome ≠ .panicked call) := by
  unfold nextWaiting
  split_ifs
  · exact ⟨⟨_, _, _, _, rfl⟩, rfl, .inl rfl, fun _ _ => by simp⟩
  · obtain ⟨id?, b₁, hclaim, current₁, hb₁⟩ :
        ∃ id? b₁, b.claim = (id?, b₁) ∧ ∃ current, b₁ = { b with current } := ⟨_, _, rfl, _, rfl⟩
    rw [hclaim]
    cases id? with
    | some id => exact ⟨⟨_, _, _, _, hb₁⟩, rfl, .inl rfl, fun _ _ => by simp⟩
    | none =>
      obtain ⟨current₂, staged₂, ready₂, hb₂⟩ := b₁.promote_frame
      generalize hp : b₁.promote = promoted at hb₂
      obtain ⟨id?, b₂, events⟩ := promoted
      simp only [hp]
      have hframe : b₂ = { b with current := current₂, staged := staged₂, ready := ready₂ } :=
        hb₂.trans (by rw [hb₁])
      cases id? with
      | some id => exact ⟨⟨_, _, _, _, hframe⟩, rfl, .inl rfl, fun _ _ => by simp⟩
      | none =>
        have ht : b₂.tag = b.tag := by rw [hframe]
        obtain ⟨⟨current, staged, ready, poisoned, hb⟩, hcalm⟩ :=
          refill_frame b₂ (σ.fetch b₂.tag).1
        exact ⟨⟨current, staged, ready, poisoned, hb.trans (by rw [hframe])⟩, rfl,
          .inr (by rw [← ht]), fun h => hcalm (by rwa [ht])⟩

theorem keeps_nextWaiting (b : Buffer) (σ : Store) : b.Keeps σ (b.nextWaiting σ) := by
  obtain ⟨⟨_, _, _, _, hb⟩, -, hstore, hcalm⟩ := b.nextWaiting_frame σ
  exact ⟨by rw [hb], hstore, hcalm⟩

theorem keeps_next (b : Buffer) (σ : Store) : b.Keeps σ (b.next σ) := by
  unfold next
  rw [show b.claim = (b.claim.1, b.claim.2) from rfl]
  cases b.claim.1 with
  | some id =>
    have h := (keeps_check b.claim.2 σ).map fun _ => id
    exact ⟨h.tag, h.store, h.calm⟩
  | none =>
    have h := keeps_nextWaiting b.claim.2 σ
    exact ⟨h.tag, h.store, h.calm⟩

theorem keeps_operate (b : Buffer) (σ : Store) (op : Operation) : b.Keeps σ (b.operate σ op) := by
  cases op with
  | next => exact (b.keeps_next σ).map _
  | check => exact (b.keeps_check σ).map _
  | prefetch => exact (b.keeps_prefetch σ).map _
  | finish => exact (b.keeps_finishPrefetch σ).map _
  | drop | mark => exact ⟨rfl, .inl rfl, fun _ _ => by simp [operate]⟩
  | put g m =>
    refine ⟨?_, .inl rfl, fun _ _ => by simp [operate]⟩
    simp only [operate, putStaged?]
    split_ifs <;> rfl

/-! ## Claims -/

theorem claim_of_lt (h : b.current.cursor < b.current.max) :
    b.claim = (some (b.current.cursor + 1), b.claim.2) := by
  rw [claim, Segment.advance_of_lt h]

theorem claim_of_le (h : b.current.max ≤ b.current.cursor) : b.claim = (none, b.claim.2) := by
  rw [claim, Segment.advance_of_le h]

/-- A claim that fails leaves the segment exhausted, unless the cursor wraps. -/
theorem max_le_cursor_claim (h : b.current.max ≤ b.current.cursor)
    (hw : b.current.cursor.toNat + 1 < 2 ^ 64) :
    b.claim.2.current.max ≤ b.claim.2.current.cursor := by
  rw [UInt64.le_iff_toNat_le] at h ⊢
  rw [claim, Segment.max_advance, Segment.cursor_advance, Segment.toNat_cursor_succ hw]
  omega

/-! ## How `next` goes on -/

/-- As long as the current segment lasts, an id comes from it. -/
theorem next_of_lt (h : b.current.cursor < b.current.max) :
    b.next σ = { b.claim.2.check σ with
      outcome := (b.claim.2.check σ).outcome.map fun _ => b.current.cursor + 1 } := by
  unfold next
  rw [claim_of_lt h]

/-- What a caller who holds the lock does once the current segment is exhausted. -/
def renew (b : Buffer) (store : Store) : Turn UInt64 :=
  match b.promote with
  | (some id, b, events) => { outcome := .done id, buffer := b, store, events, queued := false }
  | (none, b, events) =>
    { outcome := (b.refill (store.fetch b.tag).1).1, buffer := (b.refill (store.fetch b.tag).1).2,
      store := (store.fetch b.tag).2, events := events ++ [.fallback], queued := false }

theorem next_of_poisoned (h : b.current.max ≤ b.current.cursor) (hp : b.poisoned = true) :
    b.next σ = ⟨.failed .lockPoisoned, b.claim.2, σ, [], false⟩ := by
  unfold next
  rw [claim_of_le h]
  exact if_pos hp

/-- After that, the caller tries once more under the lock, and then renews the segment. -/
theorem next_of_le (h : b.current.max ≤ b.current.cursor)
    (hw : b.current.cursor.toNat + 1 < 2 ^ 64) (hp : b.poisoned = false) :
    b.next σ = b.claim.2.claim.2.renew σ := by
  have hp' : b.claim.2.poisoned = false := hp
  unfold next
  rw [claim_of_le h]
  dsimp only
  unfold nextWaiting
  rw [claim_of_le (max_le_cursor_claim h hw), hp']
  rfl

end Buffer

end IdIssuer

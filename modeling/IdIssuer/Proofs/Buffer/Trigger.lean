import IdIssuer.Proofs.Buffer.Flight
import IdIssuer.Proofs.Buffer.Poison

/-!
# When a prefetch is started

A buffer that hands out an id from the segment that it has been serving looks whether a prefetch is
due, and starts one just then (`starts_next`). If the id comes from a segment that has only now
taken over, be it the staged one or one that the caller waited for, the buffer does not look, even
if the low-water mark is reached with that id. So a prefetch that ends at once leaves a segment in
the slot, or more ids than the mark asks for, after every call but those that begin with nothing
left (`stocked_next`).
-/

namespace IdIssuer

/-- The event tells that a prefetch was started, which the spawner runs, keeps or drops. -/
def Event.isStart : Event → Bool
  | prefetchStarted .. => true
  | _ => false

/-- How many prefetches were started. -/
def Turn.started {α : Type} (turn : Turn α) : ℕ := turn.events.countP (·.isStart)

/-- The store has yielded a valid segment. -/
def Answer.isValid : Answer → Bool
  | segment g => g.isValid
  | failed _ | panicked _ => false

namespace Buffer

variable {b : Buffer} {σ : Store}

/-! ## Prefetches that are started -/

theorem started_receive (b : Buffer) (answer : Answer) :
    (b.receive answer).2.countP (·.isStart) = 0 := by
  cases answer with
  | panicked _ | failed _ => rfl
  | segment g =>
    unfold receive
    dsimp only
    split_ifs
    · rfl
    · cases b.staged <;> rfl
    · rfl

theorem started_finishPrefetch (b : Buffer) (σ : Store) : (b.finishPrefetch σ).started = 0 :=
  b.started_receive _

theorem started_startPrefetch (b : Buffer) (σ : Store) : (b.startPrefetch σ).started = 1 := by
  unfold Turn.started startPrefetch
  cases b.spawner with
  | inline | detached =>
    rw [List.countP_cons_of_pos rfl]
    exact congrArg (· + 1) (started_finishPrefetch _ σ)
  | dropping | queueing => rfl

theorem started_check (b : Buffer) (σ : Store) :
    (b.check σ).started = b.wantsPrefetch.toNat := by
  unfold check
  cases hw : b.wantsPrefetch with
  | true =>
    rw [if_pos rfl]
    exact b.started_startPrefetch σ
  | false => rfl

theorem started_promote (b : Buffer) : b.promote.2.2.countP (·.isStart) = 0 := by
  unfold promote
  split_ifs
  · cases b.staged with
    | none => rfl
    | some g =>
      dsimp only
      split_ifs <;> rfl
  · rfl

/-- Whoever waits for the lock starts no prefetch, whichever segment the id comes from. -/
theorem started_nextWaiting (b : Buffer) (σ : Store) : (b.nextWaiting σ).started = 0 := by
  unfold Turn.started nextWaiting
  split_ifs
  · rfl
  · generalize b.claim = claimed
    obtain ⟨id?, b₁⟩ := claimed
    cases id? with
    | some id => rfl
    | none =>
      have hpromote := b₁.started_promote
      dsimp only
      generalize b₁.promote = promoted at hpromote
      obtain ⟨id?, b₂, events⟩ := promoted
      cases id? with
      | some id => exact hpromote
      | none =>
        rw [List.countP_append]
        show events.countP _ + 0 = 0
        exact hpromote

/-- The buffer as it is right after `next` has claimed an id: on the first try, or at the end of a
call that has waited. -/
def claimed (b : Buffer) (store : Store) : Buffer :=
  if b.current.cursor < b.current.max then b.claim.2 else (b.next store).buffer

/-- A call starts a prefetch just if its first try to claim an id succeeds, and a prefetch is due
then. -/
theorem started_next (b : Buffer) (σ : Store) :
    (b.next σ).started =
      if b.current.cursor < b.current.max ∧ (b.claimed σ).wantsPrefetch = true then 1 else 0 := by
  rcases UInt64.lt_or_le b.current.cursor b.current.max with hlt | hle
  · have hstarted := b.claim.2.started_check σ
    rw [next_of_lt hlt, claimed, if_pos hlt]
    show (b.claim.2.check σ).started = _
    rw [hstarted]
    cases b.claim.2.wantsPrefetch <;> simp [hlt]
  · have hlt : ¬ b.current.cursor < b.current.max := UInt64.not_lt.2 hle
    rw [if_neg fun h => hlt h.1]
    unfold next
    rw [claim_of_le hle]
    exact b.claim.2.started_nextWaiting σ

/-! ## Prefetches that end at once -/

/-- A segment is staged, or more ids are left than the low-water mark asks for. -/
def IsStocked (b : Buffer) : Prop :=
  b.staged.isSome = true ∨ b.config.threshold b.current.step < b.current.remaining

instance : DecidablePred IsStocked := fun b =>
  inferInstanceAs (Decidable (b.staged.isSome = true ∨ _ < b.current.remaining))

/-- Nobody has panicked under the lock, the slot is said to be filled if it is, and a prefetch is
under way only if it waits in a queue. -/
structure IsSteady (b : Buffer) : Prop where
  usable : b.poisoned = false
  flagged : b.IsFlagged
  idle : b.spawner ≠ .queueing → b.loading = false

theorem isSteady_new (tag : String) (config : Config) (spawner : Spawner) (g : Segment) :
    (Buffer.new tag config spawner g).IsSteady := ⟨rfl, rfl, fun _ => rfl⟩

/-- A buffer stays so as long as nobody handles its slot and the store does not panic. -/
theorem IsSteady.operate (h : b.IsSteady) {op : Operation} (hop : op.handles = false)
    (calm : ∀ call, (b.operate σ op).store.history ≠ ⟨b.tag, .panicked call⟩ :: σ.history) :
    (b.operate σ op).buffer.IsSteady := by
  obtain ⟨hspawner, hposts⟩ := b.posts_operate σ op
  refine ⟨?_, h.flagged.operate hop, fun hne => ?_⟩
  · rw [← Bool.not_eq_true, b.poisoned_operate σ op]
    rintro (hp | ⟨rfl, hunwinds⟩)
    · exact absurd hp (Bool.eq_false_iff.1 h.usable)
    · obtain ⟨call, hcall⟩ := hunwinds.history
      exact calm call hcall
  · rw [hspawner] at hne
    by_cases hends : op = .finish ∨ op = .drop
    · exact (b.ends_operate σ hends).1
    · have hstarts := b.starts_operate σ (fun he => hends (.inl he)) fun he => hends (.inr he)
      have hqueued : (b.operate σ op).queued = false :=
        Bool.eq_false_iff.2 fun hq => hne (hposts hq)
      unfold Starts at hstarts
      rw [h.idle hne, hqueued] at hstarts
      exact Bool.toNat_eq_zero.1 hstarts

theorem staged_receive {answer : Answer} (usable : b.poisoned = false)
    (valid : answer.isValid = true) (bare : b.staged = none) :
    (b.receive answer).1.staged.isSome = true := by
  cases answer with
  | segment g =>
    have hv : g.isValid = true := valid
    simp [receive, hv, usable, bare]
  | failed _ | panicked _ => cases valid

/-- A prefetch that runs inside the call, or by itself, has ended with it. -/
theorem startPrefetch_of_prompt (hs : b.spawner = .inline ∨ b.spawner = .detached) :
    (b.startPrefetch σ).store = (σ.fetch b.tag).2 ∧
      (b.startPrefetch σ).buffer =
        { (b.receive (σ.fetch b.tag).1).1 with loading := false } := by
  have hrun : ({ b with loading := true }.finishPrefetch σ).buffer =
      { (b.receive (σ.fetch b.tag).1).1 with loading := false } := by
    simp only [finishPrefetch, prefetch, receive_loading]
  unfold startPrefetch
  rcases hs with hs | hs <;> rw [hs] at hrun ⊢ <;> exact ⟨rfl, hrun⟩

/-- With such prefetches and a store that yields valid segments, the buffer is stocked after a call
that did not begin with nothing left. -/
theorem stocked_next (h : b.IsSteady) (hs : b.spawner = .inline ∨ b.spawner = .detached)
    (hlt : b.current.cursor < b.current.max)
    (valid : ∀ answer, (b.next σ).store.history = ⟨b.tag, answer⟩ :: σ.history →
      answer.isValid = true) :
    (b.next σ).buffer.IsStocked := by
  rw [next_of_lt hlt] at valid ⊢
  dsimp only at valid ⊢
  unfold check at valid ⊢
  cases hw : b.claim.2.wantsPrefetch with
  | true =>
    obtain ⟨hstore, hbuffer⟩ := startPrefetch_of_prompt (b := b.claim.2) (σ := σ) hs
    rw [hw, if_pos rfl, hstore] at valid
    rw [if_pos rfl, hbuffer]
    have hfilled := staged_receive (b := b.claim.2) h.usable (valid _ (σ.history_fetch b.tag))
    have hready : b.ready = false := (flags_of_wantsPrefetch hw).1
    have hbare : b.staged = none := by
      rw [h.flagged] at hready
      simpa using hready
    exact .inl (hfilled hbare)
  | false =>
    have hidle : b.loading = false := h.idle (by rcases hs with hs | hs <;> simp [hs])
    rw [if_neg Bool.false_ne_true]
    by_cases hst : b.staged.isSome = true
    · exact .inl hst
    · have hready : b.claim.2.ready = false := h.flagged.trans (Bool.eq_false_iff.2 hst)
      have hloading : b.claim.2.loading = false := hidle
      -- of the three things that make a prefetch due, only the low-water mark can be missing
      refine .inr (UInt64.not_le.1 fun hlow => Bool.eq_false_iff.1 hw ?_)
      exact b.claim.2.wantsPrefetch_iff.2 ⟨hready, hloading, hlow⟩

end Buffer

end IdIssuer

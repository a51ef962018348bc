import IdIssuer.Proofs.Buffer.Failure

/-!
# Buffers whose lock is poisoned

The lock of a buffer is poisoned by a call of `next` that waits for the store and panics there
(`Unwinds`), and by nothing else (`poisoned_operate`). That call has found nothing left to claim,
and leaves nothing either (`Unwinds.isRuined`), so that no later call gets past the lock, and what
the buffer serves and stages never changes again (`IsRuined.operate`). A prefetch holds no lock
while it waits: if the store panics in it, the buffer is as if the prefetch had been dropped unrun
(`operate_of_panicked`).
-/

namespace IdIssuer

namespace Store

/-- A call in which the store panics leaves the ledger as it is. -/
theorem ledger_of_panicked {s : Store} {tag : String} {call : ℕ}
    (h : (s.fetch tag).1 = .panicked call) : (s.fetch tag).2.ledger = s.ledger := by
  unfold fetch at h ⊢
  cases hact : s.script (s.calls + 1) with
  | some act => rfl
  | none =>
    rw [hact] at h
    simp only [consult] at h ⊢
    rcases s.ledger.fetch_cases tag with ⟨e, he⟩ | ⟨row, g, -, -, hg⟩
    · rw [he]
    · rw [hg] at h
      cases h

/-- If the last call in the history panicked, the store has been called just then. -/
theorem Calls.of_history {s s' : Store} {tag : String} {call : ℕ} (h : s.Calls tag s')
    (hcall : s'.history = ⟨tag, .panicked call⟩ :: s.history) :
    s' ≠ s ∧ (s.fetch tag).1 = .panicked call ∧ s'.ledger = s.ledger := by
  have ha : (s.fetch tag).1 = .panicked call := h.answer hcall
  have hne : s' ≠ s := by
    rintro rfl
    exact absurd hcall (List.cons_ne_self _ _).symm
  refine ⟨hne, ha, ?_⟩
  rw [h.resolve_left hne]
  exact ledger_of_panicked ha

end Store

namespace Buffer

variable {b b' b'' : Buffer} {σ : Store} {op : Operation}

/-- Asking for an id ends in a panic of the store while the caller waits for it. -/
def Unwinds (b : Buffer) (σ : Store) : Prop :=
  .fallback ∈ (b.next σ).events ∧ ∃ call, (b.next σ).outcome = .panicked call

/-! ## What poisons the lock -/

theorem poisoned_receive (b : Buffer) (answer : Answer) :
    (b.receive answer).1.poisoned = b.poisoned := by
  rcases b.receive_cases answer with ⟨h, -⟩ | ⟨g, -, -, -, -, h⟩ <;> rw [h]

theorem fallback_not_mem_receive (b : Buffer) (answer : Answer) :
    .fallback ∉ (b.receive answer).2 := by
  cases answer with
  | panicked _ | failed _ => simp [receive]
  | segment g =>
    unfold receive
    dsimp only
    split_ifs
    · simp
    · cases b.staged <;> simp
    · simp

/-- Seeing whether a prefetch is due leaves the buffer as it is, or does with the store's answer
what a prefetch does, or says that a prefetch is under way. -/
theorem check_cases (b : Buffer) (σ : Store) :
    ((b.check σ).buffer = b ∧ (b.check σ).store = σ) ∨
    ((b.check σ).buffer = (b.receive (σ.fetch b.tag).1).1 ∧
      (b.check σ).store = (σ.fetch b.tag).2) ∨
    ((b.check σ).buffer = { b with loading := true } ∧ (b.check σ).store = σ) := by
  obtain ⟨notes, hc, hshape, -⟩ := changes_check b σ
  generalize (b.check σ).buffer = after at hc ⊢
  generalize (b.check σ).store = σ' at hc ⊢
  rcases hshape with rfl | rfl | rfl
  · cases hc
    exact .inl ⟨rfl, rfl⟩
  · cases hc with
    | cons hhead hrest =>
      cases hhead
      cases hrest
      exact .inr (.inl ⟨rfl, rfl⟩)
  · cases hc with
    | cons hhead hrest =>
      cases hhead
      cases hrest
      exact .inr (.inr ⟨rfl, rfl⟩)

theorem poisoned_check (b : Buffer) (σ : Store) : (b.check σ).buffer.poisoned = b.poisoned := by
  rcases b.check_cases σ with ⟨h, -⟩ | ⟨h, -⟩ | ⟨h, -⟩ <;> rw [h]
  exact b.poisoned_receive _

theorem fallback_not_mem_check (b : Buffer) (σ : Store) : .fallback ∉ (b.check σ).events := by
  have hrun (b' : Buffer) : .fallback ∉ (b'.finishPrefetch σ).events :=
    fallback_not_mem_receive b' _
  unfold check startPrefetch
  split_ifs
  · cases b.spawner with
    | inline | detached => simp [hrun]
    | dropping | queueing => simp
  · simp

theorem poisoned_refill (b : Buffer) (answer : Answer) :
    (b.refill answer).2.poisoned = true ↔
      b.poisoned = true ∨ ∃ call, (b.refill answer).1 = .panicked call := by
  cases answer with
  | panicked call => simp [refill]
  | failed error => simp [refill]
  | segment g =>
    unfold refill
    dsimp only
    split_ifs
    · unfold serve claim
      cases g.advance.1 <;> simp
    · simp

/-- A caller who waits for the store and panics there leaves the lock poisoned. -/
theorem poisoned_nextWaiting (b : Buffer) (σ : Store) :
    (b.nextWaiting σ).buffer.poisoned = true ↔
      b.poisoned = true ∨ .fallback ∈ (b.nextWaiting σ).events ∧
        ∃ call, (b.nextWaiting σ).outcome = .panicked call := by
  unfold nextWaiting
  split_ifs with hfree
  · simp [hfree]
  · obtain ⟨id?, b₁, hclaim, hb₁⟩ :
        ∃ id? b₁, b.claim = (id?, b₁) ∧ b₁.poisoned = b.poisoned := ⟨_, _, rfl, rfl⟩
    rw [hclaim]
    cases id? with
    | some id => simp [hb₁, hfree]
    | none =>
      obtain ⟨current, staged, ready, hb₂⟩ := b₁.promote_frame
      generalize hp : b₁.promote = promoted at hb₂
      obtain ⟨id?, b₂, events⟩ := promoted
      simp only [hp]
      have hsame : b₂.poisoned = b.poisoned := by
        rw [show b₂ = _ from hb₂]
        exact hb₁
      cases id? with
      | some id => simp [hsame, hfree]
      | none =>
        dsimp only
        rw [poisoned_refill, hsame]
        simp

theorem poisoned_next (b : Buffer) (σ : Store) :
    (b.next σ).buffer.poisoned = true ↔ b.poisoned = true ∨ b.Unwinds σ := by
  unfold Unwinds next
  rw [show b.claim = (b.claim.1, b.claim.2) from rfl]
  cases b.claim.1 with
  | none => exact poisoned_nextWaiting b.claim.2 σ
  | some id =>
    have hsame := poisoned_check b.claim.2 σ
    have hquiet := fallback_not_mem_check b.claim.2 σ
    dsimp only
    rw [hsame]
    exact ⟨.inl, fun h => h.resolve_right fun hw => hquiet hw.1⟩

/-- Nothing but a call that panics while it waits for the store poisons the lock. -/
theorem poisoned_operate (b : Buffer) (σ : Store) (op : Operation) :
    (b.operate σ op).buffer.poisoned = true ↔ b.poisoned = true ∨ op = .next ∧ b.Unwinds σ := by
  cases op with
  | next => simpa [operate] using b.poisoned_next σ
  | check => simp [operate, poisoned_check]
  | prefetch => simp [operate, prefetch, poisoned_receive]
  | finish => simp [operate, finishPrefetch, prefetch, poisoned_receive]
  | drop => simp [operate, dropPrefetch]
  | put g m =>
    simp only [operate, putStaged?]
    split_ifs with hp <;> simp [hp]
  | mark => simp [operate, markReady]

theorem refill_ne_lockPoisoned (b : Buffer) (answer : Answer) :
    (b.refill answer).1 ≠ .failed .lockPoisoned := by
  cases answer with
  | panicked _ | failed _ => simp [refill]
  | segment g =>
    unfold refill
    dsimp only
    split_ifs
    · unfold serve claim
      cases g.advance.1 <;> simp
    · simp

theorem nextWaiting_of_not_poisoned (h : b.poisoned = false) :
    (b.nextWaiting σ).outcome ≠ .failed .lockPoisoned := by
  unfold nextWaiting
  rw [h, if_neg Bool.false_ne_true]
  generalize b.claim = claimed
  obtain ⟨id?, b₁⟩ := claimed
  cases id? with
  | some id => simp
  | none =>
    dsimp only
    generalize b₁.promote = promoted
    obtain ⟨id?, b₂, events⟩ := promoted
    cases id? with
    | some id => simp
    | none => exact refill_ne_lockPoisoned _ _

/-- A call is refused for the lock only if that is poisoned. -/
theorem poisoned_of_lockPoisoned (h : (b.next σ).outcome = .failed .lockPoisoned) :
    b.poisoned = true := by
  by_contra hp
  have hfree : b.poisoned = false := by simpa using hp
  unfold next at h
  rw [show b.claim = (b.claim.1, b.claim.2) from rfl] at h
  cases hc : b.claim.1 with
  | none =>
    rw [hc] at h
    exact nextWaiting_of_not_poisoned (b := b.claim.2) hfree h
  | some id =>
    rw [hc] at h
    exact check_ne_failed_map _ _ _ _ h

/-! ## What a poisoned lock keeps -/

/-- The lock is poisoned, and nothing is left to claim without it. -/
structure IsRuined (b : Buffer) : Prop where
  poisoned : b.poisoned = true
  dry : b.current.max ≤ b.current.cursor

/-- A promotion that yields no id leaves nothing to claim. -/
theorem dry_promote (hx : b.current.max ≤ b.current.cursor)
    (fresh : ∀ g, b.staged = some g → g.IsFresh) (hnone : b.promote.1 = none) :
    b.promote.2.1.current.max ≤ b.promote.2.1.current.cursor := by
  cases hr : b.ready with
  | false =>
    have hprom : b.promote = (none, b, []) := by simp [promote, hr]
    rwa [hprom]
  | true =>
    cases hsucc : b.successor? with
    | none =>
      obtain ⟨events, hprom⟩ := promote_of_no_successor hr hsucc
      rwa [hprom]
    | some g =>
      obtain ⟨events, hprom⟩ := promote_of_successor hsucc
      obtain ⟨-, hs, -⟩ := successor?_eq_some_iff.1 hsucc
      have hempty : g.max ≤ g.cursor := by
        by_contra hlt
        rw [hprom, Segment.advance_of_lt (UInt64.not_le.1 hlt)] at hnone
        cases hnone
      rw [hprom]
      exact max_le_cursor_claim (b := { b with current := g }) hempty (fresh g hs).cursor_lt

theorem dry_renew {call : ℕ} (hx : b.current.max ≤ b.current.cursor)
    (fresh : ∀ g, b.staged = some g → g.IsFresh) (h : (b.renew σ).outcome = .panicked call) :
    (b.renew σ).buffer.current.max ≤ (b.renew σ).buffer.current.cursor := by
  have hdry := dry_promote hx fresh
  unfold renew at h ⊢
  generalize b.promote = promoted at h hdry ⊢
  obtain ⟨id?, b', events⟩ := promoted
  cases id? with
  | some id => cases h
  | none =>
    dsimp only at h hdry ⊢
    cases ha : (σ.fetch b'.tag).1 with
    | panicked call => exact hdry rfl
    | failed error =>
      rw [ha] at h
      cases h
    | segment g =>
      have hcalm := (b'.refill_frame (.segment g)).2 (by simp) call
      rw [ha] at h
      exact absurd h hcalm

/-- Whoever panics while waiting for the store has found nothing left to claim, and leaves nothing.
-/
theorem Unwinds.isRuined (h : b.Unwinds σ) (room : b.HasRoom) : (b.next σ).buffer.IsRuined := by
  refine ⟨(b.poisoned_next σ).2 (.inr h), ?_⟩
  obtain ⟨hevent, call, houtcome⟩ := h
  rcases UInt64.lt_or_le b.current.cursor b.current.max with hlt | hle
  · rw [next_of_lt hlt] at hevent
    exact absurd hevent (fallback_not_mem_check _ _)
  cases hp : b.poisoned with
  | true =>
    rw [next_of_poisoned hle hp] at houtcome
    cases houtcome
  | false =>
    have hw := room.first
    have hw' := room.second
    rw [next_of_le hle hw hp] at houtcome ⊢
    exact dry_renew (max_le_cursor_claim (max_le_cursor_claim hle hw) hw') room.staged houtcome

/-- What is served and what is staged is the same in both states, as readers see it. -/
structure Rests (b b' : Buffer) : Prop where
  base : b'.current.base = b.current.base
  max : b'.current.max = b.current.max
  step : b'.current.step = b.current.step
  position : b'.current.position = b.current.position
  staged : b'.staged = b.staged

theorem Rests.refl (b : Buffer) : b.Rests b := ⟨rfl, rfl, rfl, rfl, rfl⟩

theorem Rests.trans (h : b.Rests b') (h' : b'.Rests b'') : b.Rests b'' :=
  ⟨h'.base.trans h.base, h'.max.trans h.max, h'.step.trans h.step, h'.position.trans h.position,
    h'.staged.trans h.staged⟩

theorem receive_of_poisoned (hp : b.poisoned = true) (answer : Answer) :
    (b.receive answer).1 = b := by
  rcases b.receive_cases answer with ⟨h, -⟩ | ⟨g, -, -, hfree, -⟩
  · exact h
  · rw [hp] at hfree
    cases hfree

/-- Nothing that is done to a buffer whose lock is poisoned changes what it serves and stages. -/
theorem IsRuined.operate (h : b.IsRuined) (hw : b.current.cursor.toNat + 1 < 2 ^ 64)
    (σ : Store) (op : Operation) :
    (b.operate σ op).buffer.IsRuined ∧ b.Rests (b.operate σ op).buffer := by
  have still {b' : Buffer} (hcurrent : b'.current = b.current) (hstaged : b'.staged = b.staged)
      (hpoisoned : b'.poisoned = b.poisoned) : b'.IsRuined ∧ b.Rests b' :=
    ⟨⟨hpoisoned.trans h.poisoned, hcurrent ▸ h.dry⟩,
      ⟨by rw [hcurrent], by rw [hcurrent], by rw [hcurrent], by rw [hcurrent], hstaged⟩⟩
  cases op with
  | next =>
    simp only [Buffer.operate, next_of_poisoned h.dry h.poisoned]
    refine ⟨⟨h.poisoned, max_le_cursor_claim h.dry hw⟩, rfl, rfl, rfl, ?_, rfl⟩
    exact (Segment.position_advance_of_le h.dry hw).trans (Segment.position_of_le h.dry).symm
  | check =>
    simp only [Buffer.operate]
    rcases b.check_cases σ with ⟨he, -⟩ | ⟨he, -⟩ | ⟨he, -⟩
    · exact still (by rw [he]) (by rw [he]) (by rw [he])
    · rw [receive_of_poisoned h.poisoned] at he
      exact still (by rw [he]) (by rw [he]) (by rw [he])
    · exact still (by rw [he]) (by rw [he]) (by rw [he])
  | prefetch =>
    simp only [Buffer.operate, Buffer.prefetch, receive_of_poisoned h.poisoned]
    exact still rfl rfl rfl
  | finish =>
    simp only [Buffer.operate, Buffer.finishPrefetch, Buffer.prefetch,
      receive_of_poisoned h.poisoned]
    exact still rfl rfl rfl
  | drop | mark => exact still rfl rfl rfl
  | put g m =>
    have hput : b.putStaged? g m = none := if_pos h.poisoned
    simp only [Buffer.operate, hput]
    exact still rfl rfl rfl

/-! ## Prefetches in which the store panics -/

/-- What becomes of the buffer if the prefetch that an operation runs is dropped unrun. -/
def skipPrefetch (b : Buffer) (store : Store) : Operation → Buffer
  | .prefetch => b
  | .finish => b.dropPrefetch
  | op => { ({ b with spawner := .dropping }.operate store op).buffer with spawner := b.spawner }

/-- Seeing whether a prefetch is due comes to nothing if the prefetch is dropped. -/
theorem check_dropping (b : Buffer) (σ : Store) :
    ({ b with spawner := .dropping }.check σ).buffer = { b with spawner := .dropping } := by
  obtain ⟨_, _, _, _, _, _, loading, _⟩ := b
  unfold check
  split_ifs with hw
  · cases (flags_of_wantsPrefetch hw).2
    rfl
  · rfl

/-- It comes to nothing as well if the prefetch is run and the store panics. -/
theorem check_of_panicked {call : ℕ} (hcalled : (b.check σ).store ≠ σ)
    (ha : (σ.fetch b.tag).1 = .panicked call) : (b.check σ).buffer = b := by
  rcases b.check_cases σ with ⟨he, -⟩ | ⟨he, -⟩ | ⟨-, hs⟩
  · exact he
  · rw [he, ha]
    rfl
  · exact absurd hs hcalled

/-- A caller who waits and calls the store does with the answer what `refill` says. -/
theorem nextWaiting_of_called (h : (b.nextWaiting σ).store ≠ σ) :
    .fallback ∈ (b.nextWaiting σ).events ∧
      ∃ b', (b.nextWaiting σ).outcome = (refill b' (σ.fetch b.tag).1).1 := by
  unfold nextWaiting at h ⊢
  split_ifs at h ⊢
  · exact absurd rfl h
  obtain ⟨id?, b₁, hclaim, ht₁⟩ : ∃ id? b₁, b.claim = (id?, b₁) ∧ b₁.tag = b.tag := ⟨_, _, rfl, rfl⟩
  rw [hclaim] at h ⊢
  cases id? with
  | some id => exact absurd rfl h
  | none =>
    obtain ⟨current, staged, ready, hb₂⟩ := b₁.promote_frame
    generalize hp : b₁.promote = promoted at hb₂
    obtain ⟨id?, b₂, events⟩ := promoted
    simp only [hp] at h ⊢
    have ht₂ : b₂.tag = b.tag := by
      rw [show b₂ = _ from hb₂]
      exact ht₁
    cases id? with
    | some id => exact absurd rfl h
    | none => exact ⟨by simp, b₂, by simp only [ht₂]⟩

/-- A caller who waits and unwinds has called the store, which has panicked. -/
theorem history_of_unwound {call : ℕ} (h : (b.nextWaiting σ).outcome = .panicked call) :
    (b.nextWaiting σ).store.history = ⟨b.tag, .panicked call⟩ :: σ.history := by
  have hcalled : (b.nextWaiting σ).store ≠ σ := by
    intro hsame
    unfold nextWaiting at h hsame
    split_ifs at h hsame
    obtain ⟨id?, b₁, hclaim⟩ : ∃ id? b₁, b.claim = (id?, b₁) := ⟨_, _, rfl⟩
    rw [hclaim] at h hsame
    cases id? with
    | some id => cases h
    | none =>
      dsimp only at h hsame
      generalize b₁.promote = promoted at h hsame
      obtain ⟨id?, b₂, events⟩ := promoted
      cases id? with
      | some id => cases h
      | none =>
        have hhistory := σ.history_fetch b₂.tag
        dsimp only at hsame
        rw [hsame] at hhistory
        exact absurd hhistory (List.cons_ne_self _ _).symm
  obtain ⟨-, b', houtcome⟩ := nextWaiting_of_called hcalled
  have ha : (σ.fetch b.tag).1 = .panicked call := by
    rw [h] at houtcome
    cases ha : (σ.fetch b.tag).1 with
    | panicked call' =>
      rw [ha] at houtcome
      cases houtcome
      rfl
    | segment _ | failed _ =>
      rw [ha] at houtcome
      exact absurd houtcome.symm ((b'.refill_frame _).2 (by simp) call)
  rw [(b.nextWaiting_frame σ).2.2.1.resolve_left hcalled, Store.history_fetch, ha]

theorem Unwinds.history (h : b.Unwinds σ) :
    ∃ call, (b.next σ).store.history = ⟨b.tag, .panicked call⟩ :: σ.history := by
  obtain ⟨hevent, call, houtcome⟩ := h
  refine ⟨call, ?_⟩
  unfold next at hevent houtcome ⊢
  rw [show b.claim = (b.claim.1, b.claim.2) from rfl] at hevent houtcome ⊢
  cases hc : b.claim.1 with
  | some id =>
    rw [hc] at hevent
    exact absurd hevent (fallback_not_mem_check _ _)
  | none =>
    rw [hc] at houtcome
    exact history_of_unwound houtcome

/-- If the store panics in an operation, either a caller was waiting for it, or the buffer is as if
the prefetch had been dropped unrun. -/
theorem operate_of_panicked {call : ℕ} (hcalled : (b.operate σ op).store ≠ σ)
    (ha : (σ.fetch b.tag).1 = .panicked call) :
    op = .next ∧ b.Unwinds σ ∨ (b.operate σ op).buffer = b.skipPrefetch σ op := by
  cases op with
  | next =>
    simp only [operate] at hcalled
    rcases UInt64.lt_or_le b.current.cursor b.current.max with hlt | hle
    · right
      have hlt' : { b with spawner := .dropping }.current.cursor <
          { b with spawner := .dropping }.current.max := hlt
      rw [next_of_lt hlt] at hcalled
      simp only [skipPrefetch, operate, next_of_lt hlt, next_of_lt hlt',
        check_of_panicked (b := b.claim.2) hcalled ha]
      exact (congrArg (fun b' : Buffer => { b' with spawner := b.spawner })
        (check_dropping b.claim.2 σ)).symm
    · left
      unfold Unwinds
      unfold next at hcalled ⊢
      rw [claim_of_le hle] at hcalled ⊢
      obtain ⟨hevent, b', houtcome⟩ := nextWaiting_of_called hcalled
      refine ⟨rfl, hevent, call, houtcome.trans ?_⟩
      rw [show (σ.fetch b.claim.2.tag).1 = .panicked call from ha]
      rfl
  | check =>
    right
    simp only [skipPrefetch, operate, check_of_panicked hcalled ha, check_dropping]
  | prefetch =>
    right
    simp only [skipPrefetch, operate, prefetch, ha]
    rfl
  | finish =>
    right
    simp only [skipPrefetch, operate, finishPrefetch, prefetch, ha]
    rfl
  | drop | mark | put _ _ => exact absurd rfl hcalled

end Buffer

end IdIssuer

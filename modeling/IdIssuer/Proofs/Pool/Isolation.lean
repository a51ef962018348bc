import IdIssuer.Proofs.Buffer.Isolation
import IdIssuer.Proofs.Pool.Played

/-!
# What a pool has to do with a tag

The share of a tag in a pool is its row in the ledger, its buffers, and those of them whose
prefetches wait. What is done for another tag leaves the share alone, and what is done for the tag
itself depends on nothing else, as long as no call is scripted. So two pools that are alike for a
tag stay alike, whatever is done for other tags in either of them.
-/

namespace IdIssuer

/-- What a pool has to do with a tag. -/
@[ext] structure Share where
  row : Option Row
  buffers : List Buffer
  /-- The buffers of the tag whose prefetches wait, in the order in which they were started. -/
  pending : List BufferId

namespace Pool

def share (p : Pool) (tag : String) : Share :=
  ⟨p.store.ledger.rows.get? tag, p.buffersOf tag, p.pending.filter (·.tag = tag)⟩

/-- No call is scripted, and every buffer is filed under its own tag. -/
structure IsOpen (p : Pool) : Prop where
  free : p.store.script = .free
  filed : p.IsFiled

/-- Whatever is done for the tag comes to the same in both pools. -/
structure Alike (tag : String) (p q : Pool) : Prop where
  left : p.IsOpen
  right : q.IsOpen
  share : p.share tag = q.share tag

variable {p q r : Pool} {tag t : String} {id : BufferId} {b : Buffer}

theorem Played.isOpen {p' : Pool} {move : Move} (h : Played p move p') (hp : p.IsOpen) :
    p'.IsOpen := ⟨h.script.trans hp.free, h.isFiled hp.filed⟩

namespace Alike

theorem refl (h : p.IsOpen) : Alike tag p p := ⟨h, h, rfl⟩

theorem symm (h : Alike tag p q) : Alike tag q p := ⟨h.right, h.left, h.share.symm⟩

theorem trans (h : Alike tag p q) (h' : Alike tag q r) : Alike tag p r :=
  ⟨h.left, h'.right, h.share.trans h'.share⟩

theorem buffersOf (h : Alike tag p q) : p.buffersOf tag = q.buffersOf tag :=
  congrArg Share.buffers h.share

theorem row (h : Alike tag p q) :
    p.store.ledger.rows.get? tag = q.store.ledger.rows.get? tag := congrArg Share.row h.share

theorem pending (h : Alike tag p q) :
    p.pending.filter (·.tag = tag) = q.pending.filter (·.tag = tag) :=
  congrArg Share.pending h.share

theorem buffer? (h : Alike id.tag p q) : p.buffer? id = q.buffer? id := by
  unfold Pool.buffer?
  rw [h.buffersOf]

/-- The store answers a call for the tag alike. -/
theorem answer (h : Alike tag p q) : (p.store.fetch tag).1 = (q.store.fetch tag).1 :=
  (Store.fetch_congr h.left.free h.right.free h.row).1

theorem answer_of_buffer? (h : Alike id.tag p q) (hb : p.buffer? id = some b) :
    (p.store.fetch b.tag).1 = (q.store.fetch b.tag).1 := by
  rw [h.left.filed id b hb]
  exact h.answer

end Alike

/-! ## Operations -/

theorem isOpen_operate (h : p.IsOpen) (id : BufferId) (op : Operation) :
    (p.operate id op).IsOpen := (p.played (.operate id op)).isOpen h

theorem share_settle_of_ne {α : Type} {turn : Turn α} (hc : p.store.Calls id.tag turn.store)
    (ht : id.tag ≠ tag) : (p.settle id turn).share tag = p.share tag := by
  refine Share.ext (hc.row_of_ne ht) ?_ ?_
  · exact (buffersOf_settle p id turn tag).trans (if_neg ht)
  · simp only [share, settle, tell, put]
    cases turn.queued <;> simp [ht]

theorem share_settle {α : Type} {turn turn' : Turn α} (h : Alike id.tag p q)
    (ha : Buffer.Agrees id.tag p.store q.store turn turn') :
    (p.settle id turn).share id.tag = (q.settle id turn').share id.tag := by
  refine Share.ext ?_ ?_ ?_
  · rcases ha.store with ⟨hs, hs'⟩ | ⟨hs, hs'⟩
    · simp only [share, settle, hs, hs']
      exact h.row
    · simp only [share, settle, hs, hs']
      exact (Store.fetch_congr h.left.free h.right.free h.row).2
  · refine (buffersOf_settle p id turn id.tag).trans
      (Eq.trans ?_ (buffersOf_settle q id turn' id.tag).symm)
    rw [ha.buffer, h.buffersOf]
  · have hpending := h.pending
    simp only [share, settle, tell, put, ha.queued] at hpending ⊢
    cases turn'.queued <;> simp [hpending]

namespace Alike

/-- What is done to a buffer of another tag concerns nothing of the tag. -/
theorem operate_of_ne (h : Alike tag p q) (ht : id.tag ≠ tag) (op : Operation) :
    Alike tag (p.operate id op) q := by
  refine ⟨isOpen_operate h.left id op, h.right, Eq.trans ?_ h.share⟩
  unfold Pool.operate
  cases hb : p.buffer? id with
  | none => rfl
  | some b =>
    have hcalls := (b.keeps_operate p.store op).store
    rw [h.left.filed id b hb] at hcalls
    exact share_settle_of_ne hcalls ht

/-- What is done to a buffer of the tag comes to the same. -/
theorem operate (h : Alike id.tag p q) (op : Operation) :
    Alike id.tag (p.operate id op) (q.operate id op) := by
  refine ⟨isOpen_operate h.left id op, isOpen_operate h.right id op, ?_⟩
  unfold Pool.operate
  rw [← h.buffer?]
  cases hb : p.buffer? id with
  | none => exact h.share
  | some b =>
    have ha := Buffer.agrees_operate (h.answer_of_buffer? hb) op
    rw [h.left.filed id b hb] at ha
    exact share_settle h ha

/-- Asking a buffer of the tag for an id comes to the same. -/
theorem next (h : Alike id.tag p q) (hb : p.buffer? id = some b) :
    (p.next id b).1 = (q.next id b).1 ∧ Alike id.tag (p.next id b).2 (q.next id b).2 := by
  have hturn := Buffer.agrees_next (h.answer_of_buffer? hb)
  have hpool := h.operate .next
  rw [operate_of_buffer? hb, operate_of_buffer? (h.buffer? ▸ hb)] at hpool
  exact ⟨congrArg (Outcome.map (Issue.mk id)) hturn.outcome, hpool⟩

theorem next_of_ne (h : Alike tag p q) (hb : p.buffer? id = some b) (ht : id.tag ≠ tag) :
    Alike tag (p.next id b).2 q := by
  have hpool := h.operate_of_ne ht .next
  rwa [operate_of_buffer? hb] at hpool

/-- Of a row of operations, those on buffers of the tag count. -/
theorem foldl_operate (op : Operation) (ids : List BufferId) :
    ∀ {p q : Pool}, Alike tag p q →
      Alike tag (ids.foldl (·.operate · op) p)
        ((ids.filter (·.tag = tag)).foldl (·.operate · op) q) := by
  induction ids with
  | nil => exact fun h => h
  | cons id rest ih =>
    intro p q h
    by_cases ht : id.tag = tag
    · subst ht
      rw [List.filter_cons_of_pos (by simp)]
      exact ih (h.operate op)
    · rw [List.filter_cons_of_neg (by simpa using ht)]
      exact ih (h.operate_of_ne ht op)

end Alike

/-! ## The queue -/

theorem isCalm_free : Script.free.IsCalm := fun _ => nofun

/-- Prefetches that do not panic are run one after the other. -/
theorem runAll_eq_foldl (ids : List BufferId) :
    ∀ {p : Pool}, p.IsOpen → p.runAll ids = (.done (), ids.foldl (·.operate · .finish) p) := by
  induction ids with
  | nil => exact fun _ => rfl
  | cons id rest ih =>
    intro p h
    rw [runAll, List.foldl_cons, ← ih (isOpen_operate h id .finish), operate]
    cases p.buffer? id with
    | none => rfl
    | some b =>
      have hcalm := (b.keeps_finishPrefetch p.store).calm
        (Store.fetch_ne_panicked (by rw [h.free]; exact isCalm_free) b.tag)
      dsimp only
      cases ho : (b.finishPrefetch p.store).outcome with
      | panicked call => exact absurd ho (hcalm call)
      | done _ | failed _ => rfl

theorem dropAll_eq_foldl (p : Pool) (ids : List BufferId) :
    p.dropAll ids = ids.foldl (·.operate · .drop) p := by
  induction ids generalizing p with
  | nil => rfl
  | cons id rest ih =>
    rw [List.foldl_cons, ← ih, operate]
    unfold dropAll
    rw [List.foldl_cons]
    cases p.buffer? id <;> rfl

theorem isOpen_emptied (h : p.IsOpen) : { p with pending := [] }.IsOpen := ⟨h.free, h.filed⟩

namespace Alike

/-- All prefetches that wait are run, or all are given up. -/
theorem resolveAll (h : Alike tag p q) (op : Operation) :
    Alike tag (p.pending.foldl (·.operate · op) { p with pending := [] })
      (q.pending.foldl (·.operate · op) { q with pending := [] }) := by
  have hempty : Alike tag { p with pending := [] } { q with pending := [] } :=
    ⟨isOpen_emptied h.left, isOpen_emptied h.right, Share.ext h.row h.buffersOf rfl⟩
  have hleft := hempty.foldl_operate op p.pending
  have hself : Alike tag { q with pending := [] } { q with pending := [] } := .refl hempty.right
  have hright := hself.foldl_operate op q.pending
  rw [h.pending] at hleft
  exact hleft.trans hright.symm

theorem runPending (h : Alike tag p q) : Alike tag p.runPending.2 q.runPending.2 := by
  unfold Pool.runPending
  rw [runAll_eq_foldl _ (isOpen_emptied h.left), runAll_eq_foldl _ (isOpen_emptied h.right)]
  exact h.resolveAll .finish

theorem dropPending (h : Alike tag p q) : Alike tag p.dropPending.2 q.dropPending.2 := by
  unfold Pool.dropPending
  rw [dropAll_eq_foldl, dropAll_eq_foldl]
  exact h.resolveAll .drop

end Alike

/-! ## Calls of the store -/

theorem tag_of_create {config : Config} {spawner : Spawner}
    (h : (p.create t config spawner).1 = .done (id, b)) : id.tag = t := by
  rcases p.create_cases t config spawner with ⟨g, log, -, -, hc⟩ | ⟨-, hnot, -⟩
  · rw [hc] at h
    cases h
    rfl
  · exact absurd h (hnot _)

namespace Alike

theorem fetch_of_ne (h : Alike tag p q) (ht : t ≠ tag) : Alike tag (p.fetch t).2 q :=
  ⟨(p.played (.fetch t)).isOpen h.left, h.right,
    Share.ext ((p.store.row_fetch_of_ne ht).trans h.row) h.buffersOf h.pending⟩

theorem fetch (h : Alike tag p q) :
    (p.fetch tag).1 = (q.fetch tag).1 ∧ Alike tag (p.fetch tag).2 (q.fetch tag).2 :=
  ⟨h.answer, (p.played (.fetch tag)).isOpen h.left, (q.played (.fetch tag)).isOpen h.right,
    Share.ext (Store.fetch_congr h.left.free h.right.free h.row).2 h.buffersOf h.pending⟩

theorem request_of_ne (h : Alike tag p q) {r : Ledger.Request} (ht : r.tag ≠ tag) :
    Alike tag (p.answer r).2 q :=
  ⟨(p.played (.request r)).isOpen h.left, h.right,
    Share.ext ((p.store.ledger.row_answer_of_ne ht).trans h.row) h.buffersOf h.pending⟩

theorem request {r : Ledger.Request} (h : Alike r.tag p q) :
    (p.answer r).1 = (q.answer r).1 ∧ Alike r.tag (p.answer r).2 (q.answer r).2 := by
  obtain ⟨hresult, hrow⟩ := Ledger.answer_congr h.row
  exact ⟨hresult, (p.played (.request r)).isOpen h.left, (q.played (.request r)).isOpen h.right,
    Share.ext hrow h.buffersOf h.pending⟩

theorem tell (h : Alike tag p q) (events : List Event) : Alike tag (p.tell events) q :=
  ⟨⟨h.left.free, h.left.filed⟩, h.right, h.share⟩

theorem create_of_ne (h : Alike tag p q) (ht : t ≠ tag) (config : Config) (spawner : Spawner) :
    Alike tag (p.create t config spawner).2 q := by
  refine ⟨(p.played (.create t config spawner)).isOpen h.left, h.right, Eq.trans ?_ h.share⟩
  have hrow := p.store.row_fetch_of_ne ht
  rcases p.create_cases t config spawner with ⟨g, log, -, -, hc⟩ | ⟨-, -, hc⟩
  · rw [hc]
    exact Share.ext hrow ((buffersOf_insert _ _ _ _ t _ tag).trans (if_neg ht)) rfl
  · rw [hc]
    exact Share.ext hrow rfl rfl

theorem create (h : Alike tag p q) (config : Config) (spawner : Spawner) :
    (p.create tag config spawner).1 = (q.create tag config spawner).1 ∧
      Alike tag (p.create tag config spawner).2 (q.create tag config spawner).2 := by
  obtain ⟨houtcome, hstore⟩ := Buffer.create_agrees h.answer config spawner
  obtain ⟨-, hstore'⟩ := Buffer.create_agrees h.answer.symm config spawner
  have hrow := (Store.fetch_congr h.left.free h.right.free h.row).2
  rw [← hstore, ← hstore'] at hrow
  have hsame : (p.create tag config spawner).1 = (q.create tag config spawner).1 ∧
      (p.create tag config spawner).2.share tag = (q.create tag config spawner).2.share tag := by
    unfold Pool.create
    generalize Buffer.create tag config spawner p.store = made at houtcome hrow
    generalize Buffer.create tag config spawner q.store = made' at houtcome hrow
    obtain ⟨outcome, σ, events⟩ := made
    obtain ⟨outcome', σ', events'⟩ := made'
    cases houtcome
    cases outcome with
    | done b =>
      refine ⟨?_, Share.ext hrow ?_ h.pending⟩
      · exact congrArg (fun old : List Buffer => Outcome.done ((⟨tag, old.length⟩ : BufferId), b))
          h.buffersOf
      · simp only [Pool.share, buffersOf_insert, if_true]
        exact congrArg (· ++ [b]) h.buffersOf
    | failed _ | panicked _ => exact ⟨rfl, Share.ext hrow h.buffersOf h.pending⟩
  exact ⟨hsame.1, (p.played (.create tag config spawner)).isOpen h.left,
    (q.played (.create tag config spawner)).isOpen h.right, hsame.2⟩

end Alike

end Pool

end IdIssuer

import IdIssuer.Proofs.Allocator.Isolation

/-!
# Tags do not interfere

What is seen of one tag does not depend on what is done for other tags. The steps that name another
tag, or a buffer of another tag, may be struck from a run, and every step for the tag still gets the
same reply and leaves its buffer and the boundary of the tag where they were (`tags_isolated`). The
proof runs both in step: a step that is struck leaves what concerns the tag as it is, and any other
step changes it alike in both runs.
-/

namespace IdIssuer

open Pool

/-! ## The tags of steps -/

/-- The tag that an allocator is asked about. -/
def AllocatorStep.tag? : AllocatorStep → Option String
  | get tag | warmUp tag | snapshot tag => some tag
  | tags | info => none

namespace Step

/-- The tag that a step names, or the tag of the buffer that it names. -/
def tag? (owner : String → String) : Step → Option String
  | ledger r => some r.tag
  | fetch tag | create _ tag _ => some tag
  | buffer name _ => some (owner name)
  | allocator _ use => use.tag?
  | runQueue | dropQueue | newAllocator .. => none

/-- The step names no tag but the one. -/
def keepsTo (owner : String → String) (tag : String) (step : Step) : Bool :=
  step.tag? owner = none ∨ step.tag? owner = some tag

/-- A buffer that the step creates gets a name of its tag. -/
def Names (owner : String → String) : Step → Prop
  | create name tag _ => tag = owner name
  | _ => True

instance (owner : String → String) : DecidablePred (Names owner)
  | create name tag _ => inferInstanceAs (Decidable (tag = owner name))
  | ledger _ | fetch _ | runQueue | dropQueue | buffer _ _ | newAllocator _ _ _ | allocator _ _ =>
    .isTrue trivial

end Step

namespace Session

/-! ## What is seen of a tag -/

/-- What is seen of a tag when a step that names it has been taken. -/
structure Sight where
  reply : Reply
  /-- Where the buffer stands that the step names, or that an allocator uses for the tag. -/
  snapshot : Option Snapshot
  boundary : Except StoreError UInt64

/-- Where the buffer stands that a step is about. -/
def snapshot? (s : Session) : Step → Option Snapshot
  | .create name _ _ | .buffer name _ => (s.buffer? name).map (·.2.snapshot)
  | .allocator name use =>
    (s.allocators.get? name).bind fun a =>
      use.tag?.bind fun tag => (a.find? tag s.pool).map (·.2.snapshot)
  | _ => none

/-- What is seen of a tag in a run, step by step. -/
def sights (owner : String → String) (tag : String) (s : Session) : List Step → List Sight
  | [] => []
  | step :: rest =>
    let (reply, s) := s.step step
    if step.tag? owner = some tag then
      ⟨reply, s.snapshot? step, s.pool.store.ledger.boundary tag⟩ :: s.sights owner tag rest
    else s.sights owner tag rest

/-- What is kept in the session under a name or a tag is of that tag. -/
structure IsSorted (owner : String → String) (s : Session) : Prop where
  names : ∀ name id, s.names.get? name = some id → id.tag = owner name
  allocators : ∀ name a, s.allocators.get? name = some a → a.IsFiled

/-- Whatever is asked about the tag comes to the same in both sessions. -/
structure Alike (owner : String → String) (tag : String) (s s' : Session) : Prop where
  left : s.IsSorted owner
  right : s'.IsSorted owner
  pool : Pool.Alike tag s.pool s'.pool
  spawner : s.spawner = s'.spawner
  names : ∀ name, owner name = tag → s.names.get? name = s'.names.get? name
  allocators : ∀ name, (s.allocators.get? name).map (·.share tag) =
    (s'.allocators.get? name).map (·.share tag)

variable {owner : String → String} {tag t : String} {s s' : Session} {step : Step}

namespace IsSorted

theorem insert_name (h : s.IsSorted owner) (p : Pool) {name : String} {id : BufferId}
    (hid : id.tag = owner name) :
    IsSorted owner { s with pool := p, names := s.names.insert name id } := by
  refine ⟨fun name' id' hget => ?_, h.allocators⟩
  rw [Table.get?_insert] at hget
  split_ifs at hget with hne
  · cases hget
    exact hne ▸ hid
  · exact h.names name' id' hget

theorem insert_allocator (h : s.IsSorted owner) (p : Pool) (name : String) {a : Allocator}
    (ha : a.IsFiled) :
    IsSorted owner { s with pool := p, allocators := s.allocators.insert name a } := by
  refine ⟨h.names, fun name' a' hget => ?_⟩
  rw [Table.get?_insert] at hget
  split_ifs at hget
  · cases hget
    exact ha
  · exact h.allocators name' a' hget

end IsSorted

theorem alike_new (owner : String → String) (tag : String) (spawner : Spawner) (ledger : Ledger) :
    Alike owner tag (.new spawner (.new ledger .free)) (.new spawner (.new ledger .free)) := by
  have sorted : IsSorted owner (.new spawner (.new ledger .free)) := by
    refine ⟨fun name id h => ?_, fun name a h => ?_⟩
    · cases (Table.get?_empty name).symm.trans h
    · cases (Table.get?_empty name).symm.trans h
  exact ⟨sorted, sorted, .refl ⟨rfl, isFiled_new _⟩, rfl, fun _ _ => rfl, fun _ => rfl⟩

namespace Alike

/-- A name of the tag stands for the same buffer. -/
theorem buffer? (h : Alike owner tag s s') {name : String} (hn : owner name = tag) :
    s.buffer? name = s'.buffer? name := by
  unfold Session.buffer?
  rw [← h.names name hn]
  cases hid : s.names.get? name with
  | none => rfl
  | some id =>
    cases (h.left.names name id hid).trans hn
    rw [Option.bind_some, Option.bind_some, h.pool.buffer?]

theorem with_pool (h : Alike owner tag s s') {p p' : Pool} (hp : Pool.Alike tag p p') :
    Alike owner tag { s with pool := p } { s' with pool := p' } :=
  ⟨⟨h.left.names, h.left.allocators⟩, ⟨h.right.names, h.right.allocators⟩, hp, h.spawner, h.names,
    h.allocators⟩

theorem with_allocator (h : Alike owner tag s s') {p p' : Pool} (hp : Pool.Alike tag p p')
    (name : String) {a a' : Allocator} (ha : a.IsFiled) (ha' : a'.IsFiled)
    (hs : a.share tag = a'.share tag) :
    Alike owner tag { s with pool := p, allocators := s.allocators.insert name a }
      { s' with pool := p', allocators := s'.allocators.insert name a' } := by
  refine ⟨h.left.insert_allocator p name ha, h.right.insert_allocator p' name ha', hp, h.spawner,
    h.names, fun name' => ?_⟩
  rw [Table.get?_insert, Table.get?_insert]
  split_ifs
  · exact congrArg some hs
  · exact h.allocators name'

theorem with_name (h : Alike owner tag s s') {p p' : Pool} (hp : Pool.Alike tag p p')
    {name : String} {id : BufferId} (hid : id.tag = owner name) :
    Alike owner tag { s with pool := p, names := s.names.insert name id }
      { s' with pool := p', names := s'.names.insert name id } := by
  refine ⟨h.left.insert_name p hid, h.right.insert_name p' hid, hp, h.spawner,
    fun name' hname => ?_, h.allocators⟩
  rw [Table.get?_insert, Table.get?_insert]
  split_ifs
  · rfl
  · exact h.names name' hname

/-- An allocator under a name is there in both sessions, or in neither. -/
theorem allocator? (h : Alike owner tag s s') (name : String) :
    s.allocators.get? name = none ∧ s'.allocators.get? name = none ∨
      ∃ a a', s.allocators.get? name = some a ∧ s'.allocators.get? name = some a' ∧
        a.share tag = a'.share tag := by
  have hname := h.allocators name
  cases ha : s.allocators.get? name <;> cases ha' : s'.allocators.get? name <;>
    simp_all

end Alike

/-! ## Steps that are struck -/

namespace Alike

theorem left_pool (h : Alike owner tag s s') {p : Pool} (hp : Pool.Alike tag p s'.pool) :
    Alike owner tag { s with pool := p } s' := h.with_pool hp

/-- A buffer of another tag gets a name of another tag. -/
theorem create_of_ne (h : Alike owner tag s s') (name : String) (hn : owner name ≠ tag)
    (config : Config) : Alike owner tag (s.create name (owner name) config).2 s' := by
  have hpool := h.pool.create_of_ne hn config s.spawner
  have htag (id b) := @tag_of_create s.pool (owner name) id b config s.spawner
  unfold Session.create
  generalize s.pool.create (owner name) config s.spawner = made at hpool htag
  obtain ⟨outcome, p⟩ := made
  cases outcome with
  | done created =>
    obtain ⟨id, b⟩ := created
    refine ⟨h.left.insert_name p (htag id b rfl), h.right, hpool, h.spawner,
      fun name' hname => ?_, h.allocators⟩
    have hne : name ≠ name' := by
      rintro rfl
      exact hn hname
    rw [Table.get?_insert, if_neg hne]
    exact h.names name' hname
  | failed _ | panicked _ => exact h.left_pool hpool

/-- What an allocator does for another tag concerns nothing of the tag. -/
theorem allocatorStep_of_ne (h : Alike owner tag s s') {name : String} {a : Allocator}
    (ha : s.allocators.get? name = some a) {use : AllocatorStep} (ht : use.tag? = some t)
    (hne : t ≠ tag) : Alike owner tag (s.allocatorStep name a use).2 s' := by
  have filed := h.left.allocators name a ha
  obtain ⟨hpool, hshare⟩ := Allocator.buffer_of_ne h.pool hne a
  have replaced {p : Pool} (hp : Pool.Alike tag p s'.pool) : Alike owner tag
      { s with pool := p, allocators := s.allocators.insert name (a.buffer t s.pool).2.1 } s' := by
    refine ⟨h.left.insert_allocator p name (filed.buffer t s.pool).1, h.right, hp, h.spawner,
      h.names, fun name' => ?_⟩
    rw [Table.get?_insert, ← h.allocators name']
    split_ifs with hname
    · rw [← hname, ha, Option.map_some, hshare, Option.map_some]
    · rfl
  cases use with
  | get t' =>
    cases ht
    simp only [Session.allocatorStep, Allocator.get_allocator]
    exact replaced (Allocator.get_of_ne h.pool filed hne)
  | warmUp t' =>
    cases ht
    exact replaced hpool
  | snapshot t' => exact h
  | tags | info => cases ht

/-- A step that names another tag concerns nothing of the tag. -/
theorem step_of_ne (h : Alike owner tag s s') (named : step.Names owner)
    (ht : step.tag? owner = some t) (hne : t ≠ tag) : Alike owner tag (s.step step).2 s' := by
  cases step with
  | ledger r =>
    cases ht
    exact h.left_pool (h.pool.request_of_ne hne)
  | fetch t' =>
    cases ht
    exact h.left_pool (h.pool.fetch_of_ne hne)
  | runQueue | dropQueue | newAllocator _ _ _ => cases ht
  | create name t' ratio =>
    cases ht
    cases named
    simp only [Session.step]
    cases Config.ofRatio ratio with
    | error _ => exact h
    | ok config => exact h.create_of_ne name hne config
  | buffer name use =>
    cases ht
    simp only [Session.step]
    cases hb : s.buffer? name with
    | none => exact h
    | some found =>
      obtain ⟨id, b⟩ := found
      obtain ⟨hid, hb⟩ := buffer?_of_name hb
      have hid' : id.tag ≠ tag := by rwa [h.left.names name id hid]
      dsimp only
      rw [bufferStep_frame hb]
      refine h.left_pool ?_
      cases use.operation? with
      | none => exact h.pool
      | some op => exact h.pool.operate_of_ne hid' op
  | allocator name use =>
    simp only [Session.step]
    cases ha : s.allocators.get? name with
    | none => exact h
    | some a => exact h.allocatorStep_of_ne ha ht hne

end Alike

/-! ## Steps that are kept -/

namespace Alike

/-- What is asked of a buffer of the tag comes to the same. -/
theorem bufferStep {id : BufferId} {b : Buffer} (h : Alike owner id.tag s s')
    (hb : s.pool.buffer? id = some b) (use : BufferStep) :
    (s.bufferStep id b use).1 = (s'.bufferStep id b use).1 ∧
      Alike owner id.tag (s.bufferStep id b use).2 (s'.bufferStep id b use).2 := by
  constructor
  · have hanswer := h.pool.answer_of_buffer? hb
    cases use with
    | next => exact congrArg (Reply.ofOutcome .issued) (h.pool.next hb).1
    | check => exact congrArg (Reply.ofOutcome _) (Buffer.agrees_check hanswer).outcome
    | prefetch => exact congrArg (Reply.ofOutcome _) (Buffer.agrees_prefetch hanswer).outcome
    | snapshot | info | markReady => rfl
    | stage base max step mark =>
      simp only [Session.bufferStep]
      cases b.putStaged? (.new base max step) mark <;> rfl
    | staged =>
      simp only [Session.bufferStep]
      cases b.staged? <;> rfl
  · rw [bufferStep_frame hb, bufferStep_frame (h.pool.buffer? ▸ hb)]
    refine h.with_pool ?_
    cases use.operation? with
    | none => exact h.pool
    | some op => exact h.pool.operate op

theorem create {name : String} (h : Alike owner (owner name) s s') (config : Config) :
    (s.create name (owner name) config).1 = (s'.create name (owner name) config).1 ∧
      Alike owner (owner name) (s.create name (owner name) config).2
        (s'.create name (owner name) config).2 := by
  have hmade (spawner : Spawner) (he : s.spawner = spawner) :
      (s.pool.create (owner name) config s.spawner).1 =
          (s'.pool.create (owner name) config spawner).1 ∧
        Pool.Alike (owner name) (s.pool.create (owner name) config s.spawner).2
          (s'.pool.create (owner name) config spawner).2 := he ▸ h.pool.create config s.spawner
  obtain ⟨houtcome, hpool⟩ := hmade s'.spawner h.spawner
  have htag (id b) := @tag_of_create s.pool (owner name) id b config s.spawner
  unfold Session.create
  generalize s.pool.create (owner name) config s.spawner = made at houtcome hpool htag
  generalize s'.pool.create (owner name) config s'.spawner = made' at houtcome hpool
  obtain ⟨outcome, p⟩ := made
  obtain ⟨outcome', p'⟩ := made'
  cases houtcome
  cases outcome with
  | done created => exact ⟨rfl, h.with_name hpool (htag created.1 created.2 rfl)⟩
  | failed _ | panicked _ => exact ⟨rfl, h.with_pool hpool⟩

theorem newAllocator (h : Alike owner tag s s') (name : String) (ratio : Option Float)
    (standard : Bool) : Alike owner tag (s.step (.newAllocator name ratio standard)).2
      (s'.step (.newAllocator name ratio standard)).2 := by
  simp only [Session.step]
  cases Config.ofRatio ratio with
  | error _ => exact h
  | ok config =>
    refine h.with_allocator h.pool name ?_ ?_ (by rw [h.spawner])
    · split_ifs <;> exact Allocator.isFiled_new _ _
    · split_ifs <;> exact Allocator.isFiled_new _ _

/-- What is asked of an allocator about the tag comes to the same. -/
theorem allocatorStep (h : Alike owner tag s s') {name : String} {a a' : Allocator}
    (ha : s.allocators.get? name = some a) (ha' : s'.allocators.get? name = some a')
    (hs : a.share tag = a'.share tag) {use : AllocatorStep} (ht : use.tag? = some tag) :
    (s.allocatorStep name a use).1 = (s'.allocatorStep name a' use).1 ∧
      Alike owner tag (s.allocatorStep name a use).2 (s'.allocatorStep name a' use).2 := by
  have filed := h.left.allocators name a ha
  obtain ⟨houtcome, hpool, hshare⟩ := Allocator.buffer_alike h.pool filed hs
  have hnew := (filed.buffer tag s.pool).1
  have hnew' := ((h.right.allocators name a' ha').buffer tag s'.pool).1
  cases use with
  | get t =>
    cases ht
    obtain ⟨hissued, hpool⟩ := Allocator.get_alike h.pool filed hs
    simp only [Session.allocatorStep, Allocator.get_allocator]
    exact ⟨congrArg (Reply.ofOutcome .issued) hissued,
      h.with_allocator hpool name hnew hnew' hshare⟩
  | warmUp t =>
    cases ht
    refine ⟨?_, h.with_allocator hpool name hnew hnew' hshare⟩
    simp only [Session.allocatorStep, Allocator.warmUp, houtcome]
  | snapshot t =>
    cases ht
    have hpoisoned : a.poisoned = a'.poisoned := congrArg Allocator.Share.poisoned hs
    refine ⟨?_, h⟩
    simp only [Session.allocatorStep, Allocator.snapshot, hpoisoned,
      Allocator.find?_alike h.pool filed hs]
  | tags | info => cases ht

/-- A step that names the tag is answered alike, and leaves the two sessions alike. -/
theorem step_of_eq (h : Alike owner tag s s') (named : step.Names owner)
    (ht : step.tag? owner = some tag) :
    (s.step step).1 = (s'.step step).1 ∧ Alike owner tag (s.step step).2 (s'.step step).2 := by
  cases step with
  | ledger r =>
    cases ht
    obtain ⟨hresult, hpool⟩ := h.pool.request
    exact ⟨congrArg Reply.ofLedger hresult, h.with_pool hpool⟩
  | fetch t =>
    cases ht
    obtain ⟨hanswer, hpool⟩ := h.pool.fetch
    exact ⟨congrArg Reply.ofAnswer hanswer, h.with_pool hpool⟩
  | runQueue | dropQueue | newAllocator _ _ _ => cases ht
  | create name t ratio =>
    cases ht
    cases named
    simp only [Session.step]
    cases Config.ofRatio ratio with
    | error _ => exact ⟨rfl, h⟩
    | ok config => exact h.create config
  | buffer name use =>
    cases ht
    simp only [Session.step]
    rw [← h.buffer? rfl]
    cases hb : s.buffer? name with
    | none => exact ⟨rfl, h⟩
    | some found =>
      obtain ⟨id, b⟩ := found
      obtain ⟨hid, hb⟩ := buffer?_of_name hb
      rw [← h.left.names name id hid] at h ⊢
      exact h.bufferStep hb use
  | allocator name use =>
    simp only [Session.step]
    rcases h.allocator? name with ⟨ha, ha'⟩ | ⟨a, a', ha, ha', hs⟩
    · rw [ha, ha']
      exact ⟨rfl, h⟩
    · rw [ha, ha']
      exact h.allocatorStep ha ha' hs ht

/-- A step that names no tag leaves the two sessions alike. -/
theorem step_of_none (h : Alike owner tag s s') (ht : step.tag? owner = none) :
    Alike owner tag (s.step step).2 (s'.step step).2 := by
  cases step with
  | ledger _ | fetch _ | create _ _ _ | buffer _ _ => cases ht
  | runQueue => exact h.with_pool h.pool.runPending
  | dropQueue => exact h.with_pool h.pool.dropPending
  | newAllocator name ratio standard => exact h.newAllocator name ratio standard
  | allocator name use =>
    have still (s : Session) (a : Allocator) : (s.allocatorStep name a use).2 = s := by
      cases use with
      | get _ | warmUp _ | snapshot _ => cases ht
      | tags =>
        simp only [Session.allocatorStep]
        cases a.tags <;> rfl
      | info => rfl
    simp only [Session.step]
    rcases h.allocator? name with ⟨ha, ha'⟩ | ⟨a, a', ha, ha', -⟩
    · rw [ha, ha']
      exact h
    · rw [ha, ha']
      dsimp only
      rw [still, still]
      exact h

theorem snapshot? (h : Alike owner tag s s') (named : step.Names owner)
    (ht : step.tag? owner = some tag) : s.snapshot? step = s'.snapshot? step := by
  cases step with
  | ledger _ | fetch _ | runQueue | dropQueue | newAllocator _ _ _ => rfl
  | create name t ratio =>
    cases ht
    cases named
    exact congrArg (Option.map _) (h.buffer? rfl)
  | buffer name use =>
    cases ht
    exact congrArg (Option.map _) (h.buffer? rfl)
  | allocator name use =>
    have ht' : use.tag? = some tag := ht
    simp only [Session.snapshot?, ht', Option.bind_some]
    rcases h.allocator? name with ⟨ha, ha'⟩ | ⟨a, a', ha, ha', hs⟩
    · rw [ha, ha', Option.bind_none, Option.bind_none]
    · rw [ha, ha', Option.bind_some, Option.bind_some,
        Allocator.find?_alike h.pool (h.left.allocators name a ha) hs]

/-- What is seen of the tag is the same if steps for other tags are struck in one of the runs. -/
theorem sights {steps : List Step} (named : ∀ step ∈ steps, step.Names owner) :
    ∀ {s s' : Session}, Alike owner tag s s' →
      s.sights owner tag steps = s'.sights owner tag (steps.filter (·.keepsTo owner tag)) := by
  induction steps with
  | nil => exact fun _ => rfl
  | cons step rest ih =>
    intro s s' h
    have hstep := named step List.mem_cons_self
    have hrest {s s' : Session} (h : Alike owner tag s s') :=
      ih (fun step hmem => named step (List.mem_cons_of_mem _ hmem)) h
    by_cases ht : step.tag? owner = some tag
    · obtain ⟨hreply, hafter⟩ := h.step_of_eq hstep ht
      have hboundary : (s.step step).2.pool.store.ledger.boundary tag =
          (s'.step step).2.pool.store.ledger.boundary tag := by
        simp only [Ledger.boundary, hafter.pool.row]
      rw [List.filter_cons_of_pos (by simp [Step.keepsTo, ht])]
      simp only [Session.sights, if_pos ht]
      rw [hreply, hafter.snapshot? hstep ht, hboundary, hrest hafter]
    · simp only [Session.sights, if_neg ht]
      cases hnone : step.tag? owner with
      | none =>
        rw [List.filter_cons_of_pos (by simp [Step.keepsTo, hnone])]
        simp only [Session.sights, if_neg ht]
        exact hrest (h.step_of_none hnone)
      | some t =>
        have hne : t ≠ tag := fun he => ht (he ▸ hnone)
        rw [List.filter_cons_of_neg (by simp [Step.keepsTo, hnone, hne])]
        exact hrest (h.step_of_ne hstep hnone hne)

end Alike

/-! ## Runs -/

theorem tags_isolated (spawner : Spawner) (ledger : Ledger) (owner : String → String)
    (tag : String) (steps : List Step) (named : ∀ step ∈ steps, step.Names owner) :
    let s := Session.new spawner (.new ledger .free)
    s.sights owner tag (steps.filter (·.keepsTo owner tag)) = s.sights owner tag steps :=
  ((alike_new owner tag spawner ledger).sights named).symm

def mixedOwner (name : String) : String := if name = "x" then "a" else "b"

def mixedSteps : List Step :=
  [.ledger (.register "a" 10 2), .ledger (.register "b" 9223372036854775805 1),
    .ledger (.setStep "b" 0), .create "x" "a" none, .create "u" "b" none,
    .newAllocator "z" none false, .allocator "z" (.get "b"), .allocator "z" (.get "a"),
    .buffer "u" .next, .buffer "x" .next, .allocator "z" (.get "b"), .allocator "z" (.get "a"),
    .buffer "x" .next, .runQueue, .buffer "x" .next, .allocator "z" (.get "b"), .buffer "u" .next,
    .allocator "z" (.snapshot "a"), .allocator "z" (.get "a"), .dropQueue, .ledger (.boundary "a")]

/-- Each of two tags has a buffer and is used with one allocator, and prefetches of both wait in the
queue at once. The ids of one of the tags run out, which is not seen of the other. -/
theorem tags_isolated_exhausted :
    let s := Session.new .queueing (.new .empty .free)
    let kept := mixedSteps.filter (·.keepsTo mixedOwner "a")
    mixedSteps.length = 21 ∧ kept.length = 13 ∧
      (s.sights mixedOwner "a" kept).filterMap (·.reply.issue?.map (·.id)) =
        [13, 11, 14, 12, 17, 15] ∧
      s.sights mixedOwner "a" kept = s.sights mixedOwner "a" mixedSteps :=
  ⟨by decide, by decide, by decide +kernel,
    tags_isolated .queueing .empty mixedOwner "a" mixedSteps (by decide)⟩

end Session

end IdIssuer

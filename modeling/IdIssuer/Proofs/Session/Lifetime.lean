import IdIssuer.Proofs.Session.Failure
import IdIssuer.Proofs.Session.Flight
import IdIssuer.Proofs.Session.Holders

/-!
# One buffer per tag

As long as the store does not panic, an allocator has a buffer for a tag from the first use on for
which the store yields a valid segment, and has it for good. A first use that fails leaves the
allocator and all buffers as they were, so that the next use of the tag is a first use again; any
other use finds the buffer, which is changed by nothing but the ids that the allocator asks it for
and the prefetches that these have set off (`tags_lasting`).
-/

namespace IdIssuer

open Pool

/-- A table that has no key twice gets none twice. -/
theorem Table.nodup_keys_insert {α : Type} {table : Table α} (h : table.keys.Nodup) (key : String)
    (value : α) : (table.insert key value).keys.Nodup := by
  rw [keys_insert]
  split_ifs with hmem
  · exact h
  · rw [← List.concat_eq_append]
    exact h.concat hmem

namespace Allocator

variable {a : Allocator} {tag t : String} {p : Pool} {id : BufferId} {b : Buffer}
  {made : Outcome (BufferId × Buffer) × Allocator × Pool}

/-- The allocator can be used, and has no tag twice. -/
structure IsUsable (a : Allocator) : Prop where
  free : a.poisoned = false
  nodup : a.buffers.keys.Nodup

theorem isUsable_new (config : Config) (spawner : Spawner) : (new config spawner).IsUsable :=
  ⟨rfl, List.nodup_nil⟩

theorem IsUsable.buffer (h : a.IsUsable) (calm : p.store.script.IsCalm) (tag : String) :
    (a.buffer tag p).2.1.IsUsable := by
  have hopened := a.opened tag p
  generalize a.buffer tag p = made at hopened
  cases hopened with
  | locked | found | invalid | refused => exact h
  | created => exact ⟨h.free, Table.nodup_keys_insert h.nodup _ _⟩
  | @unwound call _ _ ha => exact absurd ha (Store.fetch_ne_panicked calm tag call)

/-- The tags that an allocator lists are those of its buffers. -/
theorem IsUsable.tags (h : a.IsUsable) : ∃ tags, a.tags = .ok tags ∧ tags.Nodup ∧
    ∀ tag, tag ∈ tags ↔ (a.buffers.get? tag).isSome := by
  refine ⟨a.buffers.keys.mergeSort (· ≤ ·), by simp [Allocator.tags, h.free], ?_, fun tag => ?_⟩
  · exact (List.mergeSort_perm _ _).nodup_iff.2 h.nodup
  · rw [List.mem_mergeSort, Table.mem_keys_iff]

/-- Using a tag gives it a buffer just if it has none and the store yields a valid segment. -/
theorem Opened.isSome_iff (h : a.Opened tag p made) (free : a.poisoned = false) :
    (made.2.1.buffers.get? t).isSome ↔ (a.buffers.get? t).isSome ∨
      t = tag ∧ a.find? tag p = none ∧
        ∃ g, (p.store.fetch tag).1 = .segment g ∧ g.isValid = true := by
  cases h with
  | locked hp => cases free.symm.trans hp
  | found hp hf => simp [hf]
  | @created g _ hp hf ha hv =>
    rw [Table.get?_insert]
    by_cases ht : tag = t
    · simp [ht.symm, hf, ha, hv]
    · simp [ht, Ne.symm ht]
  | invalid hp hf ha hv => simp [ha, hv]
  | refused hp hf ha | unwound hp hf ha => simp [ha]

theorem find?_buffer (h : (a.buffer tag p).1 = .done (id, b)) :
    (a.buffer tag p).2.1.find? tag (a.buffer tag p).2.2 = some (id, b) := by
  simp only [find?, (a.opened tag p).get?_buffers h, Option.bind_some, buffer?_buffer h,
    Option.map_some]

/-- What the store's answer makes of the first use of a tag. -/
theorem buffer_first (free : a.poisoned = false) (hf : a.find? tag p = none) :
    (∀ e, (p.store.fetch tag).1 = .failed e →
      a.buffer tag p = (.failed (.initialization tag e), a, (p.fetch tag).2)) ∧
    (∀ g, (p.store.fetch tag).1 = .segment g → g.isValid = false →
      a.buffer tag p = (.failed (.invalidSegment tag g.base g.max), a, (p.fetch tag).2)) ∧
    ∀ g, (p.store.fetch tag).1 = .segment g → g.isValid = true →
      ∃ id a' p', a.buffer tag p = (.done (id, .new tag a.config a.spawner g), a', p') ∧
        a'.poisoned = false ∧ p'.store = (p.store.fetch tag).2 := by
  have hopened := a.opened tag p
  generalize a.buffer tag p = made at hopened ⊢
  cases hopened with
  | locked hp => cases free.symm.trans hp
  | found _ hfound => cases hf.symm.trans hfound
  | created _ _ ha hv =>
    refine ⟨fun e he => ?_, fun g hg hv' => ?_, fun g hg _ => ?_⟩
    · cases ha.symm.trans he
    · cases ha.symm.trans hg
      cases hv.symm.trans hv'
    · cases ha.symm.trans hg
      exact ⟨_, _, _, rfl, free, rfl⟩
  | invalid _ _ ha hv =>
    refine ⟨fun e he => ?_, fun g hg _ => ?_, fun g hg hv' => ?_⟩
    · cases ha.symm.trans he
    · cases ha.symm.trans hg
      rfl
    · cases ha.symm.trans hg
      cases hv.symm.trans hv'
  | refused _ _ ha =>
    refine ⟨fun e he => ?_, fun g hg => ?_, fun g hg => ?_⟩
    · cases ha.symm.trans he
      rfl
    · cases ha.symm.trans hg
    · cases ha.symm.trans hg
  | unwound _ _ ha =>
    refine ⟨fun e he => ?_, fun g hg => ?_, fun g hg => ?_⟩
    · cases ha.symm.trans he
    · cases ha.symm.trans hg
    · cases ha.symm.trans hg

/-- A buffer that the allocator has stays where it is. -/
theorem Opened.get?_of_some (h : a.Opened tag p made)
    (there : ∀ t id, a.buffers.get? t = some id → (p.buffer? id).isSome)
    (hget : a.buffers.get? t = some id) : made.2.1.buffers.get? t = some id := by
  cases h with
  | locked | found | invalid | refused | unwound => exact hget
  | created hp hf =>
    have hne : tag ≠ t := by
      rintro rfl
      obtain ⟨b, hb⟩ := Option.isSome_iff_exists.1 (there tag id hget)
      simp [find?, hget, hb] at hf
    simp [hne, hget]

end Allocator

namespace Session

variable {s : Session} {step : Step} {steps : List Step} {name tag : String} {a a' : Allocator}
  {use : AllocatorStep} {id : BufferId} {b : Buffer}

/-! ## Tags -/

/-- An allocator is to use a tag that it has no buffer for, and the store yields a valid segment. -/
def Registers (name tag : String) (s : Session) (step : Step) : Prop :=
  ∃ a use g, s.allocators.get? name = some a ∧ step = .allocator name use ∧
    use.uses? = some tag ∧ a.find? tag s.pool = none ∧
    (s.pool.store.fetch tag).1 = .segment g ∧ g.isValid = true

/-- The allocator has a buffer for the tag. -/
def Has (name tag : String) (s : Session) : Prop :=
  ∃ a, s.allocators.get? name = some a ∧ (a.buffers.get? tag).isSome

theorem has_of (ha : s.allocators.get? name = some a) :
    s.Has name tag ↔ (a.buffers.get? tag).isSome := by
  simp only [Has, ha, Option.some.injEq, exists_eq_left']

/-- The buffers that an allocator has are there. -/
theorem isSome_find?_iff (hsep : s.IsSeparate) (ha : s.allocators.get? name = some a) :
    (a.find? tag s.pool).isSome ↔ (a.buffers.get? tag).isSome := by
  unfold Allocator.find?
  cases hget : a.buffers.get? tag with
  | none => simp
  | some id =>
    have hthere := hsep.there (.allocator name) id ⟨a, tag, ha, hget⟩
    simp [hthere]

/-- All allocators can be used. -/
def IsUsable (s : Session) : Prop := ∀ name a, s.allocators.get? name = some a → a.IsUsable

theorem isUsable_step (h : s.IsUsable) (calm : s.pool.store.script.IsCalm) (step : Step) :
    (s.step step).2.IsUsable := by
  intro name a' ha'
  rcases allocator_after ha' with ⟨config, spawner, rfl, -⟩ | ⟨a, ha, rfl | ⟨use, t, -, -, rfl⟩⟩
  · exact Allocator.isUsable_new config spawner
  · exact h name a' ha
  · exact (h name a ha).buffer calm t

theorem isUsable_run (h : s.IsUsable) (calm : s.pool.store.script.IsCalm) (steps : List Step) :
    (s.run steps).2.IsUsable := by
  induction steps generalizing s with
  | nil => exact h
  | cons step rest ih => exact ih (isUsable_step h calm step) (isCalm_step calm step)

theorem has_step (retains : s.Retains name step) (h : s.IsUsable) :
    (s.step step).2.Has name tag ↔ s.Has name tag ∨ s.Registers name tag step := by
  refine shows_step (P := s.Registers name tag) retains (fun _ _ => nofun) ?_ ?_
  · rintro ⟨a, use, g, ha, hstep, hu, -⟩
    exact ⟨a, use, tag, ha, hstep, hu⟩
  · rintro a use t ha rfl hu
    rw [(a.opened t s.pool).isSome_iff (h name a ha).free]
    refine or_congr_right ⟨?_, ?_⟩
    · rintro ⟨rfl, hf, g, hg, hv⟩
      exact ⟨a, use, g, ha, rfl, hu, hf, hg, hv⟩
    · rintro ⟨a', use', g, ha', hstep, hu', hf, hg, hv⟩
      cases ha.symm.trans ha'
      cases hstep
      cases hu.symm.trans hu'
      exact ⟨rfl, hf, g, hg, hv⟩

/-- An allocator has a buffer for the tags that it has been given one for, and for no others. -/
theorem has_run (retains : s.Along (Retains name) steps) (h : s.IsUsable)
    (calm : s.pool.store.script.IsCalm) :
    (s.run steps).2.Has name tag ↔ s.Has name tag ∨ s.Meets (Registers name tag) steps := by
  induction steps generalizing s with
  | nil => exact (or_iff_left id).symm
  | cons step rest ih =>
    refine (ih retains.2 (isUsable_step h calm step) (isCalm_step calm step)).trans ?_
    exact (or_congr_left (has_step retains.1 h)).trans or_assoc

/-! ## Buffers -/

/-- What a step does to the buffer that an allocator has for a tag. -/
inductive Develops (name tag : String) (s : Session) (b : Buffer) : Step → Buffer → Prop where
  | asked : Develops name tag s b (.allocator name (.get tag)) (b.next s.pool.store).buffer
  | resolved {queue b'} (h : queue = .runQueue ∨ queue = .dropQueue) (hr : Resolves b b') :
    Develops name tag s b queue b'
  | same {other} (h : other ≠ .allocator name (.get tag)) : Develops name tag s b other b

/-- An allocator that stays keeps the buffers that it has. -/
theorem get?_of_retains (hsep : s.IsSeparate) (retains : s.Retains name step)
    (ha : s.allocators.get? name = some a) :
    ∃ a', (s.step step).2.allocators.get? name = some a' ∧
      ∀ tag id, a.buffers.get? tag = some id → a'.buffers.get? tag = some id := by
  rcases s.allocator_cases step name with ⟨ratio, standard, rfl⟩ | ⟨use, rfl⟩ | ⟨-, hsame⟩
  · cases ha.symm.trans (retains rfl)
  · cases hu : use.uses? with
    | none => exact ⟨a, by rw [step_of_not_uses hu, ha], fun _ _ => id⟩
    | some t =>
      obtain ⟨moves, he, -⟩ := step_uses ha hu
      refine ⟨(a.buffer t s.pool).2.1, by simp only [he, Table.get?_insert, if_true], ?_⟩
      exact fun tag id => (a.opened t s.pool).get?_of_some
        fun t id hget => hsep.there (.allocator name) id ⟨a, t, ha, hget⟩
  · exact ⟨a, hsame.trans ha, fun _ _ => id⟩

/-- Past the queue, a buffer of an allocator is operated on only to issue an id of its tag. -/
theorem not_operated (hsep : s.IsSeparate) (ha : s.allocators.get? name = some a)
    (hid : a.buffers.get? tag = some id) (hget : step ≠ .allocator name (.get tag))
    (hqueue : ¬ (step = .runQueue ∨ step = .dropQueue)) (retains : s.Retains name step) {d : Deed}
    (hd : d ∈ s.pool.deeds (s.stepMoves step)) {op : Operation} :
    d.move.operation? d.pool ≠ some (id, op) := by
  intro hop
  have hentails := entails_of_mem hd
  have hmove : d.move = .operate id op := by
    cases hentails with
    | finish => exact absurd (.inl rfl) hqueue
    | drop h => exact absurd h hqueue
    | operate | asked =>
      cases hop
      rfl
    | request | fetch | create | opening | told => cases hop
  obtain ⟨holder, hholder, hknows⟩ := knows_of_operation hd hmove
  obtain ⟨a', ha', hkeeps⟩ := get?_of_retains hsep retains ha
  obtain rfl := (isSeparate_step hsep step).unique _ (.allocator name) _ hknows
    ⟨a', tag, ha', hkeeps tag id hid⟩
  cases step with
  | allocator name' use =>
    cases hholder
    obtain ⟨t, b, rfl, -, hopened, -⟩ := get_of_mem ha hd hmove
    have ht := ((hsep.filed name a ha).buffer t s.pool).2 id b hopened
    exact hget (by rw [← ht, hsep.filed name a ha tag id hid])
  | ledger | fetch | runQueue | dropQueue | create | buffer | newAllocator => cases hholder

theorem develops_step (hsep : s.IsSeparate) (waiting : s.pool.IsWaiting)
    (retains : s.Retains name step) (ha : s.allocators.get? name = some a)
    (free : a.poisoned = false) (hf : a.find? tag s.pool = some (id, b)) :
    ∃ b', (s.step step).2.pool.buffer? id = some b' ∧ s.Develops name tag b step b' := by
  obtain ⟨hid, hb⟩ := Allocator.find?_eq_some hf
  by_cases hget : step = .allocator name (.get tag)
  · subst hget
    refine ⟨_, ?_, .asked⟩
    simp only [Session.step, ha, allocatorStep, Allocator.get_of_find? free hf, Pool.next,
      buffer?_settle, if_true, hb, Option.map_some]
  by_cases hqueue : step = .runQueue ∨ step = .dropQueue
  · have hmoves : ∀ move ∈ s.stepMoves step, move = .finish ∨ move = .drop := by
      rcases hqueue with rfl | rfl
      · exact eq_of_mem_runMoves _ _
      · intro move h
        obtain ⟨_, -, rfl⟩ := List.mem_map.1 h
        exact .inr rfl
    rw [pool_step]
    rcases buffer?_resolved waiting hmoves hb with hsame | ⟨b', hb', hr⟩
    · exact ⟨b, hsame, .same hget⟩
    · exact ⟨b', hb', .resolved hqueue hr⟩
  · refine ⟨b, ?_, .same hget⟩
    rw [pool_step]
    exact buffer?_of_not_operated
      (fun d hd op => not_operated hsep ha hid hget hqueue retains hd) hb

/-! ## First uses -/

/-- How a step ends that is the first use of a tag, as far as the store yields no segment, or one
that is not valid, or a valid one. -/
structure FirstUse (tag : String) (s : Session) (a : Allocator) (use : AllocatorStep)
    (reply : Reply) (a' : Allocator) (s' : Session) : Prop where
  refused : ∀ e, (s.pool.store.fetch tag).1 = .failed e →
    reply = .failed (.initialization tag e) ∧ s' = { s with pool := (s.pool.fetch tag).2 }
  invalid : ∀ g, (s.pool.store.fetch tag).1 = .segment g → g.isValid = false →
    reply = .failed (.invalidSegment tag g.base g.max) ∧
      s' = { s with pool := (s.pool.fetch tag).2 }
  warmed : ∀ g, (s.pool.store.fetch tag).1 = .segment g → g.isValid = true →
    use = .warmUp tag → reply = .done ∧ s'.pool.store = (s.pool.store.fetch tag).2 ∧
      a'.snapshot tag s'.pool = .ok (some ⟨tag, g.base, g.max, g.step, g.base, false, false⟩)
  asked : ∀ g, (s.pool.store.fetch tag).1 = .segment g → g.isValid = true →
    use = .get tag →
      let turn := (Buffer.new tag a.config a.spawner g).next (s.pool.store.fetch tag).2
      ∃ id, reply = .ofOutcome .issued (turn.outcome.map (⟨id, ·⟩)) ∧
        s'.pool.store = turn.store ∧ a'.find? tag s'.pool = some (id, turn.buffer)

theorem firstUse_step (ha : s.allocators.get? name = some a) (free : a.poisoned = false)
    (hf : a.find? tag s.pool = none) (hu : use.uses? = some tag)
    (ha' : (s.step (.allocator name use)).2.allocators.get? name = some a') :
    FirstUse tag s a use (s.step (.allocator name use)).1 a' (s.step (.allocator name use)).2 := by
  obtain ⟨hrefused, hinvalid, hvalid⟩ := Allocator.buffer_first free hf
  have hsame (p : Pool) : { s with pool := p, allocators := s.allocators.insert name a } =
      { s with pool := p } := by rw [Table.insert_of_get? ha]
  have huse : use = .get tag ∨ use = .warmUp tag := by
    cases use <;> cases hu <;> simp
  refine ⟨fun e he => ?_, fun g hg hv => ?_, fun g hg hv hwarm => ?_, fun g hg hv hasked => ?_⟩
  · rcases huse with rfl | rfl <;>
      simp only [Session.step, ha, allocatorStep, Allocator.get, Allocator.warmUp, hrefused e he,
        hsame, and_true] <;> rfl
  · rcases huse with rfl | rfl <;>
      simp only [Session.step, ha, allocatorStep, Allocator.get, Allocator.warmUp,
        hinvalid g hg hv, hsame, and_true] <;> rfl
  · subst hwarm
    obtain ⟨id, a₁, p, hopened, hfree, hstore⟩ := hvalid g hg hv
    have hfound := Allocator.find?_buffer (congrArg Prod.fst hopened)
    have hposition := (Buffer.isFresh_fetch hg hv).position
    simp only [Session.step, ha, allocatorStep, Allocator.warmUp, hopened, Table.get?_insert,
      if_true, Option.some.injEq] at ha' hfound ⊢
    subst ha'
    refine ⟨rfl, hstore, ?_⟩
    simp only [Allocator.snapshot, hfree, Bool.false_eq_true, if_false, hfound, Option.map_some,
      Buffer.snapshot, Buffer.new, hposition]
  · subst hasked
    obtain ⟨id, a₁, p, hopened, -, hstore⟩ := hvalid g hg hv
    have hget := (a.opened tag s.pool).get?_buffers (congrArg Prod.fst hopened)
    have hb := Allocator.buffer?_buffer (congrArg Prod.fst hopened)
    have hreply := reply_get ha (congrArg Prod.fst hopened)
    rw [hopened, hstore] at hreply
    refine ⟨id, hreply, ?_⟩
    simp only [Session.step, ha, allocatorStep, Allocator.get, hopened, Table.get?_insert,
      if_true, Option.some.injEq, Pool.next] at ha' hget hb ⊢
    subst ha'
    refine ⟨by rw [hstore]; rfl, ?_⟩
    simp only [Allocator.find?, hget, Option.bind_some, buffer?_settle, if_true, hb,
      Option.map_some, hstore]

/-! ## Runs -/

/-- What a step does to an allocator and the buffers that it has. -/
structure Tends (name : String) (s : Session) (a : Allocator) (step : Step) (reply : Reply)
    (a' : Allocator) (s' : Session) : Prop where
  /-- Buffers stay. -/
  kept : ∀ tag id b, a.find? tag s.pool = some (id, b) →
    ∃ b', a'.find? tag s'.pool = some (id, b') ∧ s.Develops name tag b step b'
  /-- A tag that has a buffer is warm. -/
  warm : ∀ tag, step = .allocator name (.warmUp tag) → (a.find? tag s.pool).isSome →
    reply = .done ∧ s' = s
  first : ∀ use tag, step = .allocator name use → use.uses? = some tag →
    a.find? tag s.pool = none → FirstUse tag s a use reply a' s'

theorem tends_step (hsep : s.IsSeparate) (waiting : s.pool.IsWaiting) (usable : s.IsUsable)
    (retains : s.Retains name step) (ha : s.allocators.get? name = some a) :
    ∃ a', (s.step step).2.allocators.get? name = some a' ∧
      Tends name s a step (s.step step).1 a' (s.step step).2 := by
  have free := (usable name a ha).free
  obtain ⟨a', ha', hkeeps⟩ := get?_of_retains hsep retains ha
  refine ⟨a', ha', fun tag id b hf => ?_, ?_, ?_⟩
  · obtain ⟨b', hb', hdevelops⟩ := develops_step hsep waiting retains ha free hf
    refine ⟨b', ?_, hdevelops⟩
    simp only [Allocator.find?, hkeeps tag id (Allocator.find?_eq_some hf).1, Option.bind_some,
      hb', Option.map_some]
  · rintro tag rfl hsome
    obtain ⟨found, hf⟩ := Option.isSome_iff_exists.1 hsome
    have hopened : a.buffer tag s.pool = (.done found, a, s.pool) := by
      simp [Allocator.buffer, free, hf]
    simp only [Session.step, ha, allocatorStep, Allocator.warmUp, hopened,
      Table.insert_of_get? ha]
    exact ⟨rfl, trivial⟩
  · rintro use tag rfl hu hf
    exact firstUse_step ha free hf hu ha'

theorem tags_lasting (spawner : Spawner) (store : Store) (steps : List Step) (name : String)
    (calm : store.script.IsCalm)
    (retains : (Session.new spawner store).Along (Retains name) steps) :
    let s := Session.new spawner store
    ∀ past rest a, steps = past ++ rest → (s.run past).2.allocators.get? name = some a →
      (∃ tags, a.tags = .ok tags ∧ tags.Nodup ∧ ∀ tag,
        (tag ∈ tags ↔ (a.find? tag (s.run past).2.pool).isSome) ∧
        (tag ∈ tags ↔ s.Meets (Registers name tag) past)) ∧
      ∀ step later, rest = step :: later →
        ∃ a', ((s.run past).2.step step).2.allocators.get? name = some a' ∧
          Tends name (s.run past).2 a step ((s.run past).2.step step).1 a'
            ((s.run past).2.step step).2 := by
  intro s past rest a hsteps ha
  subst hsteps
  obtain ⟨hpast, hrest⟩ := along_append.1 retains
  have nobody (name : String) : s.allocators.get? name = none := Table.get?_empty name
  have husable : s.IsUsable := fun name a ha => by cases (nobody name).symm.trans ha
  have usable := isUsable_run husable calm past
  have hsep := isSeparate_run (isSeparate_new spawner store) past
  refine ⟨?_, fun step later hlater => ?_⟩
  · obtain ⟨tags, htags, hnodup, hmem⟩ := (usable name a ha).tags
    refine ⟨tags, htags, hnodup, fun tag => ⟨(hmem tag).trans ?_, (hmem tag).trans ?_⟩⟩
    · exact (isSome_find?_iff hsep ha).symm
    · have lacks : ¬ s.Has name tag := fun ⟨a, ha, _⟩ => by cases (nobody name).symm.trans ha
      rw [← has_of ha, has_run hpast husable calm, or_iff_right lacks]
  · subst hlater
    have waiting : (s.run past).2.pool.IsWaiting := by
      rw [pool_run]
      exact isWaiting_plays (fun _ => not_skips_of_mem_deeds) (isWaiting_new store)
    exact tends_step hsep waiting usable hrest.1 ha

def retryingScript : Script := fun call =>
  [.fail, .give 5 3 1, .give 0 1 1, .give 10 12 2, .give 1 3 2][call - 1]?

def retryingSteps : List Step :=
  [.newAllocator "z" none false, .allocator "z" (.warmUp "a"), .allocator "z" (.get "a"),
    .allocator "z" (.warmUp "a"), .allocator "z" (.warmUp "a"), .allocator "z" (.get "b"),
    .allocator "z" (.get "a"), .runQueue, .allocator "z" (.get "a")]

/-- A tag gets its buffer when it is used for the third time, after the store has failed and then
has yielded bounds that are out of order. The fourth use finds it warm. -/
theorem tags_lasting_retried :
    let s := blank .queueing retryingScript
    (s.run retryingSteps).1.filterMap Reply.error? =
      [.initialization "a" (.injected 1), .invalidSegment "a" 5 3] ∧
    s.issues retryingSteps = [⟨⟨"b", 0⟩, 11⟩, ⟨⟨"a", 0⟩, 1⟩, ⟨⟨"a", 0⟩, 2⟩] ∧
    ¬ s.Meets (Registers "z" "a") (retryingSteps.take 3) ∧
    s.Meets (Registers "z" "a") (retryingSteps.take 4) ∧
    ((s.run (retryingSteps.take 4)).2.step (.allocator "z" (.warmUp "a"))).2 =
      (s.run (retryingSteps.take 4)).2 := by
  intro s
  have calm : retryingScript.IsCalm := by
    intro call h
    have hmem := List.mem_of_getElem? h
    revert hmem
    decide
  have retains : s.Along (Retains "z") retryingSteps := by decide +kernel
  have hlasting :=
    tags_lasting .queueing (.new .empty retryingScript) retryingSteps "z" calm retains
  have known {past rest : List Step} (h : retryingSteps = past ++ rest) {found : Bool}
      (hfound : ((s.run past).2.allocators.get? "z").map
        (fun a => (a.find? "a" (s.run past).2.pool).isSome) = some found) :
      s.Meets (Registers "z" "a") past ↔ found = true := by
    obtain ⟨a, ha, rfl⟩ := Option.map_eq_some_iff.1 hfound
    obtain ⟨⟨tags, -, -, hmem⟩, -⟩ := hlasting past rest a h ha
    exact (hmem "a").2.symm.trans (hmem "a").1
  refine ⟨by decide +kernel, by decide +kernel, ?_, ?_, ?_⟩
  · have hlacks : s.Meets (Registers "z" "a") (retryingSteps.take 3) ↔ false = true :=
      known (List.take_append_drop 3 retryingSteps).symm (by decide +kernel)
    exact fun hmeets => Bool.false_ne_true (hlacks.1 hmeets)
  · have hhas : s.Meets (Registers "z" "a") (retryingSteps.take 4) ↔ true = true :=
      known (List.take_append_drop 4 retryingSteps).symm (by decide +kernel)
    exact hhas.2 rfl
  · have hfound : ((s.run (retryingSteps.take 4)).2.allocators.get? "z").map
        (fun a => (a.find? "a" (s.run (retryingSteps.take 4)).2.pool).isSome) = some true := by
      decide +kernel
    obtain ⟨a, ha, hsome⟩ := Option.map_eq_some_iff.1 hfound
    obtain ⟨a', -, htends⟩ := (hlasting (retryingSteps.take 4) (retryingSteps.drop 4) a rfl ha).2
      (.allocator "z" (.warmUp "a")) (retryingSteps.drop 5) rfl
    exact (htends.warm "a" rfl hsome).2

end Session

end IdIssuer

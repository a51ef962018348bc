import IdIssuer.Proofs.Session.Client

/-!
# One client counts

A tag that is left to one client is a counter: its ids are handed out one after the other from the
boundary with which the tag was registered, whatever the low-water mark, the spawner, the steps of
the reservations, the fate of the prefetches, and everything that happens to other tags. The client
is refused an id only when all ids reserved so far have been handed out and the store refuses to
reserve more, and then the next id that it gets is the one that it was refused.
-/

namespace IdIssuer

open Pool

/-- The step asks for an id of the tag. -/
def Step.asks (tag : String) (s : Session) : Step → Bool
  | .buffer name .next => (s.buffer? name).any (·.1.tag == tag)
  | .allocator name (.get t) => t == tag && (s.allocators.get? name).isSome
  | _ => false

namespace Session

/-- How a step that asks for an id is answered, if `last` is the last id handed out so far: with
the id that follows, unless nothing that is reserved is left and the call of the store that the
step makes is refused. -/
structure Continues (tag : String) (last : UInt64) (before : Session) (reply : Reply)
    (after : Session) : Prop where
  answered : reply = .issued ⟨⟨tag, 0⟩, last + 1⟩ ∨
    ∃ e, reply = .failed (.allocation tag e) ∧ before.pool.store.Refuses tag last e
  failed_iff : ∀ error, reply = .failed error ↔
    before.pool.store.ledger.boundary tag = .ok last ∧ ∃ e, error = .allocation tag e ∧
      after.pool.store.history = ⟨tag, .failed e⟩ :: before.pool.store.history

variable {c : Client} {tag : String} {s : Session} {step : Step} {steps : List Step}

/-! ## A step that asks for an id -/

theorem eq_of_buffer? {id : BufferId} {b b' : Buffer} (ht : id.tag = tag)
    (hb : s.pool.buffersOf tag = [b]) (hb' : s.pool.buffer? id = some b') :
    id = ⟨tag, 0⟩ ∧ b' = b := by
  subst ht
  obtain ⟨hindex, rfl⟩ := eq_of_buffersOf hb hb'
  exact ⟨by rw [← hindex], rfl⟩

/-- The step comes down to `next` on the buffer of the tag. -/
theorem step_of_asks {b : Buffer} (h : c.Serves tag s) (allowed : c.Allows tag s step)
    (asks : step.asks tag s = true) (hb : s.pool.buffersOf tag = [b]) :
    (s.step step).1 =
        .ofOutcome .issued ((b.next s.pool.store).outcome.map (⟨⟨tag, 0⟩, ·⟩)) ∧
      (s.step step).2.pool.store = (b.next s.pool.store).store := by
  cases step with
  | buffer name use =>
    cases use with
    | next =>
      obtain ⟨⟨id, b'⟩, hfound, ht⟩ := (Option.any_eq_true _ _).1 asks
      obtain ⟨rfl, rfl⟩ := eq_of_buffer? (beq_iff_eq.1 ht) hb (buffer?_of_name hfound).2
      simp only [Session.step, hfound, bufferStep]
      exact ⟨rfl, rfl⟩
    | check | snapshot | info | prefetch | stage | markReady | staged => cases asks
  | allocator name use =>
    cases use with
    | get t =>
      obtain ⟨ht, hsome⟩ := Bool.and_eq_true_iff.1 asks
      cases beq_iff_eq.1 ht
      obtain ⟨a, ha⟩ := Option.isSome_iff_exists.1 hsome
      have howns := h.owns name a (allowed rfl) ha
      obtain ⟨b', hfind, hb'⟩ := howns.find?_eq_some (by rw [hb]; exact List.cons_ne_nil _ _)
      obtain ⟨-, rfl⟩ := eq_of_buffer? rfl hb hb'
      simp only [Session.step, ha, allocatorStep, Allocator.get_of_find? howns.usable hfind]
      exact ⟨rfl, rfl⟩
    | warmUp | snapshot | tags | info => cases asks
  | ledger | fetch | runQueue | dropQueue | create | newAllocator => cases asks

theorem continues_step {b : Buffer} {m : UInt64} (free : s.pool.store.script.GivesNothing)
    (calm : s.pool.store.script.IsCalm) (h : c.Serves tag s) (allowed : c.Allows tag s step)
    (asks : step.asks tag s = true) (hb : s.pool.buffersOf tag = [b]) (ht : b.tag = tag)
    (hl : b.Lined m) (hs : s.pool.store.Stands tag m) (room : b.HasRoom) :
    Continues tag b.current.position s (s.step step).1 (s.step step).2 := by
  obtain ⟨hreply, hstore⟩ := step_of_asks h allowed asks hb
  have hboundary := hs.boundary
  subst ht
  rcases Buffer.next_answers free calm hl hs room with
    ⟨hdone, hyields⟩ | ⟨e, hfailed, hm, hrefuses, hhistory⟩
  · rw [hdone] at hreply
    refine ⟨.inl hreply, fun error => ⟨fun hfailed => ?_, ?_⟩⟩
    · cases hreply.symm.trans hfailed
    · rintro ⟨hlast, e, -, hhistory⟩
      cases hboundary.symm.trans hlast
      obtain ⟨g, hyield⟩ := hyields rfl
      rw [hstore, hyield] at hhistory
      cases hhistory
  · subst hm
    rw [hfailed] at hreply
    refine ⟨.inr ⟨e, hreply, hrefuses⟩, fun error => ⟨fun hfailed => ?_, ?_⟩⟩
    · cases hreply.symm.trans hfailed
      exact ⟨hboundary, e, rfl, by rw [hstore, hhistory]⟩
    · rintro ⟨-, e', rfl, hhistory'⟩
      rw [hstore, hhistory] at hhistory'
      cases hhistory'
      exact hreply

/-! ## Runs -/

theorem serves_blank (c : Client) (tag : String) (spawner : Spawner) (script : Script) :
    c.Serves tag (blank spawner script) := ⟨nofun, fun _ _ _ => rfl⟩

variable {spawner : Spawner} {script : Script}

section

variable (free : script.GivesNothing) (calm : script.IsCalm)
  (allowed : (blank spawner script).Along (c.Allows tag) steps)
  (few : calls ⟨tag, 0⟩ ((blank spawner script).deeds steps) < 2 ^ 62)

include calm allowed few

theorem room_run {b : Buffer}
    (hb : ((blank spawner script).run steps).2.pool.buffer? ⟨tag, 0⟩ = some b) : b.HasRoom := by
  have exclusive := exclusive_of_allowed (serves_blank c tag spawner script) allowed calm
  rw [pool_run] at hb
  have fair : IsFair ⟨tag, 0⟩ ((blank spawner script).deeds steps) :=
    isFair_of_orderly (fun d hd => (exclusive d hd).isOrderly) rfl
  exact (sound_plays fair few rfl).hasRoom few hb

include free

theorem counted_run :
    Counted tag ((blank spawner script).run steps).2.pool
      (origins tag ((blank spawner script).deeds steps))
      (idsOf tag ((blank spawner script).issues steps)) := by
  have exclusive := exclusive_of_allowed (serves_blank c tag spawner script) allowed calm
  rw [pool_run, issues_eq]
  exact counted_plays free calm exclusive (fun _ => not_skips_of_mem_deeds) few (isFiled_new _)
    (isWaiting_new _) (.unregistered rfl rfl)

/-- After the run, the client is answered as from a counter that stands at the last id of those
handed out. -/
theorem continues_run {m₀ : UInt64}
    (registered : ∀ m ∈ origins tag ((blank spawner script).deeds steps), m = m₀)
    (hstep : c.Allows tag ((blank spawner script).run steps).2 step)
    (asks : step.asks tag ((blank spawner script).run steps).2 = true)
    (hb : ((blank spawner script).run steps).2.pool.buffersOf tag ≠ []) :
    Continues tag (m₀ + .ofNat (idsOf tag ((blank spawner script).issues steps)).length)
      ((blank spawner script).run steps).2 (((blank spawner script).run steps).2.step step).1
      (((blank spawner script).run steps).2.step step).2 := by
  have hcounted := counted_run free calm allowed few
  have hroom (b) := room_run calm allowed few (b := b)
  have hserves := serves_run (serves_blank c tag spawner script) allowed calm
  have hscript := script_run (blank spawner script) steps
  generalize origins tag ((blank spawner script).deeds steps) = origin at hcounted registered
  generalize idsOf tag ((blank spawner script).issues steps) = ids at hcounted ⊢
  generalize ((blank spawner script).run steps).2 = s at *
  cases hcounted with
  | unregistered _ hnil | unused _ hnil => exact absurd hnil hb
  | @counting m₁ m b hs hb' ht hl hle =>
    cases registered m₁ List.mem_cons_self
    rw [Segment.add_length_between hle]
    exact continues_step (hscript ▸ free) (hscript ▸ calm) hserves hstep asks hb' ht hl hs
      (hroom b (by rw [Pool.buffer?, hb']; rfl))

theorem numbered_run {m₀ : UInt64}
    (registered : m₀ ∈ origins tag ((blank spawner script).deeds steps)) :
    (idsOf tag ((blank spawner script).issues steps)).map UInt64.toNat =
      List.range' (m₀.toNat + 1) (idsOf tag ((blank spawner script).issues steps)).length := by
  have hcounted := counted_run free calm allowed few
  generalize idsOf tag ((blank spawner script).issues steps) = ids at hcounted
  generalize origins tag ((blank spawner script).deeds steps) = origin at hcounted registered
  cases hcounted with
  | unregistered => cases registered
  | unused => rfl
  | counting hs hb ht hl hle =>
    cases List.mem_singleton.1 registered
    exact Segment.map_toNat_between _ _

end

theorem ids_counted (spawner : Spawner) (script : Script) (steps : List Step) (c : Client)
    (tag : String) (m₀ : UInt64) (free : script.GivesNothing) (calm : script.IsCalm)
    (allowed : (blank spawner script).Along (c.Allows tag) steps)
    (registered : m₀ ∈ origins tag ((blank spawner script).deeds steps))
    (few : calls ⟨tag, 0⟩ ((blank spawner script).deeds steps) < 2 ^ 62) :
    let s := blank spawner script
    (idsOf tag (s.issues steps)).map UInt64.toNat =
        List.range' (m₀.toNat + 1) (idsOf tag (s.issues steps)).length ∧
      ∀ past step rest, steps = past ++ step :: rest → step.asks tag (s.run past).2 = true →
        (s.run past).2.pool.buffersOf tag ≠ [] →
        Continues tag (m₀ + .ofNat (idsOf tag (s.issues past)).length) (s.run past).2
          ((s.run past).2.step step).1 ((s.run past).2.step step).2 := by
  intro s
  refine ⟨numbered_run free calm allowed few registered, fun past step rest hsteps asks hb => ?_⟩
  subst hsteps
  obtain ⟨hpast, hstep, -⟩ := along_append.1 allowed
  have hdeeds : s.deeds past <+: s.deeds (past ++ step :: rest) := by
    rw [s.deeds_append]
    exact List.prefix_append _ _
  refine continues_run free calm hpast (Nat.lt_of_le_of_lt (calls_le hdeeds _) few) ?_ hstep asks hb
  intro m hm
  exact (counted_run free calm allowed few).eq_of_mem ((hdeeds.filterMap _).subset hm) registered

def limitScript : Script := fun call => if call = 3 ∨ call = 4 then some .fail else none

def limitSteps : List Step :=
  [.ledger (.register "a" 9223372036854775802 2), .ledger (.register "b" 0 2),
    .newAllocator "z" none false, .allocator "z" (.get "a"), .allocator "z" (.get "b"),
    .allocator "z" (.get "a"), .runQueue, .allocator "z" (.get "a"),
    .ledger (.setStep "a" 3), .allocator "z" (.get "a"), .dropQueue, .allocator "z" (.get "a"),
    .allocator "z" (.get "a"), .allocator "z" (.get "a")]

/-- An allocator counts up to the largest id of all. On the way a prefetch fails, and then the call
that a caller waits for, who is refused the third id. -/
theorem ids_counted_to_limit :
    let s := blank .queueing limitScript
    (idsOf "a" (s.issues limitSteps)).map UInt64.toNat = List.range' 9223372036854775803 5 ∧
      ((s.run (limitSteps.take 7)).2.step (.allocator "z" (.get "a"))).1 =
        .failed (.allocation "a" (.injected 4)) := by
  intro s
  have free : limitScript.GivesNothing := by
    intro call base max step
    unfold limitScript
    split_ifs <;> simp
  have calm : limitScript.IsCalm := by
    intro call
    unfold limitScript
    split_ifs <;> simp
  have allowed : s.Along ((Client.allocator "z").Allows "a") limitSteps := by decide +kernel
  have registered : 9223372036854775802 ∈ origins "a" (s.deeds limitSteps) := by decide +kernel
  have few : calls ⟨"a", 0⟩ (s.deeds limitSteps) < 2 ^ 62 := by decide +kernel
  obtain ⟨hids, hcontinues⟩ :=
    ids_counted .queueing limitScript limitSteps (.allocator "z") "a" 9223372036854775802 free calm
      allowed registered few
  have hlength : (idsOf "a" (s.issues limitSteps)).length = 5 := by decide +kernel
  have hthird := hcontinues (limitSteps.take 7) (.allocator "z" (.get "a")) (limitSteps.drop 8) rfl
    (by decide +kernel) (by decide +kernel)
  refine ⟨by rw [hids, hlength]; rfl, (hthird.failed_iff _).2 ⟨?_, .injected 4, rfl, ?_⟩⟩
  · decide +kernel
  · decide +kernel

end Session

end IdIssuer

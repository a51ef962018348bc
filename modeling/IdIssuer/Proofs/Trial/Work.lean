import IdIssuer.Proofs.Pool.Conservation
import IdIssuer.Proofs.Trial.Start
import Mathlib.Algebra.Order.BigOperators.Group.List

/-!
# The work of a trial

As long as no worker has failed, the workers together hold the ids that the books say have been
handed out, and each of them has taken its turns so far (`State.Works`). One move either keeps that
so or lets a worker fail, and then the plan does not fit (`State.Works.move`). A worker that has
failed stays so.
-/

namespace IdIssuer

open Pool

theorem perm_flatMap_set {α β : Type} {l : List α} {i : ℕ} {a a' : α} (h : l[i]? = some a)
    (f : α → List β) {new : List β} (hf : f a' = new ++ f a) :
    ((l.set i a').flatMap f).Perm (new ++ l.flatMap f) := by
  induction l generalizing i with
  | nil => cases h
  | cons x rest ih =>
    cases i with
    | zero =>
      cases h
      rw [List.set_cons_zero, List.flatMap_cons, hf, List.flatMap_cons, List.append_assoc]
    | succ i =>
      have hrest := ih (i := i) h
      rw [List.set_cons_succ, List.flatMap_cons, List.flatMap_cons]
      exact (hrest.append_left (f x)).trans (List.perm_append_comm_assoc _ _ _)

namespace Trial

variable {plan : Plan}

/-! ## One worker -/

namespace Worker

/-- The worker has taken its turns so far, and got an id in each above the ones before. -/
structure Follows (w : Worker) (plan : Plan) : Prop where
  calm : w.error = none
  le : w.done ≤ plan.idsPerWorker.toNat
  lengths : ∀ place tag, plan.tags[place]? = some tag →
    (w.idsOf tag).length = turns plan.tags.length place w.done
  sorted : ∀ tag, (w.idsOf tag).Pairwise (· > ·)

variable {w : Worker} {tag : String} {id : UInt64}

theorem follows_new : new.Follows plan :=
  ⟨rfl, Nat.zero_le _, fun _ _ _ => rfl, fun _ => .nil⟩

/-- With one id more, or one that it must not get, a worker has finished or goes on. -/
theorem take_cases (w : Worker) (number : ℕ) (tag : String) (id : UInt64) :
    (w.take number tag id).error ≠ none ∨
      (w.take number tag id).error = w.error ∧ (w.take number tag id).done = w.done + 1 := by
  unfold take
  cases w.idsOf tag with
  | nil => exact .inr ⟨rfl, rfl⟩
  | cons last rest =>
    by_cases hle : id ≤ last
    · simp [hle]
    · simp [hle]

/-- An id that rises above the ones before is taken. -/
theorem take_of_lt (number : ℕ) (hnew : ∀ n ∈ w.idsOf tag, n < id) :
    w.take number tag id = { w with
      done := w.done + 1, ids := w.ids.insert tag (id :: w.idsOf tag) } := by
  unfold take
  cases hids : w.idsOf tag with
  | nil => rfl
  | cons last rest =>
    have hlast : ¬ id ≤ last := by
      rw [UInt64.not_le]
      exact hnew last (hids ▸ List.mem_cons_self)
    dsimp only
    rw [if_neg hlast]

theorem idsOf_take (number : ℕ) (hnew : ∀ n ∈ w.idsOf tag, n < id) (t : String) :
    (w.take number tag id).idsOf t = (if tag = t then [id] else []) ++ w.idsOf t := by
  rw [take_of_lt number hnew, idsOf, Table.get?_insert]
  by_cases ht : tag = t
  · subst ht
    rw [if_pos rfl, if_pos rfl]
    rfl
  · rw [if_neg ht, if_neg ht]
    rfl

theorem Follows.take (h : w.Follows plan) (distinct : plan.tags.Nodup) (number : ℕ)
    (hlt : w.done < plan.idsPerWorker.toNat)
    (htag : plan.tags[w.done % plan.tags.length]? = some tag)
    (hnew : ∀ n ∈ w.idsOf tag, n < id) : (w.take number tag id).Follows plan := by
  have htake := take_of_lt number hnew
  refine ⟨by rw [htake]; exact h.calm, by rw [htake]; exact hlt, fun place t ht => ?_,
    fun t => ?_⟩
  · have hplace : tag = t ↔ w.done % plan.tags.length = place := by
      constructor
      · rintro rfl
        obtain ⟨hlength, -⟩ := List.getElem?_eq_some_iff.1 ht
        exact ((List.getElem?_inj hlength distinct).1 (ht.trans htag.symm)).symm
      · rintro rfl
        cases htag.symm.trans ht
        rfl
    rw [idsOf_take number hnew, List.length_append, h.lengths place t ht, htake, turns_succ,
      Nat.add_comm]
    simp only [hplace]
    split_ifs <;> rfl
  · rw [idsOf_take number hnew]
    by_cases ht : tag = t
    · subst ht
      rw [if_pos rfl]
      exact List.pairwise_cons.2 ⟨hnew, h.sorted tag⟩
    · rw [if_neg ht]
      exact h.sorted t

end Worker

/-! ## All workers -/

namespace State

/-- The workers have taken their turns so far, and hold what has been handed out. -/
structure Works (s : State) (ids : String → List UInt64) : Prop where
  sound : s.plan.IsSound
  number : s.workers.length = s.plan.workers.toNat
  books : Books s.plan.tags s.plan.step.toNat s.pool ids
  serves : s.allocator.Serves s.plan.tags s.pool
  follows : ∀ w ∈ s.workers, w.Follows s.plan
  shared : ∀ tag ∈ s.plan.tags, (s.workers.flatMap (·.idsOf tag)).Perm (ids tag)

/-- A worker has stopped before it had all its ids. -/
def HasFailed (s : State) : Prop := ∃ w ∈ s.workers, w.error ≠ none

variable {s : State} {ids : String → List UInt64} {w : Worker} {tag : String}

theorem active?_eq_some {number : ℕ} (h : s.active? number = some w) :
    s.workers[number]? = some w ∧ w.error = none ∧ w.done < s.plan.idsPerWorker.toNat := by
  obtain ⟨hw, hactive⟩ := Option.filter_eq_some_iff.1 h
  rw [Bool.and_eq_true, Option.isNone_iff_eq_none, decide_eq_true_eq] at hactive
  exact ⟨hw, hactive⟩

theorem tagAt?_eq_some (hpos : 0 < s.plan.tags.length) (done : ℕ) :
    ∃ tag, s.tagAt? done = some tag ∧
      s.plan.tags[done % s.plan.tags.length]? = some tag ∧ tag ∈ s.plan.tags :=
  ⟨_, List.getElem?_eq_getElem (Nat.mod_lt done hpos), List.getElem?_eq_getElem _,
    List.getElem_mem _⟩

/-- As long as a worker has an id to ask for, the tag has not met its demand. -/
theorem Works.length_lt (h : s.Works ids) {number : ℕ} (hw : s.workers[number]? = some w)
    (hlt : w.done < s.plan.idsPerWorker.toNat)
    (htag : s.plan.tags[w.done % s.plan.tags.length]? = some tag) :
    (ids tag).length < s.plan.demand (w.done % s.plan.tags.length) := by
  let place := w.done % s.plan.tags.length
  let most := turns s.plan.tags.length place s.plan.idsPerWorker.toNat
  have hlength (w' : Worker) (hw' : w' ∈ s.workers) :
      (w'.idsOf tag).length = turns s.plan.tags.length place w'.done :=
    (h.follows w' hw').lengths place tag htag
  have hsum : (s.workers.map fun w' => (w'.idsOf tag).length).sum <
      (s.workers.map fun _ => most).sum := by
    apply List.sum_lt_sum
    · intro w' hw'
      rw [hlength w' hw']
      exact turns_mono _ _ (h.follows w' hw').le
    · refine ⟨w, List.mem_of_getElem? hw, ?_⟩
      have hsucc := turns_mono s.plan.tags.length place (Nat.succ_le_of_lt hlt)
      rw [Nat.succ_eq_add_one, turns_succ, if_pos rfl] at hsucc
      rw [hlength w (List.mem_of_getElem? hw)]
      exact hsucc
  have hall : (ids tag).length = (s.workers.map fun w' => (w'.idsOf tag).length).sum := by
    rw [← (h.shared tag (List.mem_of_getElem? htag)).length_eq, List.length_flatMap]
  rw [hall]
  rwa [List.map_const', List.sum_replicate, h.number, smul_eq_mul] at hsum

/-- What a worker holds of a tag lies below what comes next. -/
theorem Works.lt_of_mem (h : s.Works ids) (htag : tag ∈ s.plan.tags) {top : UInt64}
    (hids : ids tag = Segment.between 0 top) (htop : top.toNat ≤ idLimit.toNat)
    (hw : w ∈ s.workers) {n : UInt64} (hn : n ∈ w.idsOf tag) : n < top + 1 := by
  have hmem : n ∈ ids tag :=
    (h.shared tag htag).subset (List.mem_flatMap.2 ⟨w, hw, hn⟩)
  rw [hids, Segment.mem_between] at hmem
  have hnext : (top + 1).toNat = top.toNat + 1 := by
    rw [Segment.toNat_idLimit] at htop
    rw [UInt64.toNat_add]
    exact Nat.mod_eq_of_lt (by show top.toNat + 1 < 2 ^ 64; omega)
  have hle := hmem.2
  rw [UInt64.le_iff_toNat_le] at hle
  rw [UInt64.lt_iff_toNat_lt, hnext]
  omega

/-- What a call of a worker comes to. -/
theorem call_of_active {number : ℕ} {b : Buffer} (h : s.active? number = some w)
    (htag : s.tagAt? w.done = some tag) (usable : s.allocator.poisoned = false)
    (hfind : s.allocator.find? tag s.pool = some (⟨tag, 0⟩, b))
    (hb : s.pool.buffer? ⟨tag, 0⟩ = some b) :
    s.call number = { s with
      pool := s.pool.play (.operate ⟨tag, 0⟩ .next)
      workers := s.workers.set number
        (match (b.next s.pool.store).outcome with
          | .done id => w.take number tag id
          | .failed error => { w with error := some (.allocation number tag error) }
          | .panicked _ => { w with error := some .panicked }) } := by
  have hget := Allocator.get_of_find? usable hfind
  have hpool : (s.pool.next ⟨tag, 0⟩ b).2 = s.pool.play (.operate ⟨tag, 0⟩ .next) :=
    (next_eq hb).1
  unfold call
  simp only [h, htag, hget, hpool]
  simp only [Pool.next]
  cases (b.next s.pool.store).outcome <;> rfl

/-- A worker that gets the id that follows has taken one turn more. -/
theorem Works.served (h : s.Works ids) {number : ℕ} {b : Buffer} {top : UInt64}
    (hactive : s.active? number = some w)
    (htag : s.plan.tags[w.done % s.plan.tags.length]? = some tag)
    (hb : s.pool.buffer? ⟨tag, 0⟩ = some b) (hids : ids tag = Segment.between 0 top)
    (htop : top.toNat ≤ idLimit.toNat) (hdone : (b.next s.pool.store).outcome = .done (top + 1)) :
    State.Works { s with
      pool := s.pool.play (.operate ⟨tag, 0⟩ .next)
      workers := s.workers.set number (w.take number tag (top + 1)) }
      fun t => ids t ++ if tag = t then [top + 1] else [] := by
  obtain ⟨hw, -, hlt⟩ := active?_eq_some hactive
  have hmem : w ∈ s.workers := List.mem_of_getElem? hw
  have hnew : ∀ n ∈ w.idsOf tag, n < top + 1 :=
    fun n hn => h.lt_of_mem (List.mem_of_getElem? htag) hids htop hmem hn
  refine ⟨h.sound, (List.length_set ..).trans h.number, h.books.answered hb hdone,
    h.serves.play (.operate ⟨tag, 0⟩ .next), fun w' hw' => ?_, fun t ht => ?_⟩
  · rcases List.mem_or_eq_of_mem_set hw' with hw' | rfl
    · exact h.follows w' hw'
    · exact (h.follows w hmem).take h.sound.distinct number hlt htag hnew
  · have htake := perm_flatMap_set hw (fun w' => w'.idsOf t) (Worker.idsOf_take number hnew t)
    refine htake.trans (((h.shared t ht).append_left _).trans ?_)
    exact List.perm_append_comm

/-- If a worker asks for an id that takes a reservation too many, the plan does not fit. -/
theorem Works.not_fits (h : s.Works ids) {number : ℕ} (hactive : s.active? number = some w)
    (htag : s.plan.tags[w.done % s.plan.tags.length]? = some tag)
    (hfull : idLimit.toNat <
      segmentsFor ((ids tag).length + 1) s.plan.step.toNat * s.plan.step.toNat) :
    ¬ s.plan.Fits := by
  obtain ⟨hw, -, hlt⟩ := active?_eq_some hactive
  intro fits
  have hroom := (Plan.fits_iff h.sound).1 fits _ (Nat.mod_lt w.done h.sound.length_pos)
  have hmore : (ids tag).length + 1 ≤ s.plan.demand (w.done % s.plan.tags.length) :=
    h.length_lt hw hlt htag
  have hmono := Nat.mul_le_mul_right s.plan.step.toNat (segmentsFor_mono s.plan.step.toNat hmore)
  omega

theorem Works.call (h : s.Works ids) (number : ℕ) :
    (∃ ids', (s.call number).Works ids') ∨ (s.call number).HasFailed ∧ ¬ s.plan.Fits := by
  cases hactive : s.active? number with
  | none =>
    have hsame : s.call number = s := by unfold State.call; rw [hactive]
    rw [hsame]
    exact .inl ⟨ids, h⟩
  | some w =>
    obtain ⟨tag, hat, hplace, htag⟩ := tagAt?_eq_some h.sound.length_pos w.done
    obtain ⟨b, hb, hfind⟩ := h.serves.find? htag
    rw [call_of_active hactive hat h.serves.usable hfind hb]
    rcases h.books.next h.sound.step htag hb with ⟨top, hids, htop, hdone⟩ | ⟨⟨e, hfailed⟩, hfull⟩
    · rw [hdone]
      exact .inl ⟨_, h.served hactive hplace hb hids htop hdone⟩
    · rw [hfailed]
      obtain ⟨hnumber, -⟩ := List.getElem?_eq_some_iff.1 (active?_eq_some hactive).1
      exact .inr ⟨⟨_, List.mem_set hnumber _, Option.some_ne_none _⟩,
        h.not_fits hactive hplace hfull⟩

theorem Works.prefetch (h : s.Works ids) (place : ℕ) : (s.prefetch place).Works ids := by
  refine ⟨h.sound, h.number, h.books.runOne place, ?_, h.follows, h.shared⟩
  show s.allocator.Serves s.plan.tags (s.pool.runOne place)
  rcases runOne_cases s.pool place with he | ⟨pending, -, he⟩
  · rw [he]
    exact h.serves
  · have hserves : s.allocator.Serves s.plan.tags { s.pool with pending } :=
      ⟨h.serves.usable, h.serves.known⟩
    rw [he]
    exact hserves.play .finish

/-! ## Schedules -/

/-- A call that is made fails the worker, or brings it one turn further. -/
theorem call_cases (s : State) (number : ℕ) :
    s.call number = s ∧ (s.active? number = none ∨ s.plan.tags = []) ∨
    ∃ w w' allocator pool, s.active? number = some w ∧
      (w'.error ≠ none ∨ w'.error = none ∧ w'.done = w.done + 1) ∧
      s.call number = { s with allocator, pool, workers := s.workers.set number w' } := by
  cases hactive : s.active? number with
  | none =>
    refine .inl ⟨?_, .inl rfl⟩
    unfold call
    rw [hactive]
  | some w =>
    cases hat : s.tagAt? w.done with
    | none =>
      refine .inl ⟨?_, .inr ?_⟩
      · unfold call
        simp only [hactive, hat]
      · by_contra htags
        obtain ⟨tag, htag, -⟩ := tagAt?_eq_some (List.length_pos_iff.2 htags) w.done
        cases hat.symm.trans htag
    | some tag =>
      right
      unfold call
      simp only [hactive, hat]
      generalize s.allocator.get tag s.pool = got
      obtain ⟨outcome, allocator, pool⟩ := got
      refine ⟨w, _, allocator, pool, rfl, ?_, rfl⟩
      cases outcome with
      | done issue =>
        have htake := w.take_cases number tag issue.id
        rw [(active?_eq_some hactive).2.1] at htake
        exact htake
      | failed _ | panicked _ => exact .inl nofun

theorem plan_move (s : State) (move : Move) : (s.move move).plan = s.plan := by
  cases move with
  | call number =>
    show (s.call number).plan = s.plan
    rcases s.call_cases number with ⟨he, -⟩ | ⟨w, w', allocator, pool, -, -, he⟩ <;> rw [he]
  | prefetch place => rfl

/-- A worker that has failed makes no call, and is not touched by those of others. -/
theorem HasFailed.move (h : s.HasFailed) (move : Move) : (s.move move).HasFailed := by
  cases move with
  | prefetch place => exact h
  | call number =>
    show (s.call number).HasFailed
    rcases s.call_cases number with ⟨he, -⟩ | ⟨w', w'', allocator, pool, hactive, -, he⟩
    · rwa [he]
    · obtain ⟨w, hw, hfailed⟩ := h
      obtain ⟨place, hplace⟩ := List.mem_iff_getElem?.1 hw
      obtain ⟨hw', hcalm, -⟩ := active?_eq_some hactive
      have hne : number ≠ place := by
        rintro rfl
        cases hplace.symm.trans hw'
        exact hfailed hcalm
      rw [he]
      refine ⟨w, List.mem_iff_getElem?.2 ⟨place, ?_⟩, hfailed⟩
      exact (List.getElem?_set_ne hne).trans hplace

theorem Works.move (h : s.Works ids) (move : Move) :
    (∃ ids', (s.move move).Works ids') ∨ (s.move move).HasFailed ∧ ¬ s.plan.Fits := by
  cases move with
  | call number => exact h.call number
  | prefetch place => exact .inl ⟨ids, h.prefetch place⟩

theorem HasFailed.play (h : s.HasFailed) (schedule : List Move) : (s.play schedule).HasFailed := by
  induction schedule generalizing s with
  | nil => exact h
  | cons move rest ih => exact ih (h.move move)

/-- Whatever the schedule, the workers go on, or one of them fails and the plan does not fit. -/
theorem Works.play (h : s.Works ids) (schedule : List Move) :
    (∃ ids', (s.play schedule).Works ids') ∨ (s.play schedule).HasFailed ∧ ¬ s.plan.Fits := by
  induction schedule generalizing s ids with
  | nil => exact .inl ⟨ids, h⟩
  | cons move rest ih =>
    rcases h.move move with ⟨ids', hworks⟩ | ⟨hfailed, hfits⟩
    · have hrest := ih hworks
      rw [plan_move] at hrest
      exact hrest
    · exact .inr ⟨hfailed.play rest, hfits⟩

end State

end Trial

end IdIssuer

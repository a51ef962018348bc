import IdIssuer.Proofs.Trial.Collect
import IdIssuer.Proofs.Trial.Schedule
import Mathlib.Data.List.Forall2

/-!
# How a trial ends

A trial of any plan that arguments make ends in one of two ways, whatever the order of the calls and
whenever prefetches run. If every tag has room for the reservations that its demand takes, every
worker gets all its ids, each tag is issued the ids from one up to its demand once each, and the
report says so. If one has not, the trial ends in an error, which is never that a tag cannot be
registered or is lost (`trial_correct`).
-/

namespace IdIssuer

open Pool

namespace Trial

/-- The trial may end with these workers and this result: it is refused at the start, or any
schedule has been played that leaves nobody with a call to make. -/
inductive Ends (plan : Plan) : List Worker → Except RunError Report → Prop where
  | refused {error} (h : start plan = .error error) : Ends plan [] (.error error)
  | finished {s} (h : start plan = .ok s) (schedule : List Move)
    (idle : (s.play schedule).IsIdle) :
    Ends plan (s.play schedule).workers ((s.play schedule).report s.pool.store.ledger.fetches)

/-- The workers got all that the plan asks for, each of them rising ids of every tag, and all of
them together the ids from one up to the demand. -/
structure Plan.IsMetBy (p : Plan) (workers : List Worker) : Prop where
  number : workers.length = p.workers.toNat
  finished : ∀ w ∈ workers, w.error = none ∧ w.done = p.idsPerWorker.toNat
  rising : ∀ w ∈ workers, ∀ tag, (w.idsOf tag).reverse.Pairwise (· < ·)
  shared : ∀ place tag, p.tags[place]? = some tag →
    (workers.flatMap (·.idsOf tag)).Perm (Segment.between 0 (.ofNat (p.demand place)))

/-- The report says of every tag that its demand has been met. -/
structure Report.Confirms (r : Report) (p : Plan) : Prop where
  total : r.ids = p.workers.toNat * p.idsPerWorker.toNat
  tags : r.tags.map (·.tag) = p.tags
  each : ∀ place t, r.tags[place]? = some t → t.ids = p.demand place ∧
    t.first = (if p.demand place = 0 then 0 else 1) ∧ t.last.toNat = p.demand place

variable {plan : Plan} {s : State} {ids : String → List UInt64} {tag : String}

/-- What has been handed out of a tag are the ids from one. -/
theorem Books.eq_between {tags : List String} {step : ℕ} {p : Pool} {b : Buffer}
    (h : Books tags step p ids) (htag : tag ∈ tags) (hb : p.buffer? ⟨tag, 0⟩ = some b) :
    ids tag = Segment.between 0 (.ofNat (ids tag).length) := by
  have hcounted := h.counted tag htag
  generalize ids tag = given at hcounted
  generalize horigin : [(0 : UInt64)] = origin at hcounted
  cases hcounted with
  | unregistered => cases horigin
  | unused _ hnone =>
    rw [buffer?, hnone] at hb
    cases hb
  | counting _ _ _ _ hle =>
    cases horigin
    have htop := Segment.add_length_between hle
    rw [UInt64.zero_add] at htop
    rw [htop]

namespace State

/-! ## The workers -/

theorem Works.done_eq (h : s.Works ids) (idle : s.IsIdle) {w : Worker} (hw : w ∈ s.workers) :
    w.done = s.plan.idsPerWorker.toNat := by
  obtain ⟨number, hnumber⟩ := List.mem_iff_getElem?.1 hw
  have hfollows := h.follows w hw
  have hnone := idle number
  simp only [active?, hnumber, Option.filter_some, hfollows.calm, Option.isNone_none, Bool.true_and,
    decide_eq_true_eq] at hnone
  split_ifs at hnone with hlt
  exact Nat.le_antisymm hfollows.le (Nat.le_of_not_lt hlt)

/-- Every tag has met its demand. -/
theorem Works.length_eq (h : s.Works ids) (idle : s.IsIdle) {place : ℕ}
    (htag : s.plan.tags[place]? = some tag) : (ids tag).length = s.plan.demand place := by
  have hmap : (s.workers.map fun w => (w.idsOf tag).length) =
      s.workers.map fun _ =>
        turns s.plan.tags.length place s.plan.idsPerWorker.toNat := by
    apply List.map_congr_left
    intro w hw
    rw [(h.follows w hw).lengths place tag htag, h.done_eq idle hw]
  rw [← (h.shared tag (List.mem_of_getElem? htag)).length_eq, List.length_flatMap, hmap,
    List.map_const', List.sum_replicate, h.number, smul_eq_mul]
  rfl

theorem Works.fits (h : s.Works ids) (idle : s.IsIdle) : s.plan.Fits := by
  rw [Plan.fits_iff h.sound]
  intro place hplace
  have htag := List.getElem?_eq_getElem hplace
  obtain ⟨b, hb, -⟩ := h.serves.find? (List.getElem_mem hplace)
  rw [← h.length_eq idle htag]
  exact h.books.fits h.sound.step (List.getElem_mem hplace) hb

theorem Works.isMetBy (h : s.Works ids) (idle : s.IsIdle) : s.plan.IsMetBy s.workers := by
  refine ⟨h.number, fun w hw => ⟨(h.follows w hw).calm, h.done_eq idle hw⟩, fun w hw tag => ?_,
    fun place tag htag => ?_⟩
  · rw [List.pairwise_reverse]
    exact (h.follows w hw).sorted tag
  · have hmem := List.mem_of_getElem? htag
    obtain ⟨b, hb, -⟩ := h.serves.find? hmem
    rw [← h.length_eq idle htag, ← h.books.eq_between hmem hb]
    exact h.shared tag hmem

/-! ## The report -/

/-- The ids collected are those handed out, in another order. -/
theorem Works.perm_idsOfAll (h : s.Works ids) (htag : tag ∈ s.plan.tags) :
    (idsOfAll s.workers tag).Perm (ids tag) := by
  refine List.Perm.trans ?_ (h.shared tag htag)
  exact List.Perm.flatMap_left _ fun w _ => List.reverse_perm _

/-- All that the workers got is collected, for all tags in their order. -/
theorem Works.collected (h : s.Works ids) :
    ∃ seen, collectWorkers s.plan.tags s.workers .empty = .ok seen ∧ seen.keys = s.plan.tags ∧
      ∀ tag ∈ s.plan.tags, Collects ((seen.get? tag).getD .empty) (idsOfAll s.workers tag) := by
  have hempty : Gathers .empty fun _ => [] := fun _ => collects_empty
  have once (tag : String) (htag : tag ∈ s.plan.tags) : ([] ++ idsOfAll s.workers tag).Nodup := by
    obtain ⟨b, hb, -⟩ := h.serves.find? htag
    rw [List.nil_append, (h.perm_idsOfAll htag).nodup_iff, h.books.eq_between htag hb]
    exact Segment.nodup_between _ _
  have hworkers : s.workers ≠ [] := by
    rw [← List.length_pos_iff, h.number]
    exact h.sound.workers
  obtain ⟨seen, hcollect, hseen, hkeys⟩ := collectWorkers_eq hempty
    (fun w hw => (h.follows w hw).calm) h.sound.distinct (.inl rfl) once
  exact ⟨seen, hcollect, hkeys (.inl hworkers), hseen⟩

/-- As many ids are collected as the plan asks for. -/
theorem Works.total (h : s.Works ids) (idle : s.IsIdle) {seen : Table IdSet}
    (keys : seen.keys = s.plan.tags)
    (hseen : ∀ tag ∈ s.plan.tags,
      Collects ((seen.get? tag).getD .empty) (idsOfAll s.workers tag)) :
    seen.values.foldl (fun n set => n + set.size) 0 =
      s.plan.workers.toNat * s.plan.idsPerWorker.toNat := by
  rw [total_eq keys h.sound.distinct hseen, ← Plan.sum_demand h.sound]
  congr 1
  apply List.ext_getElem
  · rw [List.length_map, List.length_map, List.length_range]
  · intro place hplace _
    rw [List.getElem_map, List.getElem_map, List.getElem_range]
    rw [List.length_map] at hplace
    rw [(h.perm_idsOfAll (List.getElem_mem hplace)).length_eq]
    exact h.length_eq idle (List.getElem?_eq_getElem hplace)

/-- What the report says of one tag. -/
theorem Works.tagReport (h : s.Works ids) {seen : Table IdSet} (keys : seen.keys = s.plan.tags)
    (hseen : ∀ tag ∈ s.plan.tags,
      Collects ((seen.get? tag).getD .empty) (idsOfAll s.workers tag))
    (htag : tag ∈ s.plan.tags) :
    ∃ t, s.tagReport seen tag = .ok (some t) ∧ t.tag = tag ∧ t.ids = (ids tag).length ∧
      t.first = (if (ids tag).length = 0 then 0 else 1) ∧ t.last.toNat = (ids tag).length := by
  have hsome : (seen.get? tag).isSome := (Table.mem_keys_iff seen tag).1 (keys ▸ htag)
  obtain ⟨set, hset⟩ := Option.isSome_iff_exists.1 hsome
  obtain ⟨b, hb, hfind⟩ := h.serves.find? htag
  have hcollects := hseen tag htag
  rw [hset, Option.getD_some] at hcollects
  have hperm := h.perm_idsOfAll htag
  have hbetween := h.books.eq_between htag hb
  generalize htop : UInt64.ofNat (ids tag).length = top at hbetween
  have hlength : (ids tag).length = top.toNat := by
    rw [hbetween, Segment.length_between]
    exact Nat.sub_zero _
  have hmem (id : UInt64) : id ∈ idsOfAll s.workers tag ↔ 0 < id ∧ id ≤ top := by
    rw [hperm.mem_iff, hbetween, Segment.mem_between]
  obtain ⟨hfirst, hlast⟩ := hcollects.bounds hmem
  have hzero : top = 0 ↔ (ids tag).length = 0 := by
    rw [hlength, ← UInt64.toNat_inj]
    rfl
  refine ⟨⟨tag, set.size, set.min?.getD 0, set.max?.getD 0, b.snapshot⟩, ?_, rfl, ?_, ?_, ?_⟩
  · unfold State.tagReport
    simp only [hset, Allocator.snapshot, h.serves.usable, Bool.false_eq_true, if_false, hfind,
      Option.map_some]
  · exact hcollects.size.trans hperm.length_eq
  · rw [hfirst]
    simp only [hzero]
  · rw [hlast, hlength]

theorem tagReports_eq {seen : Table IdSet} {P : String → TagReport → Prop} {rest : List String}
    (h : ∀ tag ∈ rest, ∃ t, s.tagReport seen tag = .ok (some t) ∧ P tag t) :
    ∃ reports, s.tagReports seen rest = .ok reports ∧ List.Forall₂ P rest reports := by
  induction rest with
  | nil => exact ⟨[], rfl, .nil⟩
  | cons tag rest ih =>
    obtain ⟨t, ht, hP⟩ := h tag List.mem_cons_self
    obtain ⟨reports, hreports, hall⟩ := ih fun tag' htag' => h tag' (List.mem_cons_of_mem _ htag')
    refine ⟨t :: reports, ?_, .cons hP hall⟩
    simp only [State.tagReports, ht, hreports]
    rfl

theorem Works.report (h : s.Works ids) (idle : s.IsIdle) (warm : UInt64) :
    ∃ report, s.report warm = .ok report ∧ report.Confirms s.plan := by
  obtain ⟨seen, hcollect, keys, hseen⟩ := h.collected
  have htotal := h.total idle keys hseen
  obtain ⟨reports, hreports, hall⟩ := tagReports_eq fun tag htag => h.tagReport keys hseen htag
  refine ⟨⟨_, s.pool.store.ledger.fetches - warm, reports⟩, ?_, htotal, ?_, ?_⟩
  · unfold State.report
    simp only [hcollect, htotal, Plan.toNat_totalIds h.sound, ne_eq, not_true_eq_false, if_false,
      hreports]
  · have htags : List.Forall₂ (· = ·) s.plan.tags (reports.map (·.tag)) := by
      rw [List.forall₂_map_right_iff]
      exact hall.imp fun _ _ hP => hP.1.symm
    rw [List.forall₂_eq_eq_eq] at htags
    exact htags.symm
  · intro place t ht
    obtain ⟨hlength, hget⟩ := List.forall₂_iff_get.1 hall
    obtain ⟨hplace, rfl⟩ := List.getElem?_eq_some_iff.1 ht
    have hplace' : place < s.plan.tags.length := hlength ▸ hplace
    obtain ⟨-, hids, hfirst, hlast⟩ := hget place hplace' hplace
    have hdemand := h.length_eq idle (List.getElem?_eq_getElem hplace')
    simp only [List.get_eq_getElem, hdemand] at hids hfirst hlast
    exact ⟨hids, hfirst, hlast⟩

/-- Without a report, no trial has failed for want of a registration, or lost a tag. -/
theorem HasFailed.report (h : s.HasFailed) (warm : UInt64) :
    ∃ e, s.report warm = .error e ∧ (∀ error, e ≠ .store error) ∧ ∀ tag, e ≠ .lostTag tag := by
  obtain ⟨e, he⟩ : ∃ e, collectWorkers s.plan.tags s.workers .empty = .error e :=
    collectWorkers_failed h
  refine ⟨e, ?_, ?_⟩
  · unfold State.report
    rw [he]
  · rcases collectWorkers_error he with ⟨error, rfl⟩ | ⟨id, rfl⟩
    · exact ⟨nofun, nofun⟩
    · exact ⟨nofun, nofun⟩

end State

/-! ## Every end -/

/-- A trial that begins has nothing done yet. -/
theorem works_start (sound : plan.IsSound) :
    (∃ s, start plan = .ok s ∧ s.plan = plan ∧ s.Works fun _ => []) ∨
    (∃ e, start plan = .error (.warmUp e)) ∧ ¬ plan.Fits := by
  refine (start_cases sound).imp_left ?_
  rintro ⟨a, p, hstart, hbooks, hserves⟩
  refine ⟨_, hstart, rfl, sound, List.length_replicate, hbooks, hserves, fun w hw => ?_,
    fun tag _ => ?_⟩
  · rw [List.eq_of_mem_replicate hw]
    exact Worker.follows_new
  · have hnil : (List.replicate plan.workers.toNat Worker.new).flatMap (·.idsOf tag) = [] := by
      rw [List.flatMap_eq_nil_iff]
      intro w hw
      rw [List.eq_of_mem_replicate hw]
      rfl
    rw [hnil]

/-- Playing on from where a schedule ends leads to an end. -/
theorem ends_run (sound : plan.IsSound) (schedule : List Move) :
    ∃ workers, Ends plan workers (run plan schedule) := by
  unfold run
  cases hstart : start plan with
  | error e => exact ⟨[], .refused hstart⟩
  | ok s =>
    rcases works_start sound with ⟨s', hs', hplan, -⟩ | ⟨⟨e, he⟩, -⟩
    · cases hstart.symm.trans hs'
      have htags : (s.play schedule).plan.tags ≠ [] := by
        rw [State.plan_play, hplan]
        exact sound.tags
      obtain ⟨more, hfinish, idle⟩ := State.idle_finish htags
      rw [← State.play_append] at hfinish idle
      refine ⟨(s.play (schedule ++ more)).workers, ?_⟩
      show Ends plan _ ((s.play schedule).finish.report s.pool.store.ledger.fetches)
      rw [hfinish]
      exact .finished hs' _ idle
    · cases hstart.symm.trans he

theorem Ends.cases {workers : List Worker} {result : Except RunError Report}
    (h : Ends plan workers result) (sound : plan.IsSound) :
    (plan.Fits ∧ ∃ report, result = .ok report ∧ report.Confirms plan ∧ plan.IsMetBy workers) ∨
    ¬ plan.Fits ∧
      ∃ e, result = .error e ∧ (∀ error, e ≠ .store error) ∧ ∀ tag, e ≠ .lostTag tag := by
  cases h with
  | @refused error hrefused =>
    rcases works_start sound with ⟨s, hs, -⟩ | ⟨⟨e, he⟩, hfits⟩
    · cases hs.symm.trans hrefused
    · cases he.symm.trans hrefused
      exact .inr ⟨hfits, _, rfl, nofun, nofun⟩
  | @finished s hs schedule idle =>
    rcases works_start sound with ⟨s', hs', rfl, hworks⟩ | ⟨⟨e, he⟩, -⟩
    · cases hs.symm.trans hs'
      rcases hworks.play schedule with ⟨ids, hend⟩ | ⟨hfailed, hfits⟩
      · obtain ⟨report, hreport, hconfirms⟩ := hend.report idle s.pool.store.ledger.fetches
        have hmet := hend.isMetBy idle
        have hfits := hend.fits idle
        rw [State.plan_play] at hconfirms hmet hfits
        exact .inl ⟨hfits, report, hreport, hconfirms, hmet⟩
      · exact .inr ⟨hfits, hfailed.report _⟩
    · cases hs.symm.trans he

/-- Every schedule is part of a trial that ends. No trial ends for want of a registration or with a
tag lost. It ends with a report exactly if the plan fits, and then the workers have got what the
plan asks for and the report confirms it. -/
theorem trial_correct (a : Arguments) (plan : Plan) (accepted : Plan.ofArguments a = .ok plan) :
    (∀ schedule, ∃ workers, Ends plan workers (run plan schedule)) ∧
    ∀ workers result, Ends plan workers result →
      (∀ error, result ≠ .error (.store error)) ∧ (∀ tag, result ≠ .error (.lostTag tag)) ∧
      ((∃ report, result = .ok report) ↔ plan.Fits) ∧
      ∀ report, result = .ok report → report.Confirms plan ∧ plan.IsMetBy workers := by
  have sound := isSound_ofArguments accepted
  refine ⟨ends_run sound, fun workers result h => ?_⟩
  rcases h.cases sound with ⟨hfits, report, rfl, hconfirms, hmet⟩ | ⟨hfits, e, rfl, hstore, hlost⟩
  · refine ⟨nofun, nofun, iff_of_true ⟨report, rfl⟩ hfits, fun report' h => ?_⟩
    cases h
    exact ⟨hconfirms, hmet⟩
  · refine ⟨fun error he => ?_, fun tag he => ?_, iff_of_false (fun ⟨_, h⟩ => nomatch h) hfits,
      nofun⟩
    · injection he with he
      exact hstore error he
    · injection he with he
      exact hlost tag he

/-- One reservation takes the whole id space, so that every prefetch after it overflows. -/
def brimmingArguments : Arguments :=
  ⟨2, 2, ["a", " ", " b ", "c"], 9223372036854775807, 1.0, 5, 0⟩

/-- The second worker calls first, and a prefetch fails between the calls. No id is asked of the
third tag. -/
theorem trial_correct_brimming :
    ∃ plan report, Plan.ofArguments brimmingArguments = .ok plan ∧ plan.tags = ["a", "b", "c"] ∧
      plan.Fits ∧ run plan [.call 1, .prefetch 0, .call 0] = .ok report ∧ report.Confirms plan ∧
      (List.range 3).map plan.demand = [2, 2, 0] := by
  obtain ⟨plan, accepted, htags, fits, hdemand⟩ : ∃ plan,
      Plan.ofArguments brimmingArguments = .ok plan ∧ plan.tags = ["a", "b", "c"] ∧ plan.Fits ∧
      (List.range 3).map plan.demand = [2, 2, 0] := ⟨_, rfl, by decide, by decide, by decide⟩
  obtain ⟨hends, hcorrect⟩ := trial_correct brimmingArguments plan accepted
  obtain ⟨workers, hend⟩ := hends [.call 1, .prefetch 0, .call 0]
  obtain ⟨-, -, hfits, hreport⟩ := hcorrect workers _ hend
  obtain ⟨report, hrun⟩ := hfits.2 fits
  exact ⟨plan, report, accepted, htags, fits, hrun, (hreport report hrun).1, hdemand⟩

end Trial

end IdIssuer

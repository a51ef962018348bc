import IdIssuer.Proofs.Config
import IdIssuer.Trial.Plan
import Mathlib.Data.List.Nodup
import Mathlib.Order.Bounds.Basic

/-!
# What is asked of arguments

There are seven things to ask of arguments (`requirements`). Those that meet all of them make a
plan; others are refused for the first that they miss (`judged_ofArguments`). Among the tags,
trimmed and without the blank ones, the scan for repeats finds the first that has stood before
(`firstRepeat?_eq_some`).
-/

namespace IdIssuer

namespace Trial

variable {texts seen : List String} {text : String} {place : ℕ} {a : Arguments}

/-! ## Repeats -/

/-- The text at a place has been seen before, be it further up in the list. -/
def RepeatsAt (seen texts : List String) (place : ℕ) : Prop :=
  ∃ text, texts[place]? = some text ∧ (text ∈ seen ∨ text ∈ texts.take place)

theorem repeatsAt_zero : RepeatsAt seen (text :: texts) 0 ↔ text ∈ seen := by
  simp [RepeatsAt]

theorem repeatsAt_succ :
    RepeatsAt seen (text :: texts) (place + 1) ↔ RepeatsAt (text :: seen) texts place := by
  simp only [RepeatsAt, List.getElem?_cons_succ, List.take_succ_cons, List.mem_cons, or_left_comm,
    or_assoc]

theorem firstRepeat?_eq_some (h : firstRepeat? seen texts = some text) :
    ∃ place, IsLeast {place | RepeatsAt seen texts place} place ∧ texts[place]? = some text := by
  induction texts generalizing seen with
  | nil => cases h
  | cons first rest ih =>
    unfold firstRepeat? at h
    split_ifs at h with hseen
    · cases h
      exact ⟨0, ⟨repeatsAt_zero.2 hseen, fun _ _ => Nat.zero_le _⟩, rfl⟩
    · obtain ⟨place, ⟨hrepeats, hleast⟩, htext⟩ := ih h
      refine ⟨place + 1, ⟨repeatsAt_succ.2 hrepeats, fun other hother => ?_⟩, htext⟩
      cases other with
      | zero => exact absurd (repeatsAt_zero.1 hother) hseen
      | succ other => exact Nat.succ_le_succ (hleast (repeatsAt_succ.1 hother))

theorem nodup_of_firstRepeat? (h : firstRepeat? seen texts = none) :
    texts.Nodup ∧ ∀ text ∈ texts, text ∉ seen := by
  induction texts generalizing seen with
  | nil => exact ⟨.nil, nofun⟩
  | cons first rest ih =>
    unfold firstRepeat? at h
    split_ifs at h with hseen
    obtain ⟨hrest, hnew⟩ := ih h
    refine ⟨List.nodup_cons.2 ⟨fun hfirst => hnew first hfirst List.mem_cons_self, hrest⟩, ?_⟩
    intro text htext
    rcases List.mem_cons.1 htext with rfl | htext
    · exact hseen
    · exact fun hold => hnew text htext (List.mem_cons_of_mem _ hold)

theorem not_nodup_of_repeatsAt (h : RepeatsAt [] texts place) : ¬ texts.Nodup := by
  obtain ⟨text, htext, hnil | hbefore⟩ := h
  · cases hnil
  · intro distinct
    obtain ⟨earlier, hlt, hearlier⟩ := List.mem_take_iff_getElem.1 hbefore
    obtain ⟨hplace, rfl⟩ := List.getElem?_eq_some_iff.1 htext
    have hsame := (List.Nodup.getElem_inj_iff distinct).1 hearlier
    omega

/-! ## Requirements -/

theorem trimAll_eq_nil_iff : trimAll texts = [] ↔ ¬ ∃ text ∈ texts, trim text ≠ "" := by
  simp [trimAll, List.filter_eq_nil_iff]

/-- What arguments must meet to make a plan, in the order in which it is asked for. -/
def requirements (a : Arguments) : List Prop :=
  [a.workers ≠ 0,
    a.idsPerWorker ≠ 0,
    a.step ≠ 0,
    ∃ tag ∈ a.tags, trim tag ≠ "",
    (trimAll a.tags).Nodup,
    a.workers.toNat * a.idsPerWorker.toNat < 2 ^ 64,
    ∃ q, Config.number? a.ratio = some q ∧ 0 ≤ q ∧ q ≤ 1]

/-- The arguments meet a number of requirements from the first on. -/
def MeetsFirst (a : Arguments) (count : ℕ) : Prop :=
  ∀ requirement ∈ (requirements a).take count, requirement

theorem meetsFirst_zero (a : Arguments) : MeetsFirst a 0 := nofun

theorem MeetsFirst.succ {count : ℕ} {requirement : Prop} (h : MeetsFirst a count)
    (next : (requirements a)[count]? = some requirement) (met : requirement) :
    MeetsFirst a (count + 1) := by
  unfold MeetsFirst
  rw [List.take_add_one, next]
  intro other hother
  rcases List.mem_append.1 hother with hbefore | hnext
  · exact h other hbefore
  · exact List.mem_singleton.1 hnext ▸ met

/-- The number of requirements that are met before the one that an error is about. -/
def PlanError.rank : PlanError → ℕ
  | noWorkers => 0
  | noIds => 1
  | noStep => 2
  | noTags => 3
  | repeatedTag _ => 4
  | tooManyIds => 5
  | config _ => 6

/-- What an error tells beside the requirement that is missed: the first tag that repeats an earlier
one, or the ratio. -/
def PlanError.Tells (a : Arguments) : PlanError → Prop
  | repeatedTag tag => ∃ place, IsLeast {place | RepeatsAt [] (trimAll a.tags) place} place ∧
      (trimAll a.tags)[place]? = some tag
  | config error => error = .ratioOutOfRange a.ratio
  | _ => True

/-- The error is about the first requirement that the arguments miss. -/
structure PlanError.IsFirst (a : Arguments) (e : PlanError) : Prop where
  before : MeetsFirst a e.rank
  missed : ∃ requirement, (requirements a)[e.rank]? = some requirement ∧ ¬ requirement
  tells : e.Tells a

/-- What becomes of arguments. -/
inductive Judged (a : Arguments) : Except PlanError Plan → Prop where
  | refused (e : PlanError) (first : e.IsFirst a) : Judged a (.error e)
  | accepted (meets : ∀ requirement ∈ requirements a, requirement) :
      Judged a (.ok ⟨a.workers, a.idsPerWorker, trimAll a.tags, a.step, ⟨a.ratio⟩, a.latency,
        a.jitter⟩)

theorem judged_ofArguments (a : Arguments) : Judged a (Plan.ofArguments a) := by
  unfold Plan.ofArguments
  dsimp only
  have hnone := meetsFirst_zero a
  by_cases hworkers : a.workers = 0
  · rw [if_pos hworkers]
    exact .refused .noWorkers ⟨hnone, ⟨_, rfl, not_not.2 hworkers⟩, trivial⟩
  have hone := hnone.succ rfl hworkers
  by_cases hids : a.idsPerWorker = 0
  · rw [if_neg hworkers, if_pos hids]
    exact .refused .noIds ⟨hone, ⟨_, rfl, not_not.2 hids⟩, trivial⟩
  have htwo := hone.succ rfl hids
  by_cases hstep : a.step = 0
  · rw [if_neg hworkers, if_neg hids, if_pos hstep]
    exact .refused .noStep ⟨htwo, ⟨_, rfl, not_not.2 hstep⟩, trivial⟩
  have hthree := htwo.succ rfl hstep
  rw [if_neg hworkers, if_neg hids, if_neg hstep]
  by_cases htags : trimAll a.tags = []
  · rw [if_pos htags]
    exact .refused .noTags ⟨hthree, ⟨_, rfl, trimAll_eq_nil_iff.1 htags⟩, trivial⟩
  have hfour := hthree.succ rfl (not_not.1 (mt trimAll_eq_nil_iff.2 htags))
  rw [if_neg htags]
  cases hrepeat : firstRepeat? [] (trimAll a.tags) with
  | some tag =>
    obtain ⟨place, hleast, htag⟩ := firstRepeat?_eq_some hrepeat
    have hrepeats := not_nodup_of_repeatsAt hleast.1
    exact .refused (.repeatedTag tag) ⟨hfour, ⟨_, rfl, hrepeats⟩, place, hleast, htag⟩
  | none =>
    have hfive := hfour.succ rfl (nodup_of_firstRepeat? hrepeat).1
    dsimp only
    by_cases htotal : UInt64.size ≤ a.workers.toNat * a.idsPerWorker.toNat
    · rw [if_pos htotal]
      exact .refused .tooManyIds ⟨hfive, ⟨_, rfl, Nat.not_lt.2 htotal⟩, trivial⟩
    have hsix := hfive.succ rfl (Nat.lt_of_not_le htotal)
    rw [if_neg htotal]
    unfold Config.withRatio
    by_cases hratio : Config.admits a.ratio = true
    · rw [if_pos hratio]
      exact .accepted (hsix.succ rfl ((Config.admits_iff a.ratio).1 hratio))
    · rw [if_neg hratio]
      exact .refused (.config _) ⟨hsix, ⟨_, rfl, mt (Config.admits_iff a.ratio).2 hratio⟩, rfl⟩

theorem Judged.meets {plan : Plan} (h : Judged a (.ok plan)) :
    ∀ requirement ∈ requirements a, requirement := by
  cases h with
  | accepted meets => exact meets

theorem Judged.isFirst {e : PlanError} (h : Judged a (.error e)) : e.IsFirst a := by
  cases h with
  | refused _ first => exact first

end Trial

end IdIssuer

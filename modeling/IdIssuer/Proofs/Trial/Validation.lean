import IdIssuer.Proofs.Trial.Start

/-!
# Which arguments make a plan

Arguments make a plan just if they meet all requirements, and are refused for the first that they
miss otherwise. A plan has the tags that were given, trimmed and without the blank ones, and the
exact number of all ids; its tags can all be registered (`arguments_judged`).
-/

namespace IdIssuer

namespace Trial

variable {a : Arguments}

theorem exists_ofArguments_iff :
    (∃ plan, Plan.ofArguments a = .ok plan) ↔ ∀ requirement ∈ requirements a, requirement := by
  have judged := judged_ofArguments a
  constructor
  · rintro ⟨plan, hplan⟩
    exact (hplan ▸ judged).meets
  · intro meets
    cases hmade : Plan.ofArguments a with
    | ok plan => exact ⟨plan, rfl⟩
    | error e =>
      obtain ⟨requirement, hplace, missed⟩ := (hmade ▸ judged).isFirst.missed
      exact absurd (meets requirement (List.mem_of_getElem? hplace)) missed

/-- Arguments make a plan just if they meet all requirements. The plan has their tags, trimmed and
without the blank ones, its number of ids does not wrap, and its tags can all be registered. Other
arguments are refused for the first requirement that they miss. -/
theorem arguments_judged (a : Arguments) :
    ((∃ plan, Plan.ofArguments a = .ok plan) ↔ ∀ requirement ∈ requirements a, requirement) ∧
    (∀ plan, Plan.ofArguments a = .ok plan →
      plan.tags = (a.tags.map trim).filter (· ≠ "") ∧
      plan.totalIds.toNat = a.workers.toNat * a.idsPerWorker.toNat ∧
      ∃ l, registerAll plan.step plan.tags .empty = .ok l ∧
        ∀ tag ∈ plan.tags, l.rows.get? tag = some ⟨0, plan.step⟩) ∧
    ∀ e, Plan.ofArguments a = .error e → e.IsFirst a := by
  refine ⟨exists_ofArguments_iff, fun plan hplan => ?_, fun e he => ?_⟩
  · have sound := isSound_ofArguments hplan
    have htotal := Plan.toNat_totalIds sound
    have hregister := registerAll_plan sound
    have judged := judged_ofArguments a
    rw [hplan] at judged
    cases judged with
    | accepted _ => exact ⟨rfl, htotal, hregister⟩
  · exact (he ▸ judged_ofArguments a).isFirst

/-- Tags with blanks around them, some of them nothing but blank. -/
def spaced : Arguments := ⟨3, 5, [" a", "", "b\t", " "], 7, 0.5, 5, 0⟩

/-- A tag that repeats another once both are trimmed, too many ids, and a ratio that is none. -/
def muddled : Arguments := ⟨9223372036854775808, 2, ["b", " a", "", "a ", "b"], 7, 1.5, 5, 0⟩

theorem arguments_judged_spaced :
    Plan.ofArguments spaced = .ok ⟨3, 5, ["a", "b"], 7, ⟨0.5⟩, 5, 0⟩ ∧
    (∀ requirement ∈ requirements spaced, requirement) ∧
    (∃ l, registerAll 7 ["a", "b"] .empty = .ok l ∧
      ∀ tag ∈ ["a", "b"], l.rows.get? tag = some ⟨0, 7⟩) ∧
    Plan.ofArguments muddled = .error (.repeatedTag "a") ∧
    PlanError.IsFirst muddled (.repeatedTag "a") := by
  have hspaced : Plan.ofArguments spaced = .ok ⟨3, 5, ["a", "b"], 7, ⟨0.5⟩, 5, 0⟩ := rfl
  have hmuddled : Plan.ofArguments muddled = .error (.repeatedTag "a") := rfl
  obtain ⟨hmeets, hplan, -⟩ := arguments_judged spaced
  obtain ⟨-, -, hrefused⟩ := arguments_judged muddled
  exact ⟨hspaced, hmeets.1 ⟨_, hspaced⟩, (hplan _ hspaced).2.2, hmuddled, hrefused _ hmuddled⟩

end Trial

end IdIssuer

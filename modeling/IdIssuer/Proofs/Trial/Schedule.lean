import IdIssuer.Proofs.Trial.Work

/-!
# Every schedule leads to the end

Letting the workers finish one after another is a schedule of its own (`finish_fold`). Every call
that is made brings the worker nearer to its end and leaves the others where they are, so that
nobody has a call to make afterwards (`idle_finish`).
-/

namespace IdIssuer

namespace Trial

namespace State

/-- No worker has a call to make. -/
def IsIdle (s : State) : Prop := ∀ number, s.active? number = none

/-- The most calls that a worker may still make. -/
def due (s : State) (number : ℕ) : ℕ :=
  (s.active? number).elim 0 fun w => s.plan.idsPerWorker.toNat - w.done

variable {s : State} {w : Worker}

theorem due_le (s : State) (number : ℕ) : s.due number ≤ s.plan.idsPerWorker.toNat := by
  unfold due
  cases s.active? number with
  | none => exact Nat.zero_le _
  | some w => exact Nat.sub_le _ _

theorem isIdle_iff : s.IsIdle ↔ ∀ number, s.due number = 0 := by
  refine forall_congr' fun number => ?_
  unfold due
  cases hactive : s.active? number with
  | none => exact iff_of_true rfl rfl
  | some w =>
    have hlt := (active?_eq_some hactive).2.2
    refine iff_of_false nofun (Nat.ne_of_gt ?_)
    exact Nat.sub_pos_of_lt hlt

/-- A call brings the worker nearer to its end. -/
theorem due_call (htags : s.plan.tags ≠ []) (number : ℕ) :
    (s.call number).due number ≤ s.due number - 1 := by
  rcases s.call_cases number with
    ⟨he, hnone | hnil⟩ | ⟨w, w', allocator, pool, hactive, hcases, he⟩
  · rw [he, due, hnone]
    exact Nat.zero_le _
  · exact absurd hnil htags
  · obtain ⟨hw, -⟩ := active?_eq_some hactive
    obtain ⟨hnumber, -⟩ := List.getElem?_eq_some_iff.1 hw
    have hset : (s.workers.set number w')[number]? = some w' := by
      rw [List.getElem?_set_self hnumber]
    rw [he, due, due, hactive]
    simp only [active?, hset, Option.elim_some]
    rcases hcases with hfailed | ⟨-, hdone⟩
    · rw [Option.filter_some, if_neg (by simp [hfailed])]
      exact Nat.zero_le _
    · rw [Option.filter_some]
      split_ifs
      · show _ - w'.done ≤ _ - w.done - 1
        omega
      · exact Nat.zero_le _

/-- A call leaves the other workers where they are. -/
theorem due_call_of_ne {number other : ℕ} (h : number ≠ other) :
    (s.call number).due other = s.due other := by
  rcases s.call_cases number with ⟨he, -⟩ | ⟨w, w', allocator, pool, -, -, he⟩
  · rw [he]
  · rw [he]
    simp only [due, active?, List.getElem?_set_ne h]

/-! ## Finishing -/

theorem play_append (s : State) (first second : List Move) :
    s.play (first ++ second) = (s.play first).play second := List.foldl_append

theorem plan_play (s : State) (schedule : List Move) : (s.play schedule).plan = s.plan := by
  induction schedule generalizing s with
  | nil => rfl
  | cons move rest ih => exact (ih _).trans (s.plan_move move)

theorem finishWorker_eq (s : State) (number count : ℕ) :
    s.finishWorker number count =
      s.play (List.replicate count [.call number, .prefetch 0]).flatten := by
  induction count generalizing s with
  | zero => rfl
  | succ count ih =>
    rw [finishWorker, ih, List.replicate_succ, List.flatten_cons, play_append]
    rfl

theorem due_finishWorker (htags : s.plan.tags ≠ []) (number count : ℕ) :
    (s.finishWorker number count).due number ≤ s.due number - count := by
  induction count generalizing s with
  | zero => exact Nat.le_refl _
  | succ count ih =>
    have hcall : ((s.call number).prefetch 0).due number ≤ s.due number - 1 := due_call htags number
    have hplan : ((s.call number).prefetch 0).plan.tags ≠ [] := by
      show (s.call number).plan.tags ≠ []
      rw [show (s.call number).plan = s.plan from s.plan_move (.call number)]
      exact htags
    rw [finishWorker]
    have hrest := ih hplan
    omega

theorem due_finishWorker_of_ne {number other : ℕ} (h : number ≠ other) (count : ℕ) :
    (s.finishWorker number count).due other = s.due other := by
  induction count generalizing s with
  | zero => rfl
  | succ count ih => exact ih.trans (due_call_of_ne h)

/-- To let some workers finish is to play on until they have no call to make. -/
theorem finish_fold (htags : s.plan.tags ≠ []) (numbers : List ℕ) :
    ∃ schedule,
      numbers.foldl (fun s number => s.finishWorker number s.plan.idsPerWorker.toNat) s =
        s.play schedule ∧
      ∀ number, number ∈ numbers ∨ s.due number = 0 → (s.play schedule).due number = 0 := by
  induction numbers generalizing s with
  | nil => exact ⟨[], rfl, fun number h => h.resolve_left List.not_mem_nil⟩
  | cons first rest ih =>
    let count := s.plan.idsPerWorker.toNat
    obtain ⟨calls, hfirst⟩ : ∃ calls, s.finishWorker first count = s.play calls :=
      ⟨_, s.finishWorker_eq first count⟩
    have hplan : (s.finishWorker first count).plan.tags ≠ [] := by
      rw [hfirst, plan_play]
      exact htags
    obtain ⟨schedule, hrest, hdue⟩ := ih hplan
    refine ⟨calls ++ schedule, ?_, fun number h => ?_⟩
    · rw [List.foldl_cons, play_append, ← hfirst]
      exact hrest
    · rw [play_append, ← hfirst]
      apply hdue
      by_cases hne : first = number
      · subst hne
        have hnear : (s.finishWorker first count).due first ≤ s.due first - count :=
          due_finishWorker htags first count
        have hmost : s.due first ≤ count := s.due_le first
        right
        omega
      · rw [due_finishWorker_of_ne hne]
        rcases h with hmem | hzero
        · exact .inl ((List.mem_cons.1 hmem).resolve_left (Ne.symm hne))
        · exact .inr hzero

/-- To finish is to play on to the end. -/
theorem idle_finish (htags : s.plan.tags ≠ []) :
    ∃ schedule, s.finish = s.play schedule ∧ (s.play schedule).IsIdle := by
  obtain ⟨schedule, hfinish, hdue⟩ := finish_fold htags (List.range s.workers.length)
  refine ⟨schedule, hfinish, isIdle_iff.2 fun number => hdue number ?_⟩
  rcases Nat.lt_or_ge number s.workers.length with hlt | hge
  · exact .inl (List.mem_range.2 hlt)
  · right
    simp only [due, active?, List.getElem?_eq_none hge, Option.filter_none, Option.elim_none]

end State

end Trial

end IdIssuer

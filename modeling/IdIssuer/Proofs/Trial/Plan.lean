import IdIssuer.Proofs.Buffer.Pace
import IdIssuer.Proofs.Trial.Requirements
import Mathlib.Algebra.BigOperators.Ring.List
import Mathlib.Algebra.Ring.Nat

/-!
# What a plan asks for

The workers of a plan go through its tags in turn, so that the turns of each worker fall to the tags
as evenly as they can (`turns`). All workers together ask for as many ids as the plan says
(`sum_demand`). Arguments that make a plan make one that can be carried out (`isSound_ofArguments`),
as far as the id space goes (`Plan.Fits`).
-/

namespace IdIssuer

/-- Rounding up a number of ids that is at least one. -/
theorem segmentsFor_eq_div {length : ℕ} (hpos : 0 < length) (count : ℕ) :
    segmentsFor count length = (max count 1 + length - 1) / length := by
  unfold segmentsFor
  rcases Nat.eq_zero_or_pos count with rfl | hcount
  · have hlow : (0 + length - 1) / length = 0 := Nat.div_eq_of_lt (by omega)
    have hone : (max 0 1 + length - 1) / length = 1 := by
      rw [Nat.max_eq_right (Nat.zero_le 1), Nat.add_sub_cancel_left]
      exact Nat.div_self hpos
    omega
  · have hle : 1 ≤ (count + length - 1) / length := by
      apply (Nat.le_div_iff_mul_le hpos).2
      omega
    rw [Nat.max_eq_left hcount]
    omega

theorem segmentsFor_mono (length : ℕ) {count count' : ℕ} (h : count ≤ count') :
    segmentsFor count length ≤ segmentsFor count' length := by
  have hdiv : (count + length - 1) / length ≤ (count' + length - 1) / length := by
    apply Nat.div_le_div_right
    omega
  unfold segmentsFor
  omega

namespace Trial

/-! ## Turns -/

/-- How many of the first turns fall to a place, if the places take turns. -/
def turns (places place count : ℕ) : ℕ :=
  (List.range count).countP fun turn => turn % places = place

theorem turns_succ (places place count : ℕ) :
    turns places place (count + 1) =
      turns places place count + if count % places = place then 1 else 0 := by
  rw [turns, List.range_succ, List.countP_append, List.countP_singleton]
  simp only [decide_eq_true_eq]
  rfl

theorem turns_mono (places place : ℕ) {count count' : ℕ} (h : count ≤ count') :
    turns places place count ≤ turns places place count' := by
  apply List.Sublist.countP_le
  exact List.range_sublist.2 h

theorem sum_map_ite (places : List ℕ) (turn : ℕ) :
    (places.map fun place => if turn = place then 1 else 0).sum = places.count turn := by
  induction places with
  | nil => rfl
  | cons place rest ih =>
    rw [List.map_cons, List.sum_cons, ih, List.count_cons, Nat.add_comm]
    simp only [beq_iff_eq, eq_comm (a := place)]

/-- Every turn falls to one place. -/
theorem sum_turns {places : ℕ} (hpos : 0 < places) (count : ℕ) :
    ((List.range places).map fun place => turns places place count).sum = count := by
  induction count with
  | zero => simp [turns]
  | succ count ih =>
    have hone : ((List.range places).map fun place =>
        if count % places = place then 1 else 0).sum = 1 := by
      rw [sum_map_ite]
      exact List.count_eq_one_of_mem List.nodup_range (List.mem_range.2 (Nat.mod_lt count hpos))
    simp only [turns_succ]
    rw [List.sum_map_add, ih, hone]

namespace Plan

variable {plan : Plan}

/-- The number of ids that all workers ask of the tag at a place. -/
def demand (p : Plan) (place : ℕ) : ℕ :=
  p.workers.toNat * turns p.tags.length place p.idsPerWorker.toNat

/-- Every tag has room for the whole reservations that it takes to meet the demand, with one for
none. -/
def Fits (p : Plan) : Prop :=
  ∀ place < p.tags.length,
    p.step.toNat * ((max (p.demand place) 1 + p.step.toNat - 1) / p.step.toNat) ≤ idLimit.toNat

instance (p : Plan) : Decidable p.Fits := inferInstanceAs (Decidable (∀ place < _, _ ≤ _))

/-- What is known of a plan that arguments make. -/
structure IsSound (p : Plan) : Prop where
  workers : 0 < p.workers.toNat
  ids : 0 < p.idsPerWorker.toNat
  step : 0 < p.step.toNat
  tags : p.tags ≠ []
  distinct : p.tags.Nodup
  total : p.workers.toNat * p.idsPerWorker.toNat < 2 ^ 64

theorem IsSound.length_pos (sound : plan.IsSound) : 0 < plan.tags.length :=
  List.length_pos_iff.2 sound.tags

theorem IsSound.step_ne_zero (sound : plan.IsSound) : plan.step ≠ 0 := by
  intro hzero
  exact Nat.ne_of_gt sound.step (congrArg UInt64.toNat hzero)

theorem sum_demand (sound : plan.IsSound) :
    ((List.range plan.tags.length).map plan.demand).sum =
      plan.workers.toNat * plan.idsPerWorker.toNat := by
  have hturns := sum_turns sound.length_pos plan.idsPerWorker.toNat
  unfold demand
  rw [List.sum_map_mul_left, hturns]

theorem toNat_totalIds (sound : plan.IsSound) :
    plan.totalIds.toNat = plan.workers.toNat * plan.idsPerWorker.toNat := by
  rw [totalIds, UInt64.toNat_mul]
  exact Nat.mod_eq_of_lt sound.total

theorem fits_iff (sound : plan.IsSound) :
    plan.Fits ↔ ∀ place < plan.tags.length,
      segmentsFor (plan.demand place) plan.step.toNat * plan.step.toNat ≤ idLimit.toNat := by
  unfold Fits
  simp only [segmentsFor_eq_div sound.step, Nat.mul_comm]

/-- A plan whose first reservations do not fit does not fit. -/
theorem not_fits_of_step (sound : plan.IsSound) (h : idLimit.toNat < plan.step.toNat) :
    ¬ plan.Fits := by
  intro fits
  have hfirst := (fits_iff sound).1 fits 0 sound.length_pos
  have hone : 1 ≤ segmentsFor (plan.demand 0) plan.step.toNat := Nat.le_max_left 1 _
  have hle := Nat.mul_le_mul_right plan.step.toNat hone
  omega

end Plan

/-! ## Arguments -/

theorem isSound_ofArguments {a : Arguments} {plan : Plan} (h : Plan.ofArguments a = .ok plan) :
    plan.IsSound := by
  have pos {n : UInt64} (hn : n ≠ 0) : 0 < n.toNat :=
    Nat.pos_of_ne_zero fun hzero => hn (UInt64.toNat_inj.1 hzero)
  have judged := judged_ofArguments a
  rw [h] at judged
  cases judged with
  | accepted meets =>
    simp only [requirements, List.forall_mem_cons] at meets
    obtain ⟨hworkers, hids, hstep, htags, distinct, htotal, -⟩ := meets
    have hsome : trimAll a.tags ≠ [] := mt trimAll_eq_nil_iff.1 (not_not.2 htags)
    exact ⟨pos hworkers, pos hids, pos hstep, hsome, distinct, htotal⟩

end Trial

end IdIssuer

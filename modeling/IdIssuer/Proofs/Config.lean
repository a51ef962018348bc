import IdIssuer.Config
import Mathlib.Algebra.Order.Field.Power
import Mathlib.Algebra.Order.Field.Rat
import Mathlib.Tactic.GCongr
import Mathlib.Tactic.NormNum
import Mathlib.Tactic.Positivity

/-!
# Which ratios are admitted

A float stands for a rational number, unless it is infinite or not a number (`number?`). A ratio is
admitted by comparisons of floats, which look at sign, exponent and mantissa one after the other.
They come to the same as comparing the numbers: a ratio is admitted just if it stands for a number
from zero to one (`admits_iff`). Both zeros do.
-/

namespace IdIssuer

open Float.Model (Format UnpackedFloat)
open Float.Model.UnpackedFloat (Sign)

namespace Config

/-- The number that a decoded float stands for. -/
def decoded? : UnpackedFloat → Option ℚ
  | .zero _ => some 0
  | .finite sign mantissa exponent _ => some (sign.apply mantissa * 2 ^ exponent)
  | .infinity _ | .notANumber => none

/-- The number that a float stands for, unless it is infinite or not a number. -/
def number? (x : Float) : Option ℚ := decoded? x.toModel.unpack

/-! ## Decoding -/

theorem le_toNat_append_one {w : ℕ} (v : BitVec w) : 2 ^ w ≤ (1#1 ++ v).toNat := by
  have hmsb : (1#1 ++ v).msb = true := by simp [BitVec.msb_append]
  have htwice := BitVec.msb_eq_true_iff_two_mul_ge.1 hmsb
  have hpow : 2 ^ (1 + w) = 2 * 2 ^ w := by rw [Nat.pow_add]
  omega

/-- A mantissa has 53 bits, the first of which is set unless the number is far below one. -/
theorem unpack_bounds {bits : BitVec Format.binary64.numBits} {sign : Sign} {mantissa : ℕ}
    {exponent : ℤ} {pos : 0 < mantissa}
    (h : UnpackedFloat.unpack .binary64 bits = .finite sign mantissa exponent pos) :
    mantissa < 2 ^ 53 ∧ (2 ^ 52 ≤ mantissa ∨ exponent < -52) := by
  unfold UnpackedFloat.unpack at h
  dsimp only at h
  by_cases hinfinite : UnpackedFloat.unpackExponent bits = -1#_
  · rw [if_pos hinfinite] at h
    by_cases hzero : UnpackedFloat.unpackMantissa bits = 0#_
    · rw [if_pos hzero] at h
      cases h
    · rw [if_neg hzero] at h
      cases h
  rw [if_neg hinfinite] at h
  by_cases hsmall : UnpackedFloat.unpackExponent bits = 0#_
  · rw [if_pos hsmall] at h
    by_cases hzero : UnpackedFloat.unpackMantissa bits = 0#_
    · rw [dif_pos hzero] at h
      cases h
    · rw [dif_neg hzero] at h
      injection h with _ hmantissa hexponent
      rw [hsmall] at hexponent
      subst hmantissa hexponent
      have hfraction : _ < 2 ^ 52 := (UnpackedFloat.unpackMantissa bits).isLt
      exact ⟨by omega, .inr (by decide)⟩
  · rw [if_neg hsmall] at h
    injection h with _ hmantissa _
    subst hmantissa
    exact ⟨BitVec.isLt _, .inl (le_toNat_append_one _)⟩

theorem unpack_zero : (0.0 : Float).toModel.unpack = .zero .positive := rfl

theorem unpack_one :
    (1.0 : Float).toModel.unpack = .finite .positive (2 ^ 52) (-52) (by decide) := rfl

/-! ## Comparing with one -/

theorem isLE_then_compare (e e' : ℤ) (m m' : ℕ) :
    ((compare e e').then (compare m m')).isLE = true ↔ e < e' ∨ e = e' ∧ m ≤ m' := by
  rcases lt_trichotomy e e' with hlt | rfl | hgt
  · simp [compare_lt_iff_lt.2 hlt, hlt]
  · simp [Nat.isLE_compare]
  · simp [compare_gt_iff_gt.2 hgt, hgt.not_gt, hgt.ne']

/-- Exponents decide which of two positive numbers is the smaller, unless they are the same. -/
theorem mul_zpow_le_one_iff {m : ℕ} {e : ℤ} (hm : m < 2 ^ 53) (hlead : 2 ^ 52 ≤ m ∨ e < -52) :
    (m : ℚ) * 2 ^ e ≤ 1 ↔ e < -52 ∨ e = -52 ∧ m ≤ 2 ^ 52 := by
  rcases lt_trichotomy e (-52) with hlt | rfl | hgt
  · have hmantissa : (m : ℚ) ≤ 2 ^ (53 : ℤ) := by exact_mod_cast hm.le
    have hpower : (2 : ℚ) ^ e ≤ 2 ^ (-53 : ℤ) := zpow_le_zpow_right₀ (by norm_num) (by omega)
    refine iff_of_true ?_ (.inl hlt)
    calc (m : ℚ) * 2 ^ e ≤ 2 ^ (53 : ℤ) * 2 ^ (-53 : ℤ) := by gcongr
      _ = 1 := by norm_num
  · rw [zpow_neg, ← div_eq_mul_inv, div_le_one₀ (by positivity)]
    norm_cast
    simp
  · have hmantissa : (2 : ℚ) ^ (52 : ℤ) ≤ m := by exact_mod_cast hlead.resolve_right (by omega)
    have hpower : (2 : ℚ) ^ (-51 : ℤ) ≤ 2 ^ e := zpow_le_zpow_right₀ (by norm_num) (by omega)
    refine iff_of_false (not_le.2 ?_) (by omega)
    calc (1 : ℚ) < 2 ^ (52 : ℤ) * 2 ^ (-51 : ℤ) := by norm_num
      _ ≤ m * 2 ^ e := by gcongr

/-! ## Ratios -/

theorem admits_iff (ratio : Float) :
    admits ratio = true ↔ ∃ q, number? ratio = some q ∧ 0 ≤ q ∧ q ≤ 1 := by
  have hzero : 0.0 ≤ ratio ↔ (UnpackedFloat.zero .positive).le ratio.toModel.unpack = true := by
    rw [← unpack_zero]
    exact decide_eq_true_iff
  have hone : ratio ≤ 1.0 ↔ ratio.toModel.unpack.le (1.0 : Float).toModel.unpack = true :=
    decide_eq_true_iff
  have hfinite : ratio.isFinite = ratio.toModel.unpack.isFinite := rfl
  unfold admits number?
  rw [Bool.and_eq_true, Bool.and_eq_true, decide_eq_true_eq, decide_eq_true_eq, hzero, hone,
    hfinite]
  cases h : ratio.toModel.unpack with
  | infinity sign | notANumber =>
    refine iff_of_false (fun hadmits => Bool.false_ne_true hadmits.1.1) ?_
    rintro ⟨q, hq, -⟩
    cases hq
  | zero sign => exact iff_of_true ⟨⟨rfl, rfl⟩, rfl⟩ ⟨0, rfl, le_rfl, zero_le_one⟩
  | finite sign mantissa exponent pos =>
    obtain ⟨hlt, hlead⟩ := unpack_bounds h
    have hmantissa : (0 : ℚ) < mantissa := Nat.cast_pos.2 pos
    have hpower : (0 : ℚ) < 2 ^ exponent := zpow_pos two_pos exponent
    have hpositive := mul_pos hmantissa hpower
    cases sign with
    | negative =>
      refine iff_of_false (fun hadmits => Bool.false_ne_true hadmits.1.2) ?_
      rintro ⟨q, hq, hnonneg, -⟩
      cases hq
      simp only [Sign.apply, Int.cast_neg, Int.cast_natCast, neg_mul] at hnonneg
      exact absurd hnonneg (not_le.2 (neg_neg_of_pos hpositive))
    | positive =>
      have hcompare := isLE_then_compare exponent (-52) mantissa (2 ^ 52)
      rw [← mul_zpow_le_one_iff hlt hlead] at hcompare
      have hle : UnpackedFloat.le (.finite .positive mantissa exponent pos)
          (.finite .positive (2 ^ 52) (-52) (by decide)) = true ↔
          (mantissa : ℚ) * 2 ^ exponent ≤ 1 := hcompare
      have hnumber : decoded? (.finite .positive mantissa exponent pos) =
          some ((mantissa : ℚ) * 2 ^ exponent) := by
        show some (((mantissa : ℤ) : ℚ) * 2 ^ exponent) = _
        rw [Int.cast_natCast]
      have hnonneg : (UnpackedFloat.zero .positive).le (.finite .positive mantissa exponent pos) =
          true := rfl
      rw [unpack_one, hle, hnumber]
      constructor
      · rintro ⟨-, hone⟩
        exact ⟨_, rfl, hpositive.le, hone⟩
      · rintro ⟨q, hq, -, hone⟩
        cases hq
        exact ⟨⟨rfl, hnonneg⟩, hone⟩

end Config

end IdIssuer

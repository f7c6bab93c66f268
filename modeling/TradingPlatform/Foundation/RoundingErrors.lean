import Mathlib.Algebra.Order.Field.Basic
import Mathlib.Tactic.FieldSimp
import Mathlib.Tactic.Linarith
import Mathlib.Tactic.Positivity
import Mathlib.Tactic.Ring
import TradingPlatform.Foundation.SignificantDigits

/-! # Rounding errors

A rounding moves a number by a part `u` of it at most. What a computation has
accumulated after `k` roundings is at most the drift `(1 + u) ^ k - 1`, in parts of
a weight: what the terms of the exact result amount to when none cancels another.
-/

section Relative

variable {K : Type*} [Field K] [LinearOrder K]

/-- The error is at most a part `u` of the number, and of what it is rounded to. -/
structure RoundsWithin (u : K) (rd : K → K) : Prop where
  nonneg : 0 ≤ u
  lt_one : u < 1
  error_le : ∀ q, |rd q - q| ≤ u * |q|
  error_le_rounded : ∀ q, |rd q - q| ≤ u * |rd q|

/-- The relative error that `k` roundings can add up to. -/
def drift (u : K) (k : ℕ) : K := (1 + u) ^ k - 1

omit [LinearOrder K] in
theorem pow_mul_eq_drift (u : K) (k : ℕ) (q : K) : (1 + u) ^ k * q = q + drift u k * q := by
  unfold drift
  ring

variable [IsStrictOrderedRing K] {u : K} {rd : K → K}

namespace RoundsWithin

variable (hround : RoundsWithin u rd)

include hround

theorem one_le_growth : 1 ≤ 1 + u := by
  linarith [hround.nonneg]

theorem one_le_pow (k : ℕ) : 1 ≤ (1 + u) ^ k := one_le_pow₀ hround.one_le_growth

theorem pow_nonneg (k : ℕ) : 0 ≤ (1 + u) ^ k := le_trans zero_le_one (hround.one_le_pow k)

theorem pow_mono {k l : ℕ} (hkl : k ≤ l) : (1 + u) ^ k ≤ (1 + u) ^ l :=
  pow_le_pow_right₀ hround.one_le_growth hkl

/-- More roundings leave more room above a nonnegative number. -/
theorem pow_mul_mono {k l : ℕ} (hkl : k ≤ l) {q : K} (hq : 0 ≤ q) :
    (1 + u) ^ k * q ≤ (1 + u) ^ l * q :=
  mul_le_mul_of_nonneg_right (hround.pow_mono hkl) hq

theorem le_pow_mul (k : ℕ) {q : K} (hq : 0 ≤ q) : q ≤ (1 + u) ^ k * q :=
  le_mul_of_one_le_left hq (hround.one_le_pow k)

theorem drift_nonneg (k : ℕ) : 0 ≤ drift u k := sub_nonneg.mpr (hround.one_le_pow k)

theorem drift_mono {k l : ℕ} (hkl : k ≤ l) : drift u k ≤ drift u l :=
  sub_le_sub_right (hround.pow_mono hkl) 1

/-- A drift that grows is a drift of more roundings at most. -/
theorem pow_mul_drift_le (j k : ℕ) : (1 + u) ^ j * drift u k ≤ drift u (j + k) := by
  have hpow := hround.one_le_pow j
  unfold drift
  rw [pow_add]
  linarith

theorem round_zero : rd 0 = 0 := by
  have herror := hround.error_le 0
  rw [abs_zero, mul_zero, sub_zero] at herror
  exact abs_nonpos_iff.mp herror

theorem round_pos {q : K} (hq : 0 < q) : 0 < rd q := by
  have herror := (abs_le.mp (hround.error_le q)).1
  rw [abs_of_pos hq] at herror
  have hpart : u * q < 1 * q := mul_lt_mul_of_pos_right hround.lt_one hq
  linarith

theorem round_neg {q : K} (hq : q < 0) : rd q < 0 := by
  have herror := (abs_le.mp (hround.error_le q)).2
  rw [abs_of_neg hq] at herror
  have hpart : u * -q < 1 * -q := mul_lt_mul_of_pos_right hround.lt_one (neg_pos.mpr hq)
  linarith

theorem round_nonneg {q : K} (hq : 0 ≤ q) : 0 ≤ rd q := by
  rcases hq.eq_or_lt with rfl | hpos
  · exact hround.round_zero.ge
  · exact (hround.round_pos hpos).le

/-- Rounding keeps the side of zero, in both directions. -/
theorem round_pos_iff {q : K} : 0 < rd q ↔ 0 < q := by
  refine ⟨fun h => ?_, hround.round_pos⟩
  by_contra hle
  rcases (not_lt.mp hle).eq_or_lt with rfl | hneg
  · exact absurd h (hround.round_zero.symm ▸ lt_irrefl _)
  · exact absurd h (hround.round_neg hneg).not_gt

theorem round_le {q : K} (hq : 0 ≤ q) : rd q ≤ (1 + u) * q := by
  have herror := (abs_le.mp (hround.error_le q)).2
  rw [abs_of_nonneg hq] at herror
  linarith

/-- A rounding below `k` others counts as one more of them. -/
theorem pow_mul_round_le (k : ℕ) {q : K} (hq : 0 ≤ q) :
    (1 + u) ^ k * rd q ≤ (1 + u) ^ (k + 1) * q := by
  rw [pow_succ, mul_assoc]
  exact mul_le_mul_of_nonneg_left (hround.round_le hq) (hround.pow_nonneg k)

theorem le_round {q : K} (hq : 0 ≤ q) : q ≤ (1 + u) * rd q := by
  have herror := (abs_le.mp (hround.error_le_rounded q)).1
  rw [abs_of_nonneg (hround.round_nonneg hq)] at herror
  linarith

/-- What `k` roundings and one more leave of a number still covers it. -/
theorem le_pow_mul_round (k : ℕ) {q : K} (hq : 0 ≤ q) : q ≤ (1 + u) ^ (k + 1) * rd q :=
  (hround.le_round hq).trans (by
    simpa using hround.pow_mul_mono (by omega : 1 ≤ k + 1) (hround.round_nonneg hq))

end RoundsWithin

/-- A number known up to the drift of `k` roundings, in parts of a weight. -/
structure DriftsFrom (u : K) (k : ℕ) (computed exact weight : K) : Prop where
  error_le : |computed - exact| ≤ drift u k * weight
  exact_le : |exact| ≤ weight

namespace DriftsFrom

variable {k l : ℕ} {computed exact weight computed' exact' weight' : K}

theorem refl (u q : K) : DriftsFrom u 0 q q |q| := ⟨by simp [drift], le_rfl⟩

theorem weight_nonneg (h : DriftsFrom u k computed exact weight) : 0 ≤ weight :=
  (abs_nonneg exact).trans h.exact_le

theorem le_add (h : DriftsFrom u k computed exact weight) :
    computed ≤ exact + drift u k * weight := by
  linarith [(abs_le.mp h.error_le).2]

theorem sub_le (h : DriftsFrom u k computed exact weight) :
    exact - drift u k * weight ≤ computed := by
  linarith [(abs_le.mp h.error_le).1]

/-- What is computed outgrows the weight by the drift at most. -/
theorem abs_computed_le (h : DriftsFrom u k computed exact weight) :
    |computed| ≤ (1 + u) ^ k * weight := by
  calc |computed| = |(computed - exact) + exact| := by rw [sub_add_cancel]
    _ ≤ |computed - exact| + |exact| := abs_add_le _ _
    _ ≤ drift u k * weight + weight := add_le_add h.error_le h.exact_le
    _ = (1 + u) ^ k * weight := by unfold drift; ring

theorem mono (h : DriftsFrom u k computed exact weight) (hround : RoundsWithin u rd)
    (hkl : k ≤ l) : DriftsFrom u l computed exact weight :=
  ⟨h.error_le.trans (mul_le_mul_of_nonneg_right (hround.drift_mono hkl) h.weight_nonneg),
    h.exact_le⟩

/-- One rounding more. -/
theorem rounded (h : DriftsFrom u k computed exact weight) (hround : RoundsWithin u rd) :
    DriftsFrom u (k + 1) (rd computed) exact weight := by
  refine ⟨?_, h.exact_le⟩
  have hlast : |rd computed - computed| ≤ u * ((1 + u) ^ k * weight) :=
    (hround.error_le computed).trans
      (mul_le_mul_of_nonneg_left h.abs_computed_le hround.nonneg)
  calc |rd computed - exact|
      ≤ |rd computed - computed| + |computed - exact| := abs_sub_le _ _ _
    _ ≤ u * ((1 + u) ^ k * weight) + drift u k * weight := add_le_add hlast h.error_le
    _ = drift u (k + 1) * weight := by unfold drift; ring

theorem add (h : DriftsFrom u k computed exact weight)
    (h' : DriftsFrom u k computed' exact' weight') :
    DriftsFrom u k (computed + computed') (exact + exact') (weight + weight') := by
  refine ⟨?_, (abs_add_le _ _).trans (add_le_add h.exact_le h'.exact_le)⟩
  calc |computed + computed' - (exact + exact')|
      = |(computed - exact) + (computed' - exact')| := by rw [add_sub_add_comm]
    _ ≤ |computed - exact| + |computed' - exact'| := abs_add_le _ _
    _ ≤ drift u k * weight + drift u k * weight' := add_le_add h.error_le h'.error_le
    _ = drift u k * (weight + weight') := by ring

/-- A known factor scales the number and the weight. -/
theorem mul_right (h : DriftsFrom u k computed exact weight) (factor : K) :
    DriftsFrom u k (computed * factor) (exact * factor) (weight * |factor|) := by
  constructor
  · rw [← sub_mul, abs_mul, ← mul_assoc]
    exact mul_le_mul_of_nonneg_right h.error_le (abs_nonneg factor)
  · rw [abs_mul]
    exact mul_le_mul_of_nonneg_right h.exact_le (abs_nonneg factor)

theorem div_right (h : DriftsFrom u k computed exact weight) (divisor : K) :
    DriftsFrom u k (computed / divisor) (exact / divisor) (weight / |divisor|) := by
  have hscaled := h.mul_right divisor⁻¹
  rwa [abs_inv, ← div_eq_mul_inv, ← div_eq_mul_inv, ← div_eq_mul_inv] at hscaled

end DriftsFrom

end Relative

section Decimals

/-- Rounding does not lead below the power of ten a number starts at. -/
theorem zpow_log_le_abs_roundSignificant {digits : ℕ} (hdigits : 1 ≤ digits) {q : ℚ}
    (hq : q ≠ 0) : (10 : ℚ) ^ Int.log 10 |q| ≤ |roundSignificant digits q| := by
  have hulp := ten_zpow_pos (ulpExponent digits q)
  have hlog : (10 : ℚ) ^ Int.log 10 |q| =
      ((10 ^ (digits - 1) : ℤ) : ℚ) * 10 ^ ulpExponent digits q := by
    push_cast
    rw [← zpow_natCast, ← zpow_add₀ (by norm_num)]
    congr 1
    unfold ulpExponent
    omega
  have hstart : ((10 ^ (digits - 1) : ℤ) : ℚ) ≤ |q| / 10 ^ ulpExponent digits q := by
    rw [le_div_iff₀ hulp, ← hlog]
    exact_mod_cast Int.zpow_log_le_self (by norm_num) (abs_pos.mpr hq)
  rw [roundSignificant_eq hq, abs_mul, abs_of_pos hulp, hlog]
  refine mul_le_mul_of_nonneg_right ?_ hulp.le
  rcases le_total 0 q with hnonneg | hnonpos
  · rw [abs_of_nonneg hnonneg] at hstart
    have hmono := roundHalfEven_mono hstart
    rw [roundHalfEven_intCast] at hmono
    exact le_abs.mpr (.inl (Int.cast_le.mpr hmono))
  · rw [abs_of_nonpos hnonpos, neg_div] at hstart
    have hmono := roundHalfEven_mono (le_neg_of_le_neg hstart)
    rw [← Int.cast_neg, roundHalfEven_intCast] at hmono
    refine le_abs.mpr (.inr ?_)
    rw [← Int.cast_neg]
    exact Int.cast_le.mpr (le_neg_of_le_neg hmono)

/-- Half a unit of the last of `digits` digits, in parts of the number. -/
theorem roundsWithin_roundSignificant {digits : ℕ} (hdigits : 1 ≤ digits) :
    RoundsWithin (5 / 10 ^ digits : ℚ) (roundSignificant digits) := by
  have hpow : (0 : ℚ) < 10 ^ digits := by positivity
  have hhalf : ∀ q : ℚ, q ≠ 0 → |roundSignificant digits q - q| ≤
      5 / 10 ^ digits * 10 ^ Int.log 10 |q| := by
    intro q hq
    have hulp := ten_zpow_pos (ulpExponent digits q)
    have hmoved := mul_le_mul_of_nonneg_right
      (roundHalfEven_error (q / 10 ^ ulpExponent digits q)) hulp.le
    rw [← abs_of_pos hulp, ← abs_mul, abs_of_pos hulp, sub_mul,
      div_mul_cancel₀ _ hulp.ne', ← roundSignificant_eq hq] at hmoved
    refine hmoved.trans_eq ?_
    rw [ulpExponent, zpow_sub₀ (by norm_num), zpow_add₀ (by norm_num), zpow_natCast]
    field_simp
    norm_num
  have hsize : ∀ q : ℚ, q ≠ 0 → (10 : ℚ) ^ Int.log 10 |q| ≤ |q| := by
    intro q hq
    exact_mod_cast Int.zpow_log_le_self (by norm_num) (abs_pos.mpr hq)
  refine ⟨by positivity, ?_, fun q => ?_, fun q => ?_⟩
  · rw [div_lt_one hpow]
    calc (5 : ℚ) < 10 ^ 1 := by norm_num
      _ ≤ 10 ^ digits := pow_le_pow_right₀ (by norm_num) hdigits
  · by_cases hq : q = 0
    · simp [hq, roundSignificant]
    · exact (hhalf q hq).trans (mul_le_mul_of_nonneg_left (hsize q hq) (by positivity))
  · by_cases hq : q = 0
    · simp [hq, roundSignificant]
    · exact (hhalf q hq).trans
        (mul_le_mul_of_nonneg_left (zpow_log_le_abs_roundSignificant hdigits hq) (by positivity))

end Decimals

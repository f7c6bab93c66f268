import Mathlib.Tactic.FieldSimp
import Mathlib.Tactic.Positivity
import Mathlib.Tactic.Ring
import TradingPlatform.Foundation.Rounding

/-! # Significant digits

Rounding to significant digits keeps the numbers that have no more of them, and
has no other values. It stays on every decimal grid its argument is on.
-/

/-- A number of so many significant digits at most. -/
def FitsDigits (digits : ℕ) (q : ℚ) : Prop :=
  ∃ k e : ℤ, |k| < 10 ^ digits ∧ q = k * (10 : ℚ) ^ e

/-- A whole number of the units `10 ^ e`. -/
def OnGrid (e : ℤ) (q : ℚ) : Prop := ∃ k : ℤ, q = k * (10 : ℚ) ^ e

section Integers

theorem roundHalfEven_intCast (k : ℤ) : roundHalfEven (k : ℚ) = k := by
  simp [roundHalfEven]

/-- Rounding does not lead beyond an integer. -/
theorem abs_roundHalfEven_le {q : ℚ} {bound : ℤ} (hq : |q| ≤ bound) :
    |roundHalfEven q| ≤ bound := by
  have herror := abs_le.mp (roundHalfEven_error q)
  obtain ⟨hlow, hhigh⟩ := abs_le.mp hq
  have hbelow : ((-bound - 1 : ℤ) : ℚ) < roundHalfEven q := by
    push_cast
    linarith
  have habove : (roundHalfEven q : ℚ) < ((bound + 1 : ℤ) : ℚ) := by
    push_cast
    linarith
  have hbelow := Int.cast_lt.mp hbelow
  have habove := Int.cast_lt.mp habove
  rw [abs_le]
  omega

/-- Numbers in order are rounded in order: a whole unit between the results leaves
no room between two numbers each within a half of its own. -/
theorem roundHalfEven_mono {q r : ℚ} (hqr : q ≤ r) : roundHalfEven q ≤ roundHalfEven r := by
  by_contra hlt
  have hstep : (roundHalfEven r : ℚ) + 1 ≤ roundHalfEven q := by
    exact_mod_cast not_le.mp hlt
  have hq := abs_le.mp (roundHalfEven_error q)
  have hr := abs_le.mp (roundHalfEven_error r)
  have hsame : q = r := by linarith
  exact hlt (le_of_eq (congrArg roundHalfEven hsame))

theorem roundHalfEven_nonneg {q : ℚ} (hq : 0 ≤ q) : 0 ≤ roundHalfEven q := by
  have hzero := roundHalfEven_intCast 0
  rw [Int.cast_zero] at hzero
  exact hzero.symm.trans_le (roundHalfEven_mono hq)

theorem roundHalfEven_nonpos {q : ℚ} (hq : q ≤ 0) : roundHalfEven q ≤ 0 := by
  have hzero := roundHalfEven_intCast 0
  rw [Int.cast_zero] at hzero
  exact (roundHalfEven_mono hq).trans_eq hzero

end Integers

section Grids

variable {e e' : ℤ} {q r : ℚ}

theorem ten_zpow_pos (e : ℤ) : (0 : ℚ) < 10 ^ e := zpow_pos (by norm_num) e

/-- A finer grid has all numbers of a coarser one. -/
theorem OnGrid.of_le (hgrid : OnGrid e q) (hle : e' ≤ e) : OnGrid e' q := by
  obtain ⟨k, rfl⟩ := hgrid
  refine ⟨k * 10 ^ (e - e').toNat, ?_⟩
  have hshift : ((10 : ℚ) ^ (e - e').toNat) = 10 ^ (e - e') := by
    rw [← zpow_natCast, Int.toNat_of_nonneg (by omega)]
  push_cast
  rw [hshift, mul_assoc, ← zpow_add₀ (by norm_num)]
  congr 2
  omega

theorem OnGrid.add (hq : OnGrid e q) (hr : OnGrid e r) : OnGrid e (q + r) := by
  obtain ⟨k, rfl⟩ := hq
  obtain ⟨l, rfl⟩ := hr
  exact ⟨k + l, by push_cast; ring⟩

theorem OnGrid.abs (hq : OnGrid e q) : OnGrid e |q| := by
  obtain ⟨k, rfl⟩ := hq
  exact ⟨|k|, by rw [abs_mul, abs_of_pos (ten_zpow_pos e), Int.cast_abs]⟩

theorem onGrid_div (hgrid : OnGrid e q) : q / 10 ^ e = ((q / 10 ^ e).num : ℚ) := by
  obtain ⟨k, rfl⟩ := hgrid
  rw [mul_div_assoc, div_self (ten_zpow_pos e).ne', mul_one]
  simp

end Grids

section Rounding

variable {digits : ℕ} {q : ℚ} {e : ℤ}

/-- The unit a number is rounded to. -/
def ulpExponent (digits : ℕ) (q : ℚ) : ℤ := Int.log 10 |q| + 1 - digits

theorem roundSignificant_eq (hq : q ≠ 0) : roundSignificant digits q =
    roundHalfEven (q / 10 ^ ulpExponent digits q) * 10 ^ ulpExponent digits q := by
  rw [roundSignificant, if_neg hq]
  rfl

theorem abs_lt_ulp (digits : ℕ) (q : ℚ) :
    |q / 10 ^ ulpExponent digits q| < ((10 ^ digits : ℤ) : ℚ) := by
  have hulp := ten_zpow_pos (ulpExponent digits q)
  have hlog := Int.lt_zpow_succ_log_self (by norm_num : 1 < 10) |q|
  rw [abs_div, abs_of_pos hulp, div_lt_iff₀ hulp]
  push_cast at hlog ⊢
  rw [← zpow_natCast, ← zpow_add₀ (by norm_num)]
  have hsum : (digits : ℤ) + ulpExponent digits q = Int.log 10 |q| + 1 := by
    unfold ulpExponent
    omega
  rwa [hsum]

/-- On a grid no finer than its unit a number is not rounded. -/
theorem roundSignificant_of_onGrid_ulp (hgrid : OnGrid (ulpExponent digits q) q) :
    roundSignificant digits q = q := by
  by_cases hq : q = 0
  · simp [roundSignificant, hq]
  · rw [roundSignificant_eq hq, onGrid_div hgrid, roundHalfEven_intCast, ← onGrid_div hgrid,
      div_mul_cancel₀ _ (ten_zpow_pos _).ne']

/-- Rounding stays on a grid. -/
theorem onGrid_roundSignificant (hgrid : OnGrid e q) :
    OnGrid e (roundSignificant digits q) := by
  by_cases hq : q = 0
  · rw [hq, roundSignificant, if_pos rfl]
    exact ⟨0, by simp⟩
  · rcases le_total (ulpExponent digits q) e with hfine | hcoarse
    · rw [roundSignificant_of_onGrid_ulp (hgrid.of_le hfine)]
      exact hgrid
    · rw [roundSignificant_eq hq]
      exact OnGrid.of_le ⟨_, rfl⟩ hcoarse

theorem fitsDigits_of_abs_le (hdigits : 1 ≤ digits) {k : ℤ} (hk : |k| ≤ 10 ^ digits) :
    FitsDigits digits (k * (10 : ℚ) ^ e) := by
  rcases hk.lt_or_eq with hlt | heq
  · exact ⟨k, e, hlt, rfl⟩
  · obtain ⟨rest, rfl⟩ := Nat.exists_eq_add_of_le' hdigits
    have hpow : (10 : ℤ) ^ rest < 10 ^ (rest + 1) := by
      rw [pow_succ]
      have hpos : (0 : ℤ) < 10 ^ rest := by positivity
      omega
    rcases abs_choice k with habs | habs
    · refine ⟨10 ^ rest, e + 1, by rwa [abs_of_pos (by positivity)], ?_⟩
      rw [← habs, heq, zpow_add₀ (by norm_num)]
      push_cast
      ring
    · refine ⟨-10 ^ rest, e + 1, by rwa [abs_neg, abs_of_pos (by positivity)], ?_⟩
      rw [← neg_neg k, ← habs, heq, zpow_add₀ (by norm_num)]
      push_cast
      ring

/-- A rounded number has no more digits than it is rounded to. -/
theorem fitsDigits_roundSignificant (hdigits : 1 ≤ digits) (q : ℚ) :
    FitsDigits digits (roundSignificant digits q) := by
  by_cases hq : q = 0
  · rw [hq, roundSignificant, if_pos rfl]
    exact ⟨0, 0, by positivity, by simp⟩
  · rw [roundSignificant_eq hq]
    exact fitsDigits_of_abs_le hdigits (abs_roundHalfEven_le (abs_lt_ulp digits q).le)

/-- A number that has no more digits is not rounded. -/
theorem roundSignificant_of_fitsDigits (hfits : FitsDigits digits q) :
    roundSignificant digits q = q := by
  obtain ⟨k, e, hk, rfl⟩ := hfits
  by_cases hzero : (k : ℚ) * 10 ^ e = 0
  · rw [hzero, roundSignificant, if_pos rfl]
  · refine roundSignificant_of_onGrid_ulp (OnGrid.of_le ⟨k, rfl⟩ ?_)
    have hsize : |(k : ℚ) * 10 ^ e| < 10 ^ ((digits : ℤ) + e) := by
      rw [abs_mul, abs_of_pos (ten_zpow_pos e), zpow_add₀ (by norm_num), zpow_natCast]
      refine mul_lt_mul_of_pos_right ?_ (ten_zpow_pos e)
      exact_mod_cast hk
    have hlog := (Int.lt_zpow_iff_log_lt (by norm_num : 1 < 10) (abs_pos.mpr hzero)).mp
      (by exact_mod_cast hsize)
    unfold ulpExponent
    omega

theorem roundSignificant_eq_self_iff (hdigits : 1 ≤ digits) :
    roundSignificant digits q = q ↔ FitsDigits digits q :=
  ⟨fun hsame => hsame ▸ fitsDigits_roundSignificant hdigits q, roundSignificant_of_fitsDigits⟩

theorem roundSignificant_idem (hdigits : 1 ≤ digits) (q : ℚ) :
    roundSignificant digits (roundSignificant digits q) = roundSignificant digits q :=
  roundSignificant_of_fitsDigits (fitsDigits_roundSignificant hdigits q)

theorem roundSignificant_nonneg (digits : ℕ) (hq : 0 ≤ q) : 0 ≤ roundSignificant digits q := by
  by_cases hzero : q = 0
  · rw [hzero, roundSignificant, if_pos rfl]
  · rw [roundSignificant_eq hzero]
    have hulp := ten_zpow_pos (ulpExponent digits q)
    exact mul_nonneg (Int.cast_nonneg (roundHalfEven_nonneg (div_nonneg hq hulp.le))) hulp.le

theorem roundSignificant_nonpos (digits : ℕ) (hq : q ≤ 0) : roundSignificant digits q ≤ 0 := by
  by_cases hzero : q = 0
  · rw [hzero, roundSignificant, if_pos rfl]
  · rw [roundSignificant_eq hzero]
    have hulp := ten_zpow_pos (ulpExponent digits q)
    exact mul_nonpos_of_nonpos_of_nonneg
      (Int.cast_nonpos.mpr (roundHalfEven_nonpos (div_nonpos_of_nonpos_of_nonneg hq hulp.le)))
      hulp.le

end Rounding

import Mathlib.Tactic.Linarith
import TradingPlatform.Foundation.Decimal

/-! # Rounding

Rounding to an integer moves a number by a half at most, so rounding to
significant digits keeps every number but zero away from zero.
-/

theorem roundHalfEven_error (q : ℚ) : |(roundHalfEven q : ℚ) - q| ≤ 1 / 2 := by
  have hbelow := Int.floor_le q
  have habove := Int.lt_floor_add_one q
  unfold roundHalfEven
  dsimp only
  rw [abs_le]
  split_ifs with hlow hhigh heven
  · constructor <;> linarith
  · push_cast
    constructor <;> linarith
  · constructor <;> linarith
  · push_cast
    constructor <;> linarith

theorem roundHalfEven_ne_zero {q : ℚ} (hq : 1 ≤ |q|) : roundHalfEven q ≠ 0 := by
  intro hzero
  have herror := roundHalfEven_error q
  rw [hzero, Int.cast_zero, zero_sub, abs_neg] at herror
  linarith

/-- The scaled number has a size of at least one, whatever the digits. -/
theorem roundSignificant_eq_zero {digits : ℕ} (hdigits : 1 ≤ digits) {q : ℚ} :
    roundSignificant digits q = 0 ↔ q = 0 := by
  constructor
  · intro hround
    by_contra hq
    have hulp : (0 : ℚ) < 10 ^ (Int.log 10 |q| + 1 - digits) := zpow_pos (by norm_num) _
    simp only [roundSignificant, hq, if_false, mul_eq_zero, hulp.ne', or_false,
      Int.cast_eq_zero] at hround
    apply roundHalfEven_ne_zero _ hround
    rw [abs_div, abs_of_pos hulp, one_le_div hulp]
    calc (10 : ℚ) ^ (Int.log 10 |q| + 1 - digits)
        ≤ 10 ^ Int.log 10 |q| := zpow_le_zpow_right₀ (by norm_num) (by omega)
      _ ≤ |q| := by exact_mod_cast Int.zpow_log_le_self (by norm_num) (abs_pos.mpr hq)
  · intro hq
    simp [roundSignificant, hq]

theorem DecimalContext.default_round_eq_zero {q : ℚ} :
    DecimalContext.default.round q = 0 ↔ q = 0 :=
  roundSignificant_eq_zero (by norm_num)

import TradingPlatform.Foundation.PlainTexts
import TradingPlatform.Foundation.Request

/-! # Submitted numbers

A number of a request is written in plain notation, rounded to 28 digits. The text
denotes the submitted number where 28 digits hold it, is the same for equal positive
numbers, and is kept when it is read again.
-/

/-- The number a decoded value denotes. -/
def Json.submittedNumber : Json → Option ℚ
  | .int n => some n
  | .float printed => Decimal.valueOfText? printed
  | .str text => Decimal.valueOfText? text
  | _ => none

namespace Decimal

theorem ofText?_toString (n : ℤ) : ofText? (toString n) = some ⟨decide (n < 0), n.natAbs, 0⟩ := by
  have hdigits := fun m : ℕ => (Nat.toDigits_ne_nil : Nat.toDigits 10 m ≠ [])
  have hall := fun (m : ℕ) c (hc : c ∈ Nat.toDigits 10 m) =>
    Nat.isDigit_of_mem_toDigits (by decide) (by decide) hc
  have hplain := fun (negative : Bool) (m : ℕ) =>
    @ofText?_plain (Nat.toDigits 10 m) [] negative (hdigits m) (hall m) (by simp)
  simp only [List.append_nil, List.isEmpty_nil, if_true, Nat.ofDigitChars_ten_toDigits,
    List.length_nil] at hplain
  cases n with
  | ofNat m =>
      have htext := hplain false m
      rw [if_neg Bool.false_ne_true, List.nil_append] at htext
      exact htext
  | negSucc m =>
      have htext := hplain true (m + 1)
      have hminus : String.ofList ['-'] = "-" := by decide
      rw [if_pos rfl, String.ofList_append, hminus] at htext
      rw [decide_eq_true (Int.negSucc_lt_zero m)]
      exact htext

end Decimal

theorem Numeral.ofText?_eq_some {numeral : Numeral} :
    Numeral.ofText? numeral.text = some numeral := by
  unfold Numeral.ofText?
  split
  next value hvalue =>
    obtain ⟨text, number, hdenotes⟩ := numeral
    obtain rfl := Option.some.inj (hvalue.symm.trans hdenotes)
    rfl
  next hnone => exact absurd (hnone.symm.trans numeral.denotes) (by simp)

section Readings

variable {value value' : Json} {numeral numeral' : Numeral} {submitted : ℚ}

theorem numberText_default {text : String} {d : Decimal} (hread : Decimal.ofText? text = some d) :
    ∃ numeral, numberText .default text = some numeral ∧ numeral.text = d.plainText .default ∧
      numeral.value = DecimalContext.default.round d.value := by
  obtain ⟨read, hplain, -, hvalue⟩ := Decimal.ofText?_plainText d
  have hdenotes : Decimal.valueOfText? (d.plainText .default) =
      some (DecimalContext.default.round d.value) := by
    rw [Decimal.valueOfText?, hplain, Option.map_some, hvalue]
  refine ⟨⟨d.plainText .default, _, hdenotes⟩, ?_, rfl, rfl⟩
  rw [numberText, hread, Option.filter_some_pos rfl, Option.bind_some]
  exact @Numeral.ofText?_eq_some ⟨d.plainText .default, _, hdenotes⟩

/-- The text of a number that is read comes from a decimal of the submitted value. -/
theorem jsonNumberText_eq_some (hnumber : jsonNumberText .default value = some numeral) :
    ∃ d : Decimal, value.submittedNumber = some d.value ∧ numeral.text = d.plainText .default ∧
      numeral.value = DecimalContext.default.round d.value := by
  have htext : ∀ text, numberText .default text = some numeral → ∃ d : Decimal,
      Decimal.ofText? text = some d ∧ numeral.text = d.plainText .default ∧
        numeral.value = DecimalContext.default.round d.value := by
    intro text hnumber
    obtain ⟨d, hfilter, -⟩ := Option.bind_eq_some_iff.mp hnumber
    have hread := (Option.filter_eq_some_iff.mp hfilter).1
    obtain ⟨other, hother, hplain, hvalue⟩ := numberText_default hread
    obtain rfl := Option.some.inj (hother.symm.trans hnumber)
    exact ⟨d, hread, hplain, hvalue⟩
  cases value with
  | int n =>
      obtain ⟨d, hread, hplain, hvalue⟩ := htext _ hnumber
      refine ⟨d, ?_, hplain, hvalue⟩
      rw [Decimal.ofText?_toString] at hread
      obtain rfl := Option.some.inj hread
      simp only [Json.submittedNumber, Decimal.value, decide_eq_true_eq, zpow_zero, mul_one,
        Option.some.injEq]
      split
      next hneg =>
        rw [neg_one_mul, Nat.cast_natAbs, abs_of_neg hneg]
        push_cast
        ring
      next hpos =>
        rw [one_mul, Nat.cast_natAbs, abs_of_nonneg (not_lt.mp hpos)]
  | float printed =>
      obtain ⟨d, hread, hplain, hvalue⟩ := htext _ hnumber
      exact ⟨d, by rw [Json.submittedNumber, Decimal.valueOfText?, hread, Option.map_some],
        hplain, hvalue⟩
  | str text =>
      obtain ⟨d, hread, hplain, hvalue⟩ := htext _ hnumber
      exact ⟨d, by rw [Json.submittedNumber, Decimal.valueOfText?, hread, Option.map_some],
        hplain, hvalue⟩
  | null => cases hnumber
  | bool flag => cases hnumber
  | arr items => cases hnumber
  | obj fields => cases hnumber

/-- The number of a text that is read is the submitted one, rounded. -/
theorem jsonNumberText_value (hnumber : jsonNumberText .default value = some numeral)
    (hsubmitted : value.submittedNumber = some submitted) :
    numeral.value = roundSignificant 28 submitted := by
  obtain ⟨d, hd, -, hvalue⟩ := jsonNumberText_eq_some hnumber
  obtain rfl := Option.some.inj (hd.symm.trans hsubmitted)
  exact hvalue

theorem jsonNumberText_value_eq_iff (hnumber : jsonNumberText .default value = some numeral)
    (hsubmitted : value.submittedNumber = some submitted) :
    numeral.value = submitted ↔ FitsDigits 28 submitted := by
  rw [jsonNumberText_value hnumber hsubmitted]
  exact roundSignificant_eq_self_iff (by decide)

/-- Equal positive numbers have equal texts. -/
theorem jsonNumberText_text_congr (hnumber : jsonNumberText .default value = some numeral)
    (hnumber' : jsonNumberText .default value' = some numeral') (hpositive : 0 < numeral.value)
    (hsame : value.submittedNumber = value'.submittedNumber) : numeral.text = numeral'.text := by
  obtain ⟨d, hd, htext, hvalue⟩ := jsonNumberText_eq_some hnumber
  obtain ⟨d', hd', htext', hvalue'⟩ := jsonNumberText_eq_some hnumber'
  have heq : d.value = d'.value := Option.some.inj (hd.symm.trans (hsame.trans hd'))
  have hsign : ∀ d : Decimal, 0 < DecimalContext.default.round d.value → d.negative = false := by
    intro d hround
    by_contra hneg
    exact absurd (roundSignificant_nonpos 28 (Decimal.value_nonpos (Bool.not_eq_false _ ▸ hneg)))
      (not_le.mpr hround)
  rw [hvalue] at hpositive
  rw [htext, htext']
  exact Decimal.plainText_congr ((hsign d hpositive).trans (hsign d' (heq ▸ hpositive)).symm)
    (congrArg _ heq)

/-- A text that was read is kept when it is read again. -/
theorem jsonNumberText_str_text (hnumber : jsonNumberText .default value = some numeral) :
    jsonNumberText .default (.str numeral.text) = some numeral := by
  obtain ⟨d, -, htext, hvalue⟩ := jsonNumberText_eq_some hnumber
  obtain ⟨read, hplain, hsign, hread⟩ := Decimal.ofText?_plainText d
  obtain ⟨again, hagain, htext', hvalue'⟩ := numberText_default (htext ▸ hplain)
  have hround : DecimalContext.default.round read.value = DecimalContext.default.round d.value := by
    rw [hread]
    exact roundSignificant_idem (by decide) d.value
  have hsame : again.text = numeral.text :=
    htext'.trans ((Decimal.plainText_congr hsign hround).trans htext.symm)
  have hnumeral : some again = some numeral := by
    rw [← Numeral.ofText?_eq_some, hsame, Numeral.ofText?_eq_some]
  exact hagain.trans hnumeral

end Readings

import Mathlib.Tactic.FieldSimp
import TradingPlatform.Foundation.SignificantDigits

/-! # Numbers in plain notation

A number written without an exponent is read as the number it was rounded to,
and numbers of one sign and size are written alike.
-/

namespace Decimal

section Reading

variable {whole fraction : List Char}

theorem digitValue_of_isDigit {c : Char} (hdigit : c.isDigit = true) :
    Text.digitValue c = some (c.toNat - '0'.toNat) := by
  simp only [Char.isDigit, Bool.and_eq_true, decide_eq_true_eq] at hdigit
  have hlow : 48 ≤ c.toNat := hdigit.1
  have hhigh : c.toNat ≤ 57 := hdigit.2
  unfold Text.digitValue Text.zeroDigits
  rw [List.find?_cons_of_pos]
  · rfl
  · simp only [Bool.and_eq_true, decide_eq_true_eq]
    omega

/-- A run of digits is read as the number it spells. -/
theorem digitsValue_eq {digits : List Char} (hne : digits ≠ [])
    (hdigits : ∀ c ∈ digits, c.isDigit = true) :
    Text.digitsValue digits = some (Nat.ofDigitChars 10 digits 0) := by
  have hfold : ∀ (digits : List Char) (acc : Nat), (∀ c ∈ digits, c.isDigit = true) →
      digits.foldl (fun acc c => acc.bind fun n => (Text.digitValue c).map (10 * n + ·))
        (some acc) = some (Nat.ofDigitChars 10 digits acc) := by
    intro digits
    induction digits with
    | nil => exact fun acc _ => rfl
    | cons c rest ih =>
        intro acc hdigits
        rw [List.foldl_cons, Option.bind_some, digitValue_of_isDigit (hdigits c List.mem_cons_self),
          Option.map_some, ih _ fun other hother => hdigits other (List.mem_cons_of_mem _ hother),
          Nat.ofDigitChars_cons]
  unfold Text.digitsValue
  rw [if_neg (by simpa using hne)]
  exact hfold digits 0 hdigits

theorem ne_of_isDigit_or_point {c other : Char} (hc : c.isDigit = true ∨ c = '.')
    (hdigit : other.isDigit = false) (hpoint : other ≠ '.') : c ≠ other := by
  rintro rfl
  rcases hc with hc | hc
  · rw [hdigit] at hc
    exact Bool.false_ne_true hc
  · exact hpoint hc

theorem isSpace_of_isDigit_or_point {c : Char} (hc : c.isDigit = true ∨ c = '.') :
    Text.isSpace c = false := by
  have hcode : 46 ≤ c.toNat ∧ c.toNat ≤ 57 := by
    rcases hc with hdigit | rfl
    · simp only [Char.isDigit, Bool.and_eq_true, decide_eq_true_eq] at hdigit
      have hlow : 48 ≤ c.toNat := hdigit.1
      exact ⟨by omega, hdigit.2⟩
    · decide
  apply Bool.eq_false_iff.mpr
  intro hspace
  simp only [Text.isSpace, Bool.or_eq_true, Bool.and_eq_true, decide_eq_true_eq,
    beq_iff_eq] at hspace
  omega

theorem mem_plain {c : Char} (hwhole : ∀ c ∈ whole, c.isDigit = true)
    (hfraction : ∀ c ∈ fraction, c.isDigit = true)
    (hc : c ∈ whole ++ if fraction.isEmpty then [] else '.' :: fraction) :
    c.isDigit = true ∨ c = '.' := by
  rcases List.mem_append.mp hc with hc | hc
  · exact Or.inl (hwhole c hc)
  · split_ifs at hc with hempty
    · simp at hc
    · rcases List.mem_cons.mp hc with hpoint | hdigit
      · exact Or.inr hpoint
      · exact Or.inl (hfraction c hdigit)

/-- Digits with a point between them and a sign in front are read as what they spell. -/
theorem ofText?_plain (negative : Bool) (hne : whole ≠ [])
    (hwhole : ∀ c ∈ whole, c.isDigit = true) (hfraction : ∀ c ∈ fraction, c.isDigit = true) :
    ofText? (String.ofList ((if negative then ['-'] else []) ++
        (whole ++ if fraction.isEmpty then [] else '.' :: fraction))) =
      some ⟨negative, Nat.ofDigitChars 10 (whole ++ fraction) 0, -fraction.length⟩ := by
  have hmem := fun c => @mem_plain whole fraction c hwhole hfraction
  generalize hcs : (whole ++ if fraction.isEmpty then [] else '.' :: fraction) = cs at hmem ⊢
  have hsign : ∀ c ∈ (if negative then ['-'] else []) ++ cs,
      c = '-' ∨ c.isDigit = true ∨ c = '.' := by
    intro c hc
    rcases List.mem_append.mp hc with hc | hc
    · split at hc
      · exact Or.inl (List.mem_singleton.mp hc)
      · cases hc
    · exact Or.inr (hmem c hc)
  have hstrip : Text.stripChars ((if negative then ['-'] else []) ++ cs) =
      (if negative then ['-'] else []) ++ cs := by
    have htext := @Text.strip_of_noSpace
      (String.ofList ((if negative then ['-'] else []) ++ cs)) (by
      rw [String.toList_ofList]
      intro c hc
      rcases hsign c hc with rfl | hc
      · rfl
      · exact isSpace_of_isDigit_or_point hc)
    rw [Text.strip, String.toList_ofList] at htext
    exact String.ofList_inj.mp htext
  have hfilter : ((if negative then ['-'] else []) ++ cs).filter (· != '_') =
      (if negative then ['-'] else []) ++ cs := by
    apply List.filter_eq_self.mpr
    intro c hc
    rcases hsign c hc with rfl | hc
    · rfl
    · exact bne_iff_ne.mpr (ne_of_isDigit_or_point hc rfl (by decide))
  have hmantissa : cs.takeWhile (fun c => c != 'e' && c != 'E') = cs := by
    apply List.takeWhile_eq_self_iff.mpr
    intro c hc
    simp only [Bool.and_eq_true, bne_iff_ne]
    exact ⟨ne_of_isDigit_or_point (hmem c hc) rfl (by decide),
      ne_of_isDigit_or_point (hmem c hc) rfl (by decide)⟩
  have hsigned : Text.signed ((if negative then ['-'] else []) ++ cs) = (negative, cs) := by
    cases negative with
    | true => rfl
    | false =>
        rw [if_neg Bool.false_ne_true, List.nil_append]
        unfold Text.signed
        split
        next =>
          exact absurd rfl (ne_of_isDigit_or_point (hmem '-' List.mem_cons_self) rfl (by decide))
        next =>
          exact absurd rfl (ne_of_isDigit_or_point (hmem '+' List.mem_cons_self) rfl (by decide))
        next => rfl
  have hparts : cs.takeWhile (· != '.') = whole ∧ (cs.drop whole.length).drop 1 = fraction := by
    have hpoint : ∀ c ∈ whole, (c != '.') = true := fun c hc =>
      bne_iff_ne.mpr (fun heq => absurd (hwhole c hc) (by rw [heq]; decide))
    rw [← hcs, List.takeWhile_append_of_pos hpoint, List.drop_left]
    cases fraction with
    | nil => simp
    | cons c rest => simp
  have hdigits := digitsValue_eq (List.append_ne_nil_of_left_ne_nil hne fraction)
    fun c hc => (List.mem_append.mp hc).elim (hwhole c) (hfraction c)
  unfold ofText?
  rw [String.toList_ofList, hstrip, hfilter]
  dsimp only
  rw [hsigned]
  dsimp only
  rw [hmantissa, List.drop_length]
  dsimp only
  rw [hparts.1, hparts.2, Option.bind_some, ofDigits, hdigits, Option.map_some, zero_sub]

end Reading

section Writing

variable {places scaled : Nat}

/-- The digits of a number, with zeros in front up to a digit before the point. -/
def padded (places scaled : Nat) : List Char :=
  List.replicate (places + 1 - (Nat.toDigits 10 scaled).length) '0' ++ Nat.toDigits 10 scaled

/-- Whole part and fraction of so many units of a decimal place. -/
def plainParts (places scaled : Nat) : List Char × List Char :=
  ((padded places scaled).take ((padded places scaled).length - places),
    ((padded places scaled).drop ((padded places scaled).length - places)).rdropWhile (· == '0'))

theorem plainText_eq (ctx : DecimalContext) (d : Decimal) :
    let places := (-d.exponent).toNat
    let parts := plainParts places (⌊|ctx.round d.value| * 10 ^ places⌋).toNat
    d.plainText ctx = String.ofList ((if d.negative then ['-'] else []) ++
      (parts.1 ++ if parts.2.isEmpty then [] else '.' :: parts.2)) := by
  intro places parts
  rw [← List.append_assoc]
  rfl

theorem isDigit_of_mem_padded {c : Char} (hc : c ∈ padded places scaled) : c.isDigit = true := by
  rcases List.mem_append.mp hc with hzero | hc
  · rw [List.eq_of_mem_replicate hzero]
    rfl
  · exact Nat.isDigit_of_mem_toDigits (by decide) (by decide) hc

theorem length_padded : places + 1 ≤ (padded places scaled).length := by
  unfold padded
  rw [List.length_append, List.length_replicate]
  omega

theorem ofDigitChars_padded : Nat.ofDigitChars 10 (padded places scaled) 0 = scaled := by
  rw [padded, Nat.ofDigitChars_append, Nat.ofDigitChars_replicate_zero, Nat.mul_zero,
    Nat.ofDigitChars_ten_toDigits]

theorem plainParts_digits (places scaled : Nat) : (plainParts places scaled).1 ≠ [] ∧
    (∀ c ∈ (plainParts places scaled).1, c.isDigit = true) ∧
      ∀ c ∈ (plainParts places scaled).2, c.isDigit = true := by
  refine ⟨fun hnil => ?_, fun c hc => ?_, fun c hc => ?_⟩
  · have hlength := @length_padded places scaled
    have hzero :
        ((padded places scaled).take ((padded places scaled).length - places)).length = 0 :=
      congrArg List.length hnil
    rw [List.length_take] at hzero
    omega
  · exact isDigit_of_mem_padded (List.mem_of_mem_take hc)
  · exact isDigit_of_mem_padded (List.mem_of_mem_drop ((List.rdropWhile_prefix _ _).subset hc))

/-- The parts spell the number in units of their last decimal place. -/
theorem plainParts_value (places scaled : Nat) :
    let parts := plainParts places scaled
    (Nat.ofDigitChars 10 (parts.1 ++ parts.2) 0 : ℚ) * 10 ^ (-(parts.2.length : ℤ)) =
      scaled * 10 ^ (-(places : ℤ)) := by
  intro parts
  have hlength := @length_padded places scaled
  obtain ⟨zeros, hzeros⟩ : ∃ zeros,
      (padded places scaled).drop ((padded places scaled).length - places) =
        parts.2 ++ List.replicate zeros '0' :=
    ⟨_, (List.rdropWhile_append_rtakeWhile).symm.trans
      (congrArg (parts.2 ++ ·) (List.eq_replicate_length.mpr fun c hc =>
        (beq_iff_eq (a := c)).mp (List.mem_rtakeWhile_imp (p := (· == '0')) hc)))⟩
  have hplaces : places = parts.2.length + zeros := by
    have hdrop := congrArg List.length hzeros
    rw [List.length_drop, List.length_append, List.length_replicate] at hdrop
    omega
  have hscaled : scaled = 10 ^ zeros * Nat.ofDigitChars 10 (parts.1 ++ parts.2) 0 := by
    have hvalue := @ofDigitChars_padded places scaled
    rw [← List.take_append_drop ((padded places scaled).length - places) (padded places scaled),
      hzeros, ← List.append_assoc, Nat.ofDigitChars_append,
      Nat.ofDigitChars_replicate_zero] at hvalue
    exact hvalue.symm
  rw [hscaled, hplaces]
  push_cast
  rw [neg_add, zpow_add₀ (by norm_num), zpow_neg _ (zeros : ℤ), zpow_natCast]
  field_simp

theorem padded_succ (places scaled : Nat) :
    padded (places + 1) (scaled * 10) = padded places scaled ++ ['0'] := by
  unfold padded
  rcases Nat.eq_zero_or_pos scaled with rfl | hpos
  · rw [Nat.zero_mul, Nat.toDigits_zero, List.length_singleton, Nat.add_sub_cancel,
      Nat.add_sub_cancel]
    simp only [← List.replicate_succ']
  · have hdigits : Nat.toDigits 10 (scaled * 10) = Nat.toDigits 10 scaled ++ ['0'] := by
      have happend := Nat.toDigits_append_toDigits (b := 10) (by decide) hpos (d := 0) (by decide)
      rw [Nat.toDigits_zero] at happend
      rw [happend, Nat.add_zero, Nat.mul_comm]
    rw [hdigits, List.length_append, List.length_singleton, ← List.append_assoc,
      Nat.add_sub_add_right]

/-- A unit of a decimal place is ten of the next. -/
theorem plainParts_succ (places scaled : Nat) :
    plainParts (places + 1) (scaled * 10) = plainParts places scaled := by
  have hpadded := padded_succ places scaled
  have hlength := @length_padded places scaled
  have hcut : (padded places scaled ++ ['0']).length - (places + 1) =
      (padded places scaled).length - places := by
    rw [List.length_append, List.length_singleton]
    omega
  unfold plainParts
  rw [hpadded, hcut, List.take_append_of_le_length (by omega),
    List.drop_append_of_le_length (by omega), List.rdropWhile_concat_pos _ _ _ rfl]

theorem plainParts_add (places scaled more : Nat) :
    plainParts (places + more) (scaled * 10 ^ more) = plainParts places scaled := by
  induction more with
  | zero => simp
  | succ more ih => rw [← ih, ← Nat.add_assoc, Nat.pow_succ, ← Nat.mul_assoc, plainParts_succ]

end Writing

section Rounded

variable {d d' : Decimal}

theorem onGrid_value (d : Decimal) : OnGrid d.exponent d.value := by
  refine ⟨(if d.negative then -1 else 1) * d.coefficient, ?_⟩
  unfold value
  split <;> push_cast <;> ring

theorem value_nonneg (hsign : d.negative = false) : 0 ≤ d.value := by
  unfold value
  rw [hsign, if_neg Bool.false_ne_true, one_mul]
  exact mul_nonneg (Nat.cast_nonneg _) (zpow_nonneg (by norm_num) _)

theorem value_nonpos (hsign : d.negative = true) : d.value ≤ 0 := by
  unfold value
  rw [hsign, if_pos rfl, neg_one_mul, neg_mul]
  exact neg_nonpos.mpr (mul_nonneg (Nat.cast_nonneg _) (zpow_nonneg (by norm_num) _))

/-- The size of the rounded number in units of its last decimal place. -/
theorem scaled_eq (d : Decimal) :
    let places := (-d.exponent).toNat
    ((⌊|DecimalContext.default.round d.value| * 10 ^ places⌋.toNat : ℕ) : ℚ) =
      |DecimalContext.default.round d.value| * 10 ^ places := by
  intro places
  have hgrid : OnGrid (-(places : ℤ)) |DecimalContext.default.round d.value| :=
    (onGrid_roundSignificant (d.onGrid_value.of_le (by omega))).abs
  obtain ⟨k, hk⟩ := hgrid
  have hunits : |DecimalContext.default.round d.value| * 10 ^ places = k := by
    rw [hk, mul_assoc, zpow_neg, zpow_natCast, inv_mul_cancel₀ (by positivity), mul_one]
  have hnonneg : 0 ≤ k := by
    have hsize := mul_nonneg (abs_nonneg (DecimalContext.default.round d.value))
      (pow_nonneg (by norm_num : (0 : ℚ) ≤ 10) places)
    rw [hunits] at hsize
    exact_mod_cast hsize
  rw [hunits, Int.floor_intCast]
  exact_mod_cast Int.toNat_of_nonneg hnonneg

/-- The text of a number is read as the number it was rounded to. -/
theorem ofText?_plainText (d : Decimal) :
    ∃ read, ofText? (d.plainText .default) = some read ∧ read.negative = d.negative ∧
      read.value = DecimalContext.default.round d.value := by
  have htext := plainText_eq .default d
  have hscaled := scaled_eq d
  dsimp only at htext hscaled
  generalize hplaces : (-d.exponent).toNat = places at htext hscaled
  generalize hunits : (⌊|DecimalContext.default.round d.value| * 10 ^ places⌋).toNat = scaled
    at htext hscaled
  obtain ⟨hne, hwhole, hfraction⟩ := plainParts_digits places scaled
  have hplain := ofText?_plain d.negative hne hwhole hfraction
  refine ⟨_, (congrArg ofText? htext).trans hplain, rfl, ?_⟩
  have hsize : (scaled : ℚ) * 10 ^ (-(places : ℤ)) = |DecimalContext.default.round d.value| := by
    rw [hscaled, mul_assoc, zpow_neg, zpow_natCast, mul_inv_cancel₀ (by positivity), mul_one]
  rw [value, mul_assoc, plainParts_value, hsize]
  cases hsign : d.negative with
  | true =>
      have hround : DecimalContext.default.round d.value ≤ 0 :=
        roundSignificant_nonpos 28 (value_nonpos hsign)
      rw [if_pos rfl, abs_of_nonpos hround, neg_one_mul, neg_neg]
  | false =>
      have hround : 0 ≤ DecimalContext.default.round d.value :=
        roundSignificant_nonneg 28 (value_nonneg hsign)
      rw [if_neg Bool.false_ne_true, one_mul, abs_of_nonneg hround]

/-- Numbers of one sign that are rounded to one number are written alike. -/
theorem plainText_congr (hsign : d.negative = d'.negative)
    (hvalue : DecimalContext.default.round d.value = DecimalContext.default.round d'.value) :
    d.plainText .default = d'.plainText .default := by
  wlog hle : (-d.exponent).toNat ≤ (-d'.exponent).toNat generalizing d d'
  · exact (this hsign.symm hvalue.symm (le_of_not_ge hle)).symm
  · obtain ⟨more, hmore⟩ := Nat.exists_eq_add_of_le hle
    have hscaled := scaled_eq d
    have hscaled' := scaled_eq d'
    have hparts : plainParts (-d.exponent).toNat
          (⌊|DecimalContext.default.round d.value| * 10 ^ (-d.exponent).toNat⌋).toNat =
        plainParts (-d'.exponent).toNat
          (⌊|DecimalContext.default.round d'.value| * 10 ^ (-d'.exponent).toNat⌋).toNat := by
      rw [hmore, ← plainParts_add _ _ more, ← hmore]
      congr 1
      apply Nat.cast_injective (R := ℚ)
      rw [hscaled', Nat.cast_mul, hscaled, ← hvalue, hmore, pow_add]
      push_cast
      ring
    rw [plainText_eq, plainText_eq, hparts, hsign]

end Rounded

/-- The text of a number without a sign is read as such a number. -/
theorem exists_ofText?_plainText (ctx : DecimalContext) {d : Decimal} (hsign : d.negative = false) :
    ∃ read, ofText? (d.plainText ctx) = some read ∧ 0 ≤ read.value := by
  have htext := plainText_eq ctx d
  dsimp only at htext
  obtain ⟨hne, hwhole, hfraction⟩ := plainParts_digits (-d.exponent).toNat
    (⌊|ctx.round d.value| * 10 ^ (-d.exponent).toNat⌋).toNat
  exact ⟨_, (congrArg ofText? htext).trans (ofText?_plain d.negative hne hwhole hfraction),
    value_nonneg hsign⟩

end Decimal

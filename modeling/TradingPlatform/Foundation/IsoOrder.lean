import Mathlib.Data.List.Lex
import Mathlib.Data.String.Basic
import TradingPlatform.Foundation.IsoTexts

/-! # The order of ISO texts

ISO texts of one length are ordered like their instants. The text of a whole
second leaves the fraction out, and comes after every other text of its second.
-/

namespace Datetime

section Places

variable {x x' y y' : List Char}

/-- Texts that start with parts of one length are compared part by part. -/
theorem append_lt_append_iff (hlength : x.length = x'.length) :
    x ++ y < x' ++ y' ↔ x < x' ∨ x = x' ∧ y < y' := by
  induction x generalizing x' with
  | nil =>
      obtain rfl : x' = [] := List.length_eq_zero_iff.mp hlength.symm
      simp
  | cons c cs ih =>
      cases x' with
      | nil => simp at hlength
      | cons d ds =>
          have hrest := ih (Nat.succ.inj hlength)
          rw [List.cons_append, List.cons_append, List.cons_lt_cons_iff, List.cons_lt_cons_iff,
            hrest, List.cons.injEq]
          constructor
          · rintro (hlt | ⟨rfl, hlt | ⟨rfl, hlt⟩⟩)
            · exact Or.inl (Or.inl hlt)
            · exact Or.inl (Or.inr ⟨rfl, hlt⟩)
            · exact Or.inr ⟨⟨rfl, rfl⟩, hlt⟩
          · rintro ((hlt | ⟨rfl, hlt⟩) | ⟨⟨rfl, rfl⟩, hlt⟩)
            · exact Or.inl hlt
            · exact Or.inr ⟨rfl, Or.inl hlt⟩
            · exact Or.inr ⟨rfl, Or.inr ⟨rfl, hlt⟩⟩

theorem digit_bounds {c : Char} (hc : c.isDigit = true) : 48 ≤ c.toNat ∧ c.toNat ≤ 57 := by
  simp only [Char.isDigit, Bool.and_eq_true, decide_eq_true_eq] at hc
  exact ⟨hc.1, hc.2⟩

theorem ofDigitChars_lt {digits : List Char} (hdigits : ∀ c ∈ digits, c.isDigit = true) :
    Nat.ofDigitChars 10 digits 0 < 10 ^ digits.length := by
  induction digits with
  | nil => simp
  | cons c rest ih =>
      have hc := digit_bounds (hdigits c List.mem_cons_self)
      have hrest := ih fun d hd => hdigits d (List.mem_cons_of_mem _ hd)
      rw [Nat.ofDigitChars_cons, Nat.ofDigitChars_eq_ofDigitChars_zero, List.length_cons,
        Nat.pow_succ]
      have hzero : '0'.toNat = 48 := rfl
      have hdigit : 10 ^ rest.length * (10 * 0 + (c.toNat - '0'.toNat)) ≤ 10 ^ rest.length * 9 :=
        Nat.mul_le_mul_left _ (by omega)
      omega

/-- Digits of one count are ordered like the numbers they spell. -/
theorem ofDigitChars_lt_of_lt (hx : ∀ c ∈ x, c.isDigit = true) (hx' : ∀ c ∈ x', c.isDigit = true)
    (hlength : x.length = x'.length) (hlt : x < x') :
    Nat.ofDigitChars 10 x 0 < Nat.ofDigitChars 10 x' 0 := by
  induction x generalizing x' with
  | nil =>
      obtain rfl : x' = [] := List.length_eq_zero_iff.mp hlength.symm
      exact absurd hlt (List.not_lt_nil _)
  | cons c cs ih =>
      cases x' with
      | nil => simp at hlength
      | cons d ds =>
          have hc := digit_bounds (hx c List.mem_cons_self)
          have hd := digit_bounds (hx' d List.mem_cons_self)
          have hcs : ∀ e ∈ cs, e.isDigit = true := fun e he => hx e (List.mem_cons_of_mem _ he)
          have hds : ∀ e ∈ ds, e.isDigit = true := fun e he => hx' e (List.mem_cons_of_mem _ he)
          have hsame : cs.length = ds.length := Nat.succ.inj hlength
          have hzero : '0'.toNat = 48 := rfl
          rw [Nat.ofDigitChars_cons, Nat.ofDigitChars_cons, Nat.ofDigitChars_eq_ofDigitChars_zero,
            @Nat.ofDigitChars_eq_ofDigitChars_zero ds, hsame, hzero]
          rcases List.cons_lt_cons_iff.mp hlt with hfirst | ⟨rfl, hrest⟩
          · have hfirst : c.toNat < d.toNat := hfirst
            have hbound := ofDigitChars_lt hcs
            rw [hsame] at hbound
            calc
              _ < 10 ^ ds.length * (10 * 0 + (c.toNat - 48)) + 10 ^ ds.length :=
                Nat.add_lt_add_left hbound _
              _ = 10 ^ ds.length * (c.toNat - 48 + 1) := by ring
              _ ≤ 10 ^ ds.length * (10 * 0 + (d.toNat - 48)) := Nat.mul_le_mul_left _ (by omega)
              _ ≤ _ := Nat.le_add_right _ _
          · exact Nat.add_lt_add_left (ih hcs hds hsame hrest) _

variable {width m n : Nat}

theorem ofDigitChars_paddedDigits : Nat.ofDigitChars 10 (paddedDigits width n) 0 = n := by
  rw [paddedDigits, Nat.ofDigitChars_append, Nat.ofDigitChars_replicate_zero, Nat.mul_zero,
    Nat.ofDigitChars_ten_toDigits]

theorem paddedDigits_inj : paddedDigits width m = paddedDigits width n ↔ m = n := by
  refine ⟨fun hsame => ?_, fun heq => heq ▸ rfl⟩
  rw [← @ofDigitChars_paddedDigits width m, hsame, ofDigitChars_paddedDigits]

theorem paddedDigits_lt_iff (hwidth : 0 < width) (hm : m < 10 ^ width) (hn : n < 10 ^ width) :
    paddedDigits width m < paddedDigits width n ↔ m < n := by
  have hlength : (paddedDigits width m).length = (paddedDigits width n).length := by
    rw [length_paddedDigits hwidth hm, length_paddedDigits hwidth hn]
  have hforward : ∀ {k l : Nat}, (paddedDigits width k).length = (paddedDigits width l).length →
      paddedDigits width k < paddedDigits width l → k < l := by
    intro k l hsame hlt
    have hvalue := ofDigitChars_lt_of_lt (fun _ => isDigit_of_mem_paddedDigits)
      (fun _ => isDigit_of_mem_paddedDigits) hsame hlt
    rwa [ofDigitChars_paddedDigits, ofDigitChars_paddedDigits] at hvalue
  refine ⟨hforward hlength, fun hlt => ?_⟩
  rcases lt_trichotomy (paddedDigits width m) (paddedDigits width n) with hless | hsame | hmore
  · exact hless
  · exact absurd (paddedDigits_inj.mp hsame) hlt.ne
  · exact absurd (hforward hlength.symm hmore) hlt.asymm

/-- A padded number in front decides, unless it is the same. -/
theorem paddedDigits_append_lt_iff (hwidth : 0 < width) (hm : m < 10 ^ width)
    (hn : n < 10 ^ width) : paddedDigits width m ++ y < paddedDigits width n ++ y' ↔
      m < n ∨ m = n ∧ y < y' := by
  rw [append_lt_append_iff
      ((length_paddedDigits hwidth hm).trans (length_paddedDigits hwidth hn).symm),
    paddedDigits_lt_iff hwidth hm hn, paddedDigits_inj]

end Places

section Calendar

theorem daysBeforeYear_succ {year : Nat} (hyear : 1 ≤ year) :
    daysBeforeYear (year + 1) = daysBeforeYear year + yearLength year := by
  obtain ⟨before, rfl⟩ := Nat.exists_eq_add_of_le' hyear
  have hleap : isLeap (before + 1) = true ↔
      4 ∣ before + 1 ∧ (¬ 100 ∣ before + 1 ∨ 400 ∣ before + 1) := by
    unfold isLeap
    simp only [Bool.and_eq_true, Bool.or_eq_true, beq_iff_eq, bne_iff_ne, Nat.dvd_iff_mod_eq_zero]
  have hfour : (before + 1) / 4 = before / 4 + if 4 ∣ before + 1 then 1 else 0 := Nat.succ_div ..
  have hhundred : (before + 1) / 100 = before / 100 + if 100 ∣ before + 1 then 1 else 0 :=
    Nat.succ_div ..
  have hfourHundred : (before + 1) / 400 = before / 400 + if 400 ∣ before + 1 then 1 else 0 :=
    Nat.succ_div ..
  unfold daysBeforeYear yearLength
  simp only [Nat.add_sub_cancel, hfour, hhundred, hfourHundred, hleap]
  have hle : before / 100 ≤ before / 4 := by omega
  have hdvd : 100 ∣ before + 1 → 4 ∣ before + 1 := fun h => (by decide : 4 ∣ 100).trans h
  have hdvd' : 400 ∣ before + 1 → 100 ∣ before + 1 := fun h => (by decide : 100 ∣ 400).trans h
  generalize before / 4 = fours at *
  generalize before / 100 = hundreds at *
  generalize before / 400 = fourHundreds at *
  by_cases h4 : 4 ∣ before + 1 <;> by_cases h100 : 100 ∣ before + 1 <;>
    by_cases h400 : 400 ∣ before + 1 <;> simp [h4, h100, h400] at hdvd hdvd' ⊢ <;> omega

theorem daysBeforeYear_le {year later : Nat} (hyear : 1 ≤ year) (hlater : year < later) :
    daysBeforeYear year + yearLength year ≤ daysBeforeYear later := by
  induction later, hlater using Nat.le_induction with
  | base => exact (daysBeforeYear_succ hyear).ge
  | succ later hbeyond ih =>
      have hsucc := daysBeforeYear_succ (show 1 ≤ later by omega)
      omega

theorem daysBeforeMonth_le (year : Nat) {month later : Nat} (hmonth : 1 ≤ month)
    (hlater : month < later) :
    daysBeforeMonth year month + daysInMonth year month ≤ daysBeforeMonth year later := by
  induction later, hlater using Nat.le_induction with
  | base => exact (daysBeforeMonth_succ year hmonth).ge
  | succ later hbeyond ih =>
      have hsucc := daysBeforeMonth_succ year (show 1 ≤ later by omega)
      omega

/-- A date of the calendar. -/
structure IsDate (year month day : Nat) : Prop where
  year_pos : 1 ≤ year
  month_pos : 1 ≤ month
  month_le : month ≤ 12
  day_pos : 1 ≤ day
  day_le : day ≤ daysInMonth year month

variable {year month day year' month' day' : Nat}

theorem IsDate.le_yearLength (hdate : IsDate year month day) :
    daysBeforeMonth year month + day ≤ yearLength year := by
  have hyear := daysBeforeMonth_december year
  have hdecember := daysInMonth_december year
  have hday := hdate.day_le
  rcases hdate.month_le.lt_or_eq with hmonth | rfl
  · have hbefore := daysBeforeMonth_le year hdate.month_pos hmonth
    omega
  · omega

/-- A date that is written with the smaller numbers comes first. -/
theorem ymdToOrdinal_lt (hdate : IsDate year month day) (hdate' : IsDate year' month' day')
    (hlt : year < year' ∨ year = year' ∧ (month < month' ∨ month = month' ∧ day < day')) :
    ymdToOrdinal year month day < ymdToOrdinal year' month' day' := by
  have hday' := hdate'.day_pos
  unfold ymdToOrdinal
  rcases hlt with hyear | ⟨rfl, hmonth | ⟨rfl, hday⟩⟩
  · have hbefore := daysBeforeYear_le hdate.year_pos hyear
    have hlength := hdate.le_yearLength
    omega
  · have hbefore := daysBeforeMonth_le year hdate.month_pos hmonth
    have hday := hdate.day_le
    omega
  · omega

theorem isDate_of_ofCalendarDate {ordinal : Nat}
    (hdate : ofCalendarDate year month day = some ordinal) :
    IsDate year month day ∧ ymdToOrdinal year month day = ordinal := by
  unfold ofCalendarDate at hdate
  split at hdate
  next hrange =>
    simp only [Bool.and_eq_true, decide_eq_true_eq] at hrange
    obtain ⟨⟨⟨⟨⟨hyear, -⟩, hmonth⟩, hmonth'⟩, hday⟩, hday'⟩ := hrange
    exact ⟨⟨hyear, hmonth, hmonth', hday, hday'⟩, Option.some.inj hdate⟩
  next => cases hdate

/-- Days are ordered like their dates. -/
theorem ordinalToYmd_lt_iff {m n : Nat} (hm : 1 ≤ m) (hm' : m ≤ maxOrdinal) (hn : 1 ≤ n)
    (hn' : n ≤ maxOrdinal) :
    let first := ordinalToYmd m
    let second := ordinalToYmd n
    (first.1 < second.1 ∨ first.1 = second.1 ∧ (first.2.1 < second.2.1 ∨
      first.2.1 = second.2.1 ∧ first.2.2 < second.2.2)) ↔ m < n := by
  intro first second
  obtain ⟨hfirst, hfirstOrdinal⟩ :=
    isDate_of_ofCalendarDate (ofCalendarDate_ordinalToYmd hm hm').1
  obtain ⟨hsecond, hsecondOrdinal⟩ :=
    isDate_of_ofCalendarDate (ofCalendarDate_ordinalToYmd hn hn').1
  rw [← hfirstOrdinal, ← hsecondOrdinal]
  refine ⟨ymdToOrdinal_lt hfirst hsecond, fun hlt => ?_⟩
  by_contra hnot
  have hback : second.1 < first.1 ∨ second.1 = first.1 ∧ (second.2.1 < first.2.1 ∨
      second.2.1 = first.2.1 ∧ second.2.2 ≤ first.2.2) := by omega
  rcases hback with hyear | ⟨hyear, hmonth | ⟨hmonth, hday⟩⟩
  · exact absurd (ymdToOrdinal_lt hsecond hfirst (Or.inl hyear)) hlt.asymm
  · exact absurd (ymdToOrdinal_lt hsecond hfirst (Or.inr ⟨hyear, Or.inl hmonth⟩)) hlt.asymm
  · rcases hday.lt_or_eq with hday | hday
    · have hmore := ymdToOrdinal_lt hsecond hfirst (Or.inr ⟨hyear, Or.inr ⟨hmonth, hday⟩⟩)
      exact absurd hmore hlt.asymm
    · rw [hyear, hmonth, hday] at hlt
      exact hlt.false

end Calendar

section Order

/-- Where the text of an instant stands: the whole second after its fractions. -/
def textRank (instant : Int) : Int :=
  instant / 1000000 * 1000001 + if instant % 1000000 = 0 then 1000000 else instant % 1000000

/-- Two instants of one second, of which just one is the whole second. -/
def OneWhole (i j : Int) : Prop :=
  i / 1000000 = j / 1000000 ∧ (i % 1000000 = 0 ↔ j % 1000000 ≠ 0)

instance decidableOneWhole (i j : Int) : Decidable (OneWhole i j) :=
  inferInstanceAs (Decidable (_ ∧ _))

/-- An instant of the calendar. -/
def InCalendar (instant : Int) : Prop :=
  microsPerDay ≤ instant ∧ instant < (maxOrdinal + 1) * microsPerDay

instance decidableInCalendar (instant : Int) : Decidable (InCalendar instant) :=
  inferInstanceAs (Decidable (_ ∧ _))

variable {i j : Int} {fraction fraction' : Nat}

/-- The end of a text: fractions come before the whole second. -/
theorem fraction_lt_iff (hfraction : fraction < 10 ^ 6) (hfraction' : fraction' < 10 ^ 6) :
    (if fraction = 0 then [] else '.' :: paddedDigits 6 fraction) ++ ['Z'] <
        (if fraction' = 0 then [] else '.' :: paddedDigits 6 fraction') ++ ['Z'] ↔
      (if fraction = 0 then 1000000 else fraction) <
        if fraction' = 0 then 1000000 else fraction' := by
  have hbefore : '.' < 'Z' := by decide
  split_ifs with hzero hzero' hzero'
  · simp
  · simp only [List.nil_append, List.cons_append, List.cons_lt_cons_iff]
    refine iff_of_false ?_ (by omega)
    rintro (hlt | ⟨heq, -⟩)
    · exact absurd hlt (by decide)
    · exact absurd heq (by decide)
  · simp only [List.nil_append, List.cons_append, List.cons_lt_cons_iff]
    exact iff_of_true (Or.inl hbefore) (by omega)
  · rw [List.cons_append, List.cons_append, List.cons_lt_cons_self,
      paddedDigits_append_lt_iff (by decide) hfraction hfraction']
    simp

theorem dateText_append_lt_iff {year month day year' month' day' : Nat} {y y' : List Char}
    (hyear : year < 10 ^ 4) (hyear' : year' < 10 ^ 4) (hmonth : month < 10 ^ 2)
    (hmonth' : month' < 10 ^ 2) (hday : day < 10 ^ 2) (hday' : day' < 10 ^ 2) :
    dateText year month day ++ y < dateText year' month' day' ++ y' ↔
      (year < year' ∨ year = year' ∧ (month < month' ∨ month = month' ∧ day < day')) ∨
        (year = year' ∧ month = month' ∧ day = day') ∧ y < y' := by
  simp only [dateText, List.append_assoc, List.cons_append, List.cons_lt_cons_self,
    paddedDigits_append_lt_iff (by decide) hyear hyear',
    paddedDigits_append_lt_iff (by decide) hmonth hmonth',
    paddedDigits_append_lt_iff (by decide) hday hday']
  tauto

/-- Clocks are compared by the second of the day, and then by the fraction. -/
theorem clockText_append_lt_iff {seconds seconds' : Nat} (hseconds : seconds < 86400)
    (hseconds' : seconds' < 86400) (hfraction : fraction < 10 ^ 6)
    (hfraction' : fraction' < 10 ^ 6) :
    clockText (seconds / 3600) (seconds / 60 % 60) (seconds % 60) fraction ++ ['Z'] <
        clockText (seconds' / 3600) (seconds' / 60 % 60) (seconds' % 60) fraction' ++ ['Z'] ↔
      seconds < seconds' ∨ seconds = seconds' ∧
        (if fraction = 0 then 1000000 else fraction) <
          if fraction' = 0 then 1000000 else fraction' := by
  have htail := fraction_lt_iff hfraction hfraction'
  simp only [clockText, List.append_assoc, List.cons_append]
  rw [paddedDigits_append_lt_iff (by decide) (by omega) (by omega), List.cons_lt_cons_self,
    paddedDigits_append_lt_iff (by decide) (by omega) (by omega), List.cons_lt_cons_self,
    paddedDigits_append_lt_iff (by decide) (by omega) (by omega), htail]
  omega

/-- Day, second of the day and end of the text make up the rank. -/
theorem textRank_lt_iff (m n : Nat) : textRank m < textRank n ↔
    m / 86400000000 < n / 86400000000 ∨ m / 86400000000 = n / 86400000000 ∧
      (m / 1000000 % 86400 < n / 1000000 % 86400 ∨ m / 1000000 % 86400 = n / 1000000 % 86400 ∧
        (if m % 1000000 = 0 then 1000000 else m % 1000000) <
          if n % 1000000 = 0 then 1000000 else n % 1000000) := by
  have hm : m / 86400000000 = m / 1000000 / 86400 := by omega
  have hn : n / 86400000000 = n / 1000000 / 86400 := by omega
  have hcast : ∀ k : Nat, ((k : Int) % 1000000 = 0 ↔ k % 1000000 = 0) := by omega
  unfold textRank
  rw [hm, hn]
  simp only [hcast]
  split_ifs <;> omega

/-- The texts of instants are ordered by their ranks. -/
theorem isoText_lt_iff (hi : InCalendar i) (hj : InCalendar j) :
    isoText i < isoText j ↔ textRank i < textRank j := by
  obtain ⟨hlow, hhigh⟩ := hi
  obtain ⟨hlow', hhigh'⟩ := hj
  have htext := isoText_eq i
  have htext' := isoText_eq j
  unfold microsPerDay microsPerSecond at hlow hhigh hlow' hhigh'
  unfold maxOrdinal at hhigh hhigh'
  obtain ⟨m, rfl⟩ := Int.eq_ofNat_of_zero_le (show 0 ≤ i by omega)
  obtain ⟨n, rfl⟩ := Int.eq_ofNat_of_zero_le (show 0 ≤ j by omega)
  dsimp only at htext htext'
  rw [Int.toNat_natCast] at htext htext'
  have hm : 1 ≤ m / 86400000000 ∧ m / 86400000000 ≤ maxOrdinal := by unfold maxOrdinal; omega
  have hn : 1 ≤ n / 86400000000 ∧ n / 86400000000 ≤ maxOrdinal := by unfold maxOrdinal; omega
  have hdays := ordinalToYmd_lt_iff hm.1 hm.2 hn.1 hn.2
  have hdate := ofCalendarDate_ordinalToYmd hm.1 hm.2
  have hdate' := ofCalendarDate_ordinalToYmd hn.1 hn.2
  dsimp only at hdays hdate hdate'
  have hsameDay : m / 86400000000 = n / 86400000000 ↔
      (ordinalToYmd (m / 86400000000)).1 = (ordinalToYmd (n / 86400000000)).1 ∧
        (ordinalToYmd (m / 86400000000)).2.1 = (ordinalToYmd (n / 86400000000)).2.1 ∧
          (ordinalToYmd (m / 86400000000)).2.2 = (ordinalToYmd (n / 86400000000)).2.2 := by
    refine ⟨fun heq => heq ▸ ⟨rfl, rfl, rfl⟩, fun ⟨hyear, hmonth, hday⟩ => ?_⟩
    have hfirst := hdate.1
    rw [hyear, hmonth, hday, hdate'.1] at hfirst
    exact (Option.some.inj hfirst).symm
  rw [htext, htext', String.lt_iff_toList_lt, String.toList_ofList, String.toList_ofList,
    List.append_assoc, List.append_assoc,
    dateText_append_lt_iff (by omega) (by omega) (by omega) (by omega) (by omega) (by omega),
    hdays, ← hsameDay, List.cons_append, List.cons_append, List.cons_lt_cons_self,
    clockText_append_lt_iff (by omega) (by omega) (by omega) (by omega), textRank_lt_iff]

theorem isoText_le_iff (hi : InCalendar i) (hj : InCalendar j) :
    isoText i ≤ isoText j ↔ textRank i ≤ textRank j := by
  rw [← not_lt, isoText_lt_iff hj hi, not_lt]

/-- Ranks are in time but for a whole second and its fractions. -/
theorem textRank_le_iff (hplain : ¬ OneWhole i j) : textRank i ≤ textRank j ↔ i ≤ j := by
  unfold OneWhole at hplain
  unfold textRank
  split_ifs <;> omega

theorem OneWhole.textRank_lt_iff (hwhole : OneWhole i j) : textRank i < textRank j ↔ j < i := by
  obtain ⟨hsecond, hone⟩ := hwhole
  unfold textRank
  split_ifs <;> omega

theorem OneWhole.symm (hwhole : OneWhole i j) : OneWhole j i := by
  obtain ⟨hsecond, hone⟩ := hwhole
  exact ⟨hsecond.symm, by omega⟩

theorem OneWhole.ne (hwhole : OneWhole i j) : i ≠ j := by
  rintro rfl
  have hone := hwhole.2
  omega

/-- Texts are in time but for a whole second and its fractions. -/
theorem isoText_le_iff_le (hi : InCalendar i) (hj : InCalendar j) :
    (isoText i ≤ isoText j ↔ i ≤ j) ↔ ¬ OneWhole i j := by
  rw [isoText_le_iff hi hj]
  constructor
  · intro hsame hwhole
    have hless := hwhole.textRank_lt_iff
    have hmore := hwhole.symm.textRank_lt_iff
    have hne := hwhole.ne
    omega
  · exact textRank_le_iff

end Order

end Datetime

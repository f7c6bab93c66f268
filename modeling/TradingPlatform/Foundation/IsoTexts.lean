import TradingPlatform.Foundation.Request

/-! # Instants survive their ISO texts

The text an instant is written as is read as that instant.
-/

namespace Datetime

section Calendar

/-- Number of days of a year. -/
def yearLength (year : Nat) : Nat := if isLeap year then 366 else 365

theorem daysBeforeYear_eq {a b c d : Nat} (hb : b ≤ 3) (hc : c ≤ 24) (hd : d ≤ 3) :
    daysBeforeYear (a * 400 + b * 100 + c * 4 + d + 1) =
      146097 * a + 36524 * b + 1461 * c + 365 * d := by
  unfold daysBeforeYear
  dsimp only
  omega

theorem daysBeforeMonth_succ (year : Nat) {month : Nat} (hmonth : 1 ≤ month) :
    daysBeforeMonth year (month + 1) = daysBeforeMonth year month + daysInMonth year month := by
  obtain ⟨k, rfl⟩ := Nat.exists_eq_add_of_le hmonth
  unfold daysBeforeMonth
  rw [Nat.add_comm 1 k, Nat.add_sub_cancel, Nat.add_sub_cancel, List.range_succ]
  simp

theorem daysBeforeMonth_december (year : Nat) : daysBeforeMonth year 12 + 31 = yearLength year := by
  unfold daysBeforeMonth yearLength
  cases hleap : isLeap year <;> simp [daysInMonth, hleap, List.range_succ]

theorem daysInMonth_december (year : Nat) : daysInMonth year 12 = 31 := rfl

/-- A day of a year lies in the month it is counted to; the months from the given one
on are looked through. -/
theorem monthDay_spec {year count first dayOfYear : Nat} (hfirst : 1 ≤ first)
    (hcount : first + count = 12)
    (hday : daysBeforeMonth year first + dayOfYear < yearLength year) :
    let found := monthDay year (List.range' first count) dayOfYear
    first ≤ found.1 ∧ found.1 ≤ 12 ∧ 1 ≤ found.2 ∧ found.2 ≤ daysInMonth year found.1 ∧
      daysBeforeMonth year found.1 + found.2 = daysBeforeMonth year first + dayOfYear + 1 := by
  induction count generalizing first dayOfYear with
  | zero =>
      obtain rfl : first = 12 := by omega
      have hyear := daysBeforeMonth_december year
      have hdecember := daysInMonth_december year
      simp only [List.range'_zero, monthDay]
      omega
  | succ count ih =>
      rw [List.range'_succ]
      unfold monthDay
      split
      next hinside => dsimp only; omega
      next hbeyond =>
        have hnext := daysBeforeMonth_succ year hfirst
        have hrest := @ih (first + 1) (dayOfYear - daysInMonth year first) (by omega) (by omega)
          (by omega)
        dsimp only at hrest ⊢
        omega

theorem isLeap_iff {a b c d : Nat} (hb : b ≤ 3) (hc : c ≤ 24) (hd : d ≤ 3) :
    isLeap (a * 400 + b * 100 + c * 4 + d + 1) = true ↔ d = 3 ∧ (c ≠ 24 ∨ b = 3) := by
  unfold isLeap
  simp only [Bool.and_eq_true, Bool.or_eq_true, beq_iff_eq, bne_iff_ne]
  omega

/-- The cycles of years a day number is counted in, and the day of the year. -/
theorem ordinalToYmd_cycles {ordinal : Nat} (hpos : 1 ≤ ordinal) (hmax : ordinal ≤ maxOrdinal) :
    ∃ a b c d dayOfYear, a ≤ 24 ∧ b ≤ 3 ∧ c ≤ 24 ∧ d ≤ 3 ∧
      ordinalToYmd ordinal = (a * 400 + b * 100 + c * 4 + d + 1,
        monthDay (a * 400 + b * 100 + c * 4 + d + 1) (List.range' 1 11) dayOfYear) ∧
      146097 * a + 36524 * b + 1461 * c + 365 * d + dayOfYear + 1 = ordinal ∧
      (dayOfYear < 365 ∨ dayOfYear = 365 ∧ d = 3 ∧ (c ≠ 24 ∨ b = 3)) := by
  unfold maxOrdinal at hmax
  refine ⟨_, _, _, _, _, ?_, ?_, ?_, ?_, rfl, ?_⟩ <;> omega

/-- A day number is that of its calendar date. -/
theorem ofCalendarDate_ordinalToYmd {ordinal : Nat} (hpos : 1 ≤ ordinal)
    (hmax : ordinal ≤ maxOrdinal) :
    let date := ordinalToYmd ordinal
    ofCalendarDate date.1 date.2.1 date.2.2 = some ordinal ∧ date.1 ≤ 9999 ∧ date.2.1 ≤ 12 ∧
      date.2.2 ≤ 31 := by
  obtain ⟨a, b, c, d, dayOfYear, ha, hb, hc, hd, hdate, hordinal, hday⟩ :=
    ordinalToYmd_cycles hpos hmax
  have hyear := daysBeforeYear_eq (a := a) hb hc hd
  have hleap := isLeap_iff (a := a) hb hc hd
  dsimp only
  rw [hdate]
  generalize hsum : a * 400 + b * 100 + c * 4 + d + 1 = year at *
  have hfirst : daysBeforeMonth year 1 = 0 := rfl
  have hlength : dayOfYear < yearLength year := by
    unfold yearLength
    split_ifs with h
    · omega
    · rw [hleap] at h
      omega
  have hmonth := @monthDay_spec year 11 1 dayOfYear le_rfl rfl (by omega)
  dsimp only at hmonth
  obtain ⟨hlow, hhigh, hone, hinside, hcounted⟩ := hmonth
  have hdays : daysInMonth year (monthDay year (List.range' 1 11) dayOfYear).1 ≤ 31 := by
    unfold daysInMonth
    split_ifs <;> omega
  have hlast : year ≤ 9999 := by
    unfold maxOrdinal at hmax
    omega
  refine ⟨?_, hlast, hhigh, hinside.trans hdays⟩
  unfold ofCalendarDate ymdToOrdinal
  rw [if_pos]
  · congr 1
    dsimp only
    omega
  · simp only [Bool.and_eq_true, decide_eq_true_eq]
    omega

end Calendar

section Digits

theorem asciiDigit?_of_isDigit {c : Char} (hdigit : c.isDigit = true) :
    asciiDigit? c = some (c.toNat - 48) := by
  simp only [Char.isDigit, Bool.and_eq_true, decide_eq_true_eq] at hdigit
  unfold asciiDigit?
  rw [if_pos]
  simp only [Bool.and_eq_true, decide_eq_true_eq]
  exact hdigit

/-- Digits are read as the number they spell. -/
theorem readDigits_append {digits : List Char} (hdigits : ∀ c ∈ digits, c.isDigit = true)
    (acc : Nat) (rest : List Char) :
    readDigits digits.length acc (digits ++ rest) =
      some (Nat.ofDigitChars 10 digits acc, rest) := by
  induction digits generalizing acc with
  | nil => rfl
  | cons c digits ih =>
      have hc := asciiDigit?_of_isDigit (hdigits c List.mem_cons_self)
      rw [List.length_cons, List.cons_append, readDigits, hc, Option.bind_some,
        ih fun d hd => hdigits d (List.mem_cons_of_mem _ hd), Nat.ofDigitChars_cons]
      rfl

variable {width n : Nat}

theorem length_paddedDigits (hwidth : 0 < width) (hn : n < 10 ^ width) :
    (paddedDigits width n).length = width := by
  have hlength := (Nat.length_toDigits_le_iff (by decide : 1 < 10) hwidth).mpr hn
  unfold paddedDigits
  rw [List.length_append, List.length_replicate]
  omega

theorem isDigit_of_mem_paddedDigits {c : Char} (hc : c ∈ paddedDigits width n) :
    c.isDigit = true := by
  unfold paddedDigits at hc
  rcases List.mem_append.mp hc with hzero | hdigit
  · rw [List.eq_of_mem_replicate hzero]
    rfl
  · exact Nat.isDigit_of_mem_toDigits (by decide) (by decide) hdigit

theorem exists_cons_paddedDigits (hwidth : 0 < width) (hn : n < 10 ^ width) :
    ∃ first digits, paddedDigits width n = first :: digits ∧ first.isDigit = true := by
  cases hdigits : paddedDigits width n with
  | nil =>
      have hlength := length_paddedDigits hwidth hn
      rw [hdigits] at hlength
      exact absurd hlength hwidth.ne
  | cons first digits =>
      refine ⟨first, digits, rfl, isDigit_of_mem_paddedDigits (?_ : first ∈ paddedDigits width n)⟩
      rw [hdigits]
      exact List.mem_cons_self

theorem readDigits_paddedDigits (hwidth : 0 < width) (hn : n < 10 ^ width) (rest : List Char) :
    readDigits width 0 (paddedDigits width n ++ rest) = some (n, rest) := by
  have hread := readDigits_append (fun c hc => @isDigit_of_mem_paddedDigits width n c hc) 0 rest
  rw [length_paddedDigits hwidth hn] at hread
  rw [hread]
  unfold paddedDigits
  rw [Nat.ofDigitChars_append, Nat.ofDigitChars_replicate_zero, Nat.mul_zero,
    Nat.ofDigitChars_ten_toDigits]

end Digits

section Texts

/-- The date of an ISO text. -/
def dateText (year month day : Nat) : List Char :=
  paddedDigits 4 year ++ '-' :: paddedDigits 2 month ++ '-' :: paddedDigits 2 day

/-- The time of an ISO text, without its offset. -/
def clockText (hour minute second fraction : Nat) : List Char :=
  paddedDigits 2 hour ++ ':' :: paddedDigits 2 minute ++ ':' :: paddedDigits 2 second ++
    if fraction = 0 then [] else '.' :: paddedDigits 6 fraction

theorem isoText_eq (instant : Int) :
    let micros := instant.toNat
    let date := ordinalToYmd (micros / 86400000000)
    let seconds := micros / 1000000 % 86400
    isoText instant = String.ofList (dateText date.1 date.2.1 date.2.2 ++
      'T' :: clockText (seconds / 3600) (seconds / 60 % 60) (seconds % 60) (micros % 1000000) ++
      ['Z']) := by
  unfold isoText
  generalize instant.toNat = micros
  dsimp only
  generalize ordinalToYmd (micros / 86400000000) = date
  obtain ⟨year, month, day⟩ := date
  simp only [dateText, clockText, List.append_assoc, List.cons_append]

theorem mem_dateText {year month day : Nat} {c : Char} (hc : c ∈ dateText year month day) :
    c.isDigit = true ∨ c = '-' := by
  simp only [dateText, List.mem_append, List.mem_cons] at hc
  rcases hc with (hyear | hdash | hmonth) | hdash | hday
  · exact Or.inl (isDigit_of_mem_paddedDigits hyear)
  · exact Or.inr hdash
  · exact Or.inl (isDigit_of_mem_paddedDigits hmonth)
  · exact Or.inr hdash
  · exact Or.inl (isDigit_of_mem_paddedDigits hday)

theorem mem_clockText {hour minute second fraction : Nat} {c : Char}
    (hc : c ∈ clockText hour minute second fraction) : c.isDigit = true ∨ c = ':' ∨ c = '.' := by
  simp only [clockText, List.mem_append, List.mem_cons] at hc
  rcases hc with (((hhour | hcolon | hminute) | hcolon | hsecond) | hfraction)
  · exact Or.inl (isDigit_of_mem_paddedDigits hhour)
  · exact Or.inr (Or.inl hcolon)
  · exact Or.inl (isDigit_of_mem_paddedDigits hminute)
  · exact Or.inr (Or.inl hcolon)
  · exact Or.inl (isDigit_of_mem_paddedDigits hsecond)
  · split_ifs at hfraction with hzero
    · simp at hfraction
    · rcases List.mem_cons.mp hfraction with hpoint | hdigit
      · exact Or.inr (Or.inr hpoint)
      · exact Or.inl (isDigit_of_mem_paddedDigits hdigit)

theorem ne_of_isDigit {c other : Char} (hdigit : c.isDigit = true)
    (hother : other.isDigit = false) : c ≠ other := by
  intro heq
  rw [heq, hother] at hdigit
  exact Bool.false_ne_true hdigit

/-- Only the last letter of an ISO text stands for a zero offset. -/
theorem zuluText_ofList {body : List Char} (hbody : ∀ c ∈ body, c ≠ 'Z') :
    zuluText (String.ofList (body ++ ['Z'])) = String.ofList (body ++ "+00:00".toList) := by
  have hkept : (body.flatMap fun c => if c = 'Z' then "+00:00".toList else [c]) = body := by
    induction body with
    | nil => rfl
    | cons c rest ih =>
        rw [List.flatMap_cons, if_neg (hbody c List.mem_cons_self),
          ih fun d hd => hbody d (List.mem_cons_of_mem _ hd)]
        rfl
  unfold zuluText
  rw [@String.toList_ofList (body ++ ['Z']), List.flatMap_append, hkept,
    List.flatMap_cons, if_pos rfl, List.flatMap_nil, List.append_nil]

theorem length_dateText {year month day : Nat} (hyear : year < 10 ^ 4) (hmonth : month < 10 ^ 2)
    (hday : day < 10 ^ 2) : (dateText year month day).length = 10 := by
  unfold dateText
  simp only [List.length_append, List.length_cons, length_paddedDigits (by decide) hyear,
    length_paddedDigits (by decide) hmonth, length_paddedDigits (by decide) hday]

theorem readDate_dateText {year month day : Nat} (hyear : year < 10 ^ 4) (hmonth : month < 10 ^ 2)
    (hday : day < 10 ^ 2) : readDate (dateText year month day) = ofCalendarDate year month day := by
  have hmonthDigits := readDigits_paddedDigits (by decide) hmonth ('-' :: paddedDigits 2 day)
  have hdayDigits := readDigits_paddedDigits (by decide) hday []
  rw [List.append_nil] at hdayDigits
  unfold readDate dateText
  rw [List.append_assoc, readDigits_paddedDigits (by decide) hyear]
  obtain ⟨first, digits, hdigits, hfirst⟩ := exists_cons_paddedDigits (by decide : 0 < 2) hmonth
  rw [hdigits] at hmonthDigits ⊢
  simp only [Option.bind_eq_bind, Option.bind_some, List.cons_append, List.head?_cons,
    List.tail_cons, beq_self_eq_true, Bool.not_true, Bool.false_eq_true, if_false,
    if_true] at hmonthDigits ⊢
  split
  next heq =>
    obtain rfl : first = 'W' := (List.cons.inj heq).1
    exact absurd hfirst (by decide)
  next =>
    rw [hmonthDigits]
    simp only [Option.bind_some, List.head?_cons, List.tail_cons, beq_self_eq_true, if_true,
      hdayDigits]

/-- The date is the first ten letters. -/
theorem dateLength_dateText {year month day : Nat} (hyear : year < 10 ^ 4) (hmonth : month < 10 ^ 2)
    (hday : day < 10 ^ 2) (time : List Char) :
    dateLength (dateText year month day ++ 'T' :: time) = some 10 := by
  have hlength := length_dateText hyear hmonth hday
  have hyearLength := length_paddedDigits (by decide : 0 < 4) hyear
  obtain ⟨first, digits, hdigits, hfirst⟩ := exists_cons_paddedDigits (by decide : 0 < 2) hmonth
  have hdash : (dateText year month day ++ 'T' :: time)[4]? = some '-' := by
    unfold dateText
    rw [List.append_assoc, List.append_assoc, List.getElem?_append_right (by omega), hyearLength]
    rfl
  have hnext : (dateText year month day ++ 'T' :: time)[5]? = some first := by
    unfold dateText
    rw [List.append_assoc, List.append_assoc, List.getElem?_append_right (by omega), hyearLength,
      hdigits]
    rfl
  have hweek : first ≠ 'W' := by
    rintro rfl
    exact absurd hfirst (by decide)
  unfold dateLength
  rw [List.length_append, hlength, hdash, hnext, List.length_cons, if_neg (by omega),
    if_neg (by omega), if_pos rfl, if_neg (by simpa using hweek)]

theorem readFraction_fraction {fraction : Nat} (hfraction : fraction < 10 ^ 6) :
    readFraction (if fraction = 0 then [] else '.' :: paddedDigits 6 fraction) =
      some (fraction : Int) := by
  split_ifs with hzero
  · rw [hzero]
    rfl
  · have hread := readDigits_paddedDigits (by decide) hfraction ['0', '0', '0', '0', '0']
    have hdigits : (paddedDigits 6 fraction).all (fun d => (asciiDigit? d).isSome) = true := by
      rw [List.all_eq_true]
      intro d hd
      rw [asciiDigit?_of_isDigit (isDigit_of_mem_paddedDigits hd)]
      rfl
    obtain ⟨first, digits, hcons, -⟩ := exists_cons_paddedDigits (by decide : 0 < 6) hfraction
    unfold readFraction
    dsimp only
    rw [if_pos, hread]
    · rfl
    · rw [hdigits, hcons]
      rfl

theorem readClock_clockText {hour minute second fraction : Nat} (hhour : hour < 10 ^ 2)
    (hminute : minute < 10 ^ 2) (hsecond : second < 10 ^ 2) (hfraction : fraction < 10 ^ 6) :
    readClock (clockText hour minute second fraction) =
      some (hour, minute, second, (fraction : Int)) := by
  unfold readClock clockText
  simp only [List.append_assoc, List.cons_append, readDigits_paddedDigits (by decide) hhour,
    readDigits_paddedDigits (by decide) hminute, readDigits_paddedDigits (by decide) hsecond,
    readFraction_fraction hfraction, Option.bind_eq_bind, Option.bind_some, Option.pure_def]

theorem toList_zeroOffset : "+00:00".toList = ['+', '0', '0', ':', '0', '0'] := by decide +kernel

theorem readTime_clockText {hour minute second fraction : Nat} (hhour : hour < 24)
    (hminute : minute < 60) (hsecond : second < 60) (hfraction : fraction < 10 ^ 6) :
    readTime (clockText hour minute second fraction ++ "+00:00".toList) =
      some (clockMicros (hour, minute, second, (fraction : Int)), some 0) := by
  have hbody : (clockText hour minute second fraction ++ "+00:00".toList).takeWhile
      (fun c => c != '+' && c != '-' && c != 'Z') = clockText hour minute second fraction := by
    rw [List.takeWhile_append_of_pos, toList_zeroOffset]
    · exact List.append_nil _
    · intro c hc
      simp only [Bool.and_eq_true, bne_iff_ne]
      rcases mem_clockText hc with hdigit | rfl | rfl
      · exact ⟨⟨ne_of_isDigit hdigit rfl, ne_of_isDigit hdigit rfl⟩, ne_of_isDigit hdigit rfl⟩
      · decide
      · decide
  unfold readTime
  dsimp only
  rw [hbody, readClock_clockText (by omega) (by omega) (by omega) hfraction, List.drop_left,
    toList_zeroOffset]
  simp only [Option.bind_eq_bind, Option.bind_some]
  rw [if_neg]
  · rfl
  · simp only [Bool.or_eq_true, decide_eq_true_eq]
    omega

end Texts

/-- The text an instant is written as is read as that instant. -/
theorem instant?_isoText {instant : Int} (hlow : microsPerDay ≤ instant)
    (hhigh : instant < (maxOrdinal + 1) * microsPerDay) :
    instant? (zuluText (isoText instant)) = some instant := by
  have htext := isoText_eq instant
  unfold microsPerDay microsPerSecond at hlow hhigh
  unfold maxOrdinal at hhigh
  obtain ⟨micros, rfl⟩ := Int.eq_ofNat_of_zero_le (show 0 ≤ instant by omega)
  dsimp only at htext
  rw [Int.toNat_natCast] at htext
  have hdate := @ofCalendarDate_ordinalToYmd (micros / 86400000000) (by omega)
    (by unfold maxOrdinal; omega)
  dsimp only at hdate
  generalize ordinalToYmd (micros / 86400000000) = date at hdate htext
  obtain ⟨year, month, day⟩ := date
  dsimp only at hdate htext
  obtain ⟨hordinal, hyear, hmonth, hday⟩ := hdate
  -- no 'Z' stands inside the text, so only the one at its end is replaced
  have hplain : ∀ c ∈ dateText year month day ++
      'T' :: clockText (micros / 1000000 % 86400 / 3600) (micros / 1000000 % 86400 / 60 % 60)
        (micros / 1000000 % 86400 % 60) (micros % 1000000), c ≠ 'Z' := by
    intro c hc
    rcases List.mem_append.mp hc with hc | hc
    · rcases mem_dateText hc with hdigit | rfl
      · exact ne_of_isDigit hdigit rfl
      · decide
    · rcases List.mem_cons.mp hc with rfl | hc
      · decide
      · rcases mem_clockText hc with hdigit | rfl | rfl
        · exact ne_of_isDigit hdigit rfl
        · decide
        · decide
  -- the fields have their full widths, so the reader finds each where it is
  have hlength := length_dateText (show year < 10 ^ 4 by omega) (show month < 10 ^ 2 by omega)
    (show day < 10 ^ 2 by omega)
  have hread : fromIsoFormat (zuluText (isoText micros)) = some ((micros : Int), some 0) := by
    rw [htext, zuluText_ofList hplain]
    unfold fromIsoFormat
    dsimp only
    rw [String.toList_ofList, List.append_assoc, List.cons_append,
      dateLength_dateText (by omega) (by omega) (by omega)]
    simp only [Option.bind_eq_bind, Option.bind_some]
    rw [← hlength, List.take_left, List.drop_left,
      readDate_dateText (by omega) (by omega) (by omega), hordinal]
    simp only [Option.bind_some]
    rw [readTime_clockText (by omega) (by omega) (by omega) (by omega)]
    simp only [Option.bind_some, Option.pure_def, clockMicros, microsPerDay, microsPerSecond]
    apply congrArg fun read : Int => some (read, some (0 : Int))
    omega
  unfold instant?
  rw [hread]
  have hfirst : microsPerDay ≤ (micros : Int) - 0 := by
    unfold microsPerDay microsPerSecond
    omega
  have hlast : (micros : Int) - 0 < (maxOrdinal + 1) * microsPerDay := by
    unfold maxOrdinal microsPerDay microsPerSecond
    omega
  have hrange := (Bool.and_eq_true _ _).mpr ⟨decide_eq_true hfirst, decide_eq_true hlast⟩
  exact (if_pos hrange).trans (congrArg some (Int.sub_zero _))

end Datetime

theorem parseIsoDatetime_isoText {instant : Int} (hlow : Datetime.microsPerDay ≤ instant)
    (hhigh : instant < (Datetime.maxOrdinal + 1) * Datetime.microsPerDay) :
    parseIsoDatetime (.str (Datetime.isoText instant)) = some instant := by
  rw [parseIsoDatetime]
  exact Datetime.instant?_isoText hlow hhigh

/-- Only instants of the calendar are read. -/
theorem parseIsoDatetime_range {value : Json} {instant : Int}
    (hread : parseIsoDatetime value = some instant) :
    Datetime.microsPerDay ≤ instant ∧
      instant < (Datetime.maxOrdinal + 1) * Datetime.microsPerDay := by
  cases value with
  | str text =>
      rw [parseIsoDatetime, Datetime.instant?] at hread
      obtain ⟨⟨localMicros, offset⟩, -, hread⟩ := Option.bind_eq_some_iff.mp hread
      dsimp only at hread
      split at hread
      next hrange =>
        obtain rfl := Option.some.inj hread
        simpa only [Bool.and_eq_true, decide_eq_true_eq] using hrange
      next => cases hread
  | null | bool | int | float | arr | obj => cases hread

import Mathlib.Algebra.GroupWithZero.Nat
import Mathlib.Data.List.Basic

/-! # Instants and their ISO texts

An instant is a number of microseconds counted from the start of year 1, the
day before the first having number zero. The reader accepts the calendar and
week dates, times and offsets of ISO 8601; fractions are allowed for seconds
only, and a stray separator is refused.
-/

namespace Datetime

def microsPerSecond : Int := 1000000

def microsPerDay : Int := 86400 * microsPerSecond

section Calendar

def isLeap (year : Nat) : Bool := year % 4 == 0 && (year % 100 != 0 || year % 400 == 0)

def daysInMonth (year month : Nat) : Nat :=
  if month == 2 then if isLeap year then 29 else 28
  else if month == 4 || month == 6 || month == 9 || month == 11 then 30
  else 31

def daysBeforeYear (year : Nat) : Nat :=
  let y := year - 1
  y * 365 + y / 4 - y / 100 + y / 400

def daysBeforeMonth (year month : Nat) : Nat :=
  ((List.range (month - 1)).map fun m => daysInMonth year (m + 1)).sum

/-- Day number of a calendar date. -/
def ymdToOrdinal (year month day : Nat) : Nat :=
  daysBeforeYear year + daysBeforeMonth year month + day

/-- Day number of the Monday that starts the first ISO week. -/
def isoWeek1Monday (year : Nat) : Nat :=
  let firstDay := ymdToOrdinal year 1 1
  let firstWeekday := (firstDay + 6) % 7
  if 3 < firstWeekday then firstDay - firstWeekday + 7 else firstDay - firstWeekday

/-- The last day number, that of 31 December 9999. -/
def maxOrdinal : Nat := 3652059

def ofCalendarDate (year month day : Nat) : Option Nat :=
  if 1 ≤ year && year ≤ 9999 && 1 ≤ month && month ≤ 12 && 1 ≤ day &&
      day ≤ daysInMonth year month then some (ymdToOrdinal year month day)
  else none

/-- A year has a week 53 when it starts on a Thursday, or on a Wednesday in a leap year. -/
def ofWeekDate (year week day : Nat) : Option Nat :=
  let firstWeekday := ymdToOrdinal year 1 1 % 7
  let lastWeek := if firstWeekday == 4 || (firstWeekday == 3 && isLeap year) then 53 else 52
  let ordinal := isoWeek1Monday year + (week - 1) * 7 + (day - 1)
  if 1 ≤ year && year ≤ 9999 && 1 ≤ week && week ≤ lastWeek && 1 ≤ day && day ≤ 7 &&
      ordinal ≤ maxOrdinal then some ordinal
  else none

/-- Month and day of a zero-based day of a year. -/
def monthDay (year : Nat) : List Nat → Nat → Nat × Nat
  | [], dayOfYear => (12, dayOfYear + 1)
  | month :: rest, dayOfYear =>
      if dayOfYear < daysInMonth year month then (month, dayOfYear + 1)
      else monthDay year rest (dayOfYear - daysInMonth year month)

/-- Year, month and day of a day number. -/
def ordinalToYmd (ordinal : Nat) : Nat × Nat × Nat :=
  let n := ordinal - 1
  let n400 := n / 146097
  let n100 := min (n % 146097 / 36524) 3
  let left := n % 146097 - n100 * 36524
  let n4 := left / 1461
  let n1 := min (left % 1461 / 365) 3
  let year := n400 * 400 + n100 * 100 + n4 * 4 + n1 + 1
  (year, monthDay year [1, 2, 3, 4, 5, 6, 7, 8, 9, 10, 11] (left % 1461 - n1 * 365))

end Calendar

section Reader

def asciiDigit? (c : Char) : Option Nat :=
  if '0' ≤ c && c ≤ '9' then some (c.toNat - 48) else none

/-- Exactly so many digits and what follows them. -/
def readDigits : Nat → Nat → List Char → Option (Nat × List Char)
  | 0, acc, cs => some (acc, cs)
  | _ + 1, _, [] => none
  | n + 1, acc, c :: cs => (asciiDigit? c).bind fun d => readDigits n (10 * acc + d) cs

/-- Six digits of a second's fraction; further digits are dropped. -/
def readFraction : List Char → Option Int
  | [] => some 0
  | c :: digits =>
      if (c == '.' || c == ',') && !digits.isEmpty &&
          digits.all fun d => (asciiDigit? d).isSome then
        (readDigits 6 0 (digits ++ ['0', '0', '0', '0', '0'])).map fun r => (r.1 : Int)
      else none

/-- `HH[:MM[:SS[.ffffff]]]` or `HH[MM[SS[.ffffff]]]` as hour, minute, second, microseconds. -/
def readClock (cs : List Char) : Option (Nat × Nat × Nat × Int) := do
  let (hour, afterHour) ← readDigits 2 0 cs
  match afterHour with
  | [] => return (hour, 0, 0, 0)
  | ':' :: minuteDigits =>
      let (minute, afterMinute) ← readDigits 2 0 minuteDigits
      match afterMinute with
      | [] => return (hour, minute, 0, 0)
      | ':' :: secondDigits =>
          let (second, fraction) ← readDigits 2 0 secondDigits
          return (hour, minute, second, ← readFraction fraction)
      | _ => none
  | minuteDigits =>
      let (minute, afterMinute) ← readDigits 2 0 minuteDigits
      match afterMinute with
      | [] => return (hour, minute, 0, 0)
      | secondDigits =>
          let (second, fraction) ← readDigits 2 0 secondDigits
          return (hour, minute, second, ← readFraction fraction)

def clockMicros (clock : Nat × Nat × Nat × Int) : Int :=
  (clock.1 * 3600 + clock.2.1 * 60 + clock.2.2.1) * microsPerSecond + clock.2.2.2

/-- An offset from UTC, less than a day either way. -/
def readOffset (sign : Char) (cs : List Char) : Option Int := do
  if sign == 'Z' then
    if cs.isEmpty then some 0 else none
  else
    let offset := clockMicros (← readClock cs)
    if microsPerDay ≤ offset then none
    else if sign == '-' then some (-offset) else some offset

/-- Time of day and, when the text names one, the offset from UTC. -/
def readTime (cs : List Char) : Option (Int × Option Int) := do
  let body := cs.takeWhile fun c => c != '+' && c != '-' && c != 'Z'
  let clock ← readClock body
  if 24 ≤ clock.1 || 60 ≤ clock.2.1 || 60 ≤ clock.2.2.1 then none
  else
    match cs.drop body.length with
    | [] => return (clockMicros clock, none)
    | sign :: zone => return (clockMicros clock, some (← readOffset sign zone))

/-- Length of the date part; dates come with dashes or without. -/
def dateLength (cs : List Char) : Option Nat :=
  if cs.length < 7 then none
  else if cs.length = 7 then some 7
  else if cs[4]? = some '-' then
    if cs[5]? = some 'W' then
      if cs[8]? = some '-' then
        if cs.length = 9 then none
        else if (cs[10]?.bind asciiDigit?).isSome then some 8
        else some 10
      else some 8
    else some 10
  else if cs[4]? = some 'W' then
    -- The digits after the week: a day of the week, or the start of the time.
    let stop := 7 + ((cs.drop 7).takeWhile fun c => (asciiDigit? c).isSome).length
    if stop < 9 then some stop else if stop % 2 = 0 then some 7 else some 8
  else some 8

def readDate (cs : List Char) : Option Nat := do
  let (year, afterYear) ← readDigits 4 0 cs
  let dashed := afterYear.head? == some '-'
  let skipDash (rest : List Char) : Option (List Char) :=
    if !dashed then some rest else if rest.head? == some '-' then some rest.tail else none
  let rest ← skipDash afterYear
  match rest with
  | 'W' :: weekDigits =>
      let (week, afterWeek) ← readDigits 2 0 weekDigits
      if afterWeek.isEmpty then ofWeekDate year week 1
      else
        let (day, _) ← readDigits 1 0 (← skipDash afterWeek)
        ofWeekDate year week day
  | monthDigits =>
      let (month, afterMonth) ← readDigits 2 0 monthDigits
      let (day, _) ← readDigits 2 0 (← skipDash afterMonth)
      ofCalendarDate year month day

/-- Local microseconds and offset of an ISO text. -/
def fromIsoFormat (text : String) : Option (Int × Option Int) := do
  let cs := text.toList
  let length ← dateLength cs
  let ordinal ← readDate (cs.take length)
  match cs.drop length with
  | [] => return (ordinal * microsPerDay, none)
  | _ :: time =>
      let (micros, offset) ← readTime time
      return (ordinal * microsPerDay + micros, offset)

/-- The instant of an ISO text; a text without offset is read as UTC. An instant
outside years 1 to 9999 is no instant here: where the program comes upon such a
text it raises. -/
def instant? (text : String) : Option Int := do
  let (localMicros, offset) ← fromIsoFormat text
  let instant := localMicros - offset.getD 0
  if microsPerDay ≤ instant && instant < (maxOrdinal + 1) * microsPerDay then some instant
  else none

/-- The text names a date and a time whose instant lies outside years 1 to 9999. -/
def overflows (text : String) : Bool := (fromIsoFormat text).isSome && (instant? text).isNone

end Reader

section Writer

/-- Decimal digits of a number, padded with zeros to a width. -/
def paddedDigits (width n : Nat) : List Char :=
  let digits := Nat.toDigits 10 n
  List.replicate (width - digits.length) '0' ++ digits

/-- `YYYY-MM-DDTHH:MM:SS[.ffffff]Z` of an instant. -/
def isoText (instant : Int) : String :=
  let micros := instant.toNat
  let (year, month, day) := ordinalToYmd (micros / 86400000000)
  let seconds := micros / 1000000 % 86400
  let fraction := micros % 1000000
  String.ofList (paddedDigits 4 year ++ '-' :: paddedDigits 2 month ++ '-' :: paddedDigits 2 day ++
    'T' :: paddedDigits 2 (seconds / 3600) ++ ':' :: paddedDigits 2 (seconds / 60 % 60) ++
    ':' :: paddedDigits 2 (seconds % 60) ++
    (if fraction = 0 then [] else '.' :: paddedDigits 6 fraction) ++ ['Z'])

end Writer

end Datetime

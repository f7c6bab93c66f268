import TradingPlatform.Foundation.Datetime
import TradingPlatform.Foundation.Decimal
import TradingPlatform.Foundation.Json

/-! # Readers of decoded values

What the program makes of a decoded value when it wants a text, a number or an
instant.
-/

/-- A text without blanks at its ends, unless nothing is left of it. -/
def nonBlank (s : String) : Option String :=
  let text := Text.strip s
  if text = "" then none else some text

/-- The text of a value; null and blank texts give nothing. -/
def jsonText : Json → Option String
  | .null => none
  | value => nonBlank value.toText

/-- The text of a value in the form statuses are compared in. -/
def normalizedText (value : Json) : String := Text.lower (Text.strip value.textOrEmpty)

/-- A number in plain notation, rounded in the context. A number that overflows is
not read: where the program comes upon one it raises. -/
def numberText (ctx : DecimalContext) (text : String) : Option Numeral :=
  ((Decimal.ofText? text).filter fun d => ctx.reads d && !ctx.overflows d.value).bind fun d =>
    Numeral.ofText? (d.plainText ctx)

/-- The text denotes a number that overflows when it is rounded in the context. -/
def numberOverflows (ctx : DecimalContext) (text : String) : Bool :=
  (Decimal.ofText? text).any fun d => ctx.reads d && ctx.overflows d.value

def jsonNumberText (ctx : DecimalContext) : Json → Option Numeral
  | .int n => numberText ctx (toString n)
  | .float printed => numberText ctx printed
  | .str s => numberText ctx s
  | _ => none

def jsonNumberOverflows (ctx : DecimalContext) : Json → Bool
  | .int n => numberOverflows ctx (toString n)
  | .float printed => numberOverflows ctx printed
  | .str s => numberOverflows ctx s
  | _ => false

/-- What an operation whose result is too large raises. -/
def decimalOverflow : String := "[<class 'decimal.Overflow'>]"

/-- The numeral `0`. -/
def zeroNumeral : Numeral := ⟨"0", 0, by decide +kernel⟩

def isPositiveNumberText (n : Numeral) : Bool := 0 < n.value

def isNonnegativeNumberText (n : Numeral) : Bool := 0 ≤ n.value

/-- Every `Z` of the text stands for a zero offset. -/
def zuluText (text : String) : String :=
  String.ofList (text.toList.flatMap fun c => if c = 'Z' then "+00:00".toList else [c])

/-- The instant of an ISO text. -/
def parseIsoDatetime : Json → Option Int
  | .str s => Datetime.instant? (zuluText s)
  | _ => none

/-- An ISO text whose instant is outside the calendar. -/
def isoOverflows : Json → Bool
  | .str s => Datetime.overflows (zuluText s)
  | _ => false

/-- Of several dates the first one that is read counts; one that is outside the
calendar raises when its turn comes. -/
def datesOverflow (dates : List Json) : Bool :=
  ((dates.find? fun date => isoOverflows date || (parseIsoDatetime date).isSome).map
    isoOverflows).getD false

/-- What taking an instant outside the calendar to UTC raises. -/
def dateOverflow : String := "date value out of range"

def jsonDatetimeText (value : Json) : Option String :=
  (parseIsoDatetime value).map Datetime.isoText

theorem parseIsoDatetime_of_isoOverflows {value : Json} (hoverflows : isoOverflows value = true) :
    parseIsoDatetime value = none := by
  cases value with
  | str s => exact Option.isNone_iff_eq_none.mp (Bool.and_eq_true_iff.mp hoverflows).2
  | null | bool | int | float | arr | obj => rfl

/-- A number that may be missing is positive. -/
theorem all_isPositiveNumberText {number : Option Numeral} :
    number.all isPositiveNumberText = true ↔ ∀ n ∈ number, 0 < n.value := by
  cases number <;> simp [isPositiveNumberText]

theorem nonBlank_eq_some {s text : String} (htext : nonBlank s = some text) :
    Text.strip text = text ∧ text ≠ "" := by
  simp only [nonBlank] at htext
  split at htext
  · exact absurd htext (by simp)
  next hne =>
    obtain rfl := Option.some.inj htext
    exact ⟨Text.strip_strip s, hne⟩

/-- A text that reads as itself. -/
theorem jsonText_str_of_strip {text : String} (hstrip : Text.strip text = text)
    (hne : text ≠ "") : jsonText (.str text) = some text := by
  simp [jsonText, nonBlank, hstrip, hne]

theorem jsonText_eq_some {value : Json} {text : String} (htext : jsonText value = some text) :
    Text.strip text = text ∧ text ≠ "" := by
  cases value with
  | null => exact absurd htext (by simp [jsonText])
  | bool | int | float | str | arr | obj =>
      simp only [jsonText] at htext
      exact nonBlank_eq_some htext

/-- Reading a read text again changes nothing. -/
theorem jsonText_str_jsonText {value : Json} {text : String}
    (htext : jsonText value = some text) : jsonText (.str text) = some text :=
  jsonText_str_of_strip (jsonText_eq_some htext).1 (jsonText_eq_some htext).2

theorem eq_strip_of_jsonText_str {s text : String} (htext : jsonText (.str s) = some text) :
    text = Text.strip s := by
  by_cases hblank : Text.strip s = ""
  · simp [jsonText, nonBlank, hblank] at htext
  · simpa [jsonText, nonBlank, hblank, eq_comm] using htext

import Mathlib.Algebra.Order.Floor.Ring
import Mathlib.Data.Int.Log
import Mathlib.Data.Rat.Floor
import TradingPlatform.Foundation.Text

/-! # Decimal numerals and decimal arithmetic

A numeral denotes a rational. An arithmetic context fixes the rounding of
every operation and the results that are beyond its range: `exact` keeps the
rational result, `default` rounds it half to even at 28 significant digits, and
`ranged` does so within the exponents the host language works with.
-/

/-- A finite decimal numeral: sign, coefficient and power of ten. -/
structure Decimal where
  negative : Bool
  coefficient : Nat
  exponent : Int
deriving DecidableEq, Repr

namespace Decimal

def value (d : Decimal) : ℚ :=
  (if d.negative then -1 else 1) * d.coefficient * (10 : ℚ) ^ d.exponent

/-- Integer and fraction digits, read as one coefficient. -/
def ofDigits (negative : Bool) (whole fraction : List Char) (exponent : Int) : Option Decimal :=
  (Text.digitsValue (whole ++ fraction)).map fun n => ⟨negative, n, exponent - fraction.length⟩

/-- The finite decimal a text denotes. Blanks at the ends and underscores are
ignored; a text that denotes no number, an infinity or a NaN gives `none`. -/
def ofText? (text : String) : Option Decimal :=
  let cs := (Text.stripChars text.toList).filter (· != '_')
  let (negative, body) := Text.signed cs
  let mantissa := body.takeWhile fun c => c != 'e' && c != 'E'
  let exponent? : Option Int :=
    match body.drop mantissa.length with
    | [] => some 0
    | _ :: tail =>
        let (negativeExponent, digits) := Text.signed tail
        (Text.digitsValue digits).map fun n => if negativeExponent then -(n : Int) else n
  let whole := mantissa.takeWhile (· != '.')
  let fraction := (mantissa.drop whole.length).drop 1
  exponent?.bind fun exponent => ofDigits negative whole fraction exponent

/-- The number a text denotes. -/
def valueOfText? (text : String) : Option ℚ := (ofText? text).map value

/-- The numerals that can be built at all: neither exponent is out of all bounds. -/
def constructible (d : Decimal) : Bool :=
  -1999999999999999997 ≤ d.exponent &&
    d.exponent + (Nat.toDigits 10 d.coefficient).length ≤ 1000000000000000000

/-- Conversion to text: plain notation for moderate exponents, else scientific. -/
def print (d : Decimal) : String :=
  let digits := Nat.toDigits 10 d.coefficient
  let leftDigits : Int := d.exponent + digits.length
  let dotPlace := if d.exponent ≤ 0 ∧ -6 < leftDigits then leftDigits else 1
  let whole :=
    if dotPlace ≤ 0 then ['0']
    else digits.take dotPlace.toNat ++ List.replicate (dotPlace.toNat - digits.length) '0'
  let fraction := List.replicate (-dotPlace).toNat '0' ++ digits.drop dotPlace.toNat
  let exponent := leftDigits - dotPlace
  String.ofList ((if d.negative then ['-'] else []) ++ whole ++
    (if fraction.isEmpty then [] else '.' :: fraction)) ++
    (if exponent = 0 then "" else if 0 < exponent then "E+" ++ toString exponent
      else "E" ++ toString exponent)

end Decimal

/-- A text that denotes a number, with the number. -/
structure Numeral where
  text : String
  value : ℚ
  denotes : Decimal.valueOfText? text = some value
deriving DecidableEq

/-- The numeral of one unit. -/
def Numeral.one : Numeral := ⟨"1", 1, by decide +kernel⟩

/-- A text as a numeral. -/
def Numeral.ofText? (text : String) : Option Numeral :=
  match h : Decimal.valueOfText? text with
  | some value => some ⟨text, value, h⟩
  | none => none

/-- The nearest integer, ties to the even one. -/
def roundHalfEven (q : ℚ) : ℤ :=
  let below := ⌊q⌋
  if q - below < 1 / 2 then below
  else if 1 / 2 < q - below then below + 1
  else if below % 2 = 0 then below
  else below + 1

/-- Rounding half to even at a number of significant digits. -/
def roundSignificant (digits : ℕ) (q : ℚ) : ℚ :=
  if q = 0 then 0
  else
    let ulp : ℚ := (10 : ℚ) ^ (Int.log 10 |q| + 1 - digits)
    roundHalfEven (q / ulp) * ulp

/-- An arithmetic context: how the exact result of an operation is rounded, which
results are too large, so that the operation raises, and which numerals it reads. -/
structure DecimalContext where
  round : ℚ → ℚ
  overflows : ℚ → Bool := fun _ => false
  reads : Decimal → Bool := fun _ => true

namespace DecimalContext

/-- Exact rational arithmetic. -/
def exact : DecimalContext := { round := id }

/-- The arithmetic numerals get unless told otherwise: 28 digits, half to even. -/
def default : DecimalContext := { round := roundSignificant 28 }

/-- `default` with the exponents of the host language: below the least one digits
are lost, above the greatest one an operation overflows. -/
def ranged : DecimalContext where
  round q :=
    if q = 0 then 0
    else
      let ulp : ℚ := (10 : ℚ) ^ max (Int.log 10 |q| + 1 - 28) (-1000026)
      roundHalfEven (q / ulp) * ulp
  overflows q := 999999 < Int.log 10 |roundSignificant 28 q|
  reads := Decimal.constructible

variable (ctx : DecimalContext)

def add (a b : ℚ) : ℚ := ctx.round (a + b)

def sub (a b : ℚ) : ℚ := ctx.round (a - b)

def mul (a b : ℚ) : ℚ := ctx.round (a * b)

def div (a b : ℚ) : ℚ := ctx.round (a / b)

/-- The sum of a list, added up from zero in its order. -/
def sum (xs : List ℚ) : ℚ := xs.foldl ctx.add 0

@[simp] theorem exact_round (q : ℚ) : exact.round q = q := rfl

@[simp] theorem exact_add (a b : ℚ) : exact.add a b = a + b := rfl

@[simp] theorem exact_sub (a b : ℚ) : exact.sub a b = a - b := rfl

@[simp] theorem exact_mul (a b : ℚ) : exact.mul a b = a * b := rfl

@[simp] theorem exact_div (a b : ℚ) : exact.div a b = a / b := rfl

theorem exact_sum (xs : List ℚ) : exact.sum xs = xs.sum := by
  have hfold : ∀ (ys : List ℚ) (start : ℚ), ys.foldl exact.add start = start + ys.sum := by
    intro ys
    induction ys with
    | nil => simp
    | cons y ys ih => intro start; simp [ih, add_assoc]
  simp [sum, hfold]

end DecimalContext

/-- A decimal rounded in a context and written without an exponent and without
trailing zeros of the fraction. -/
def Decimal.plainText (ctx : DecimalContext) (d : Decimal) : String :=
  let places := (-d.exponent).toNat
  let scaled := (⌊|ctx.round d.value| * 10 ^ places⌋).toNat
  let digits := Nat.toDigits 10 scaled
  let padded := List.replicate (places + 1 - digits.length) '0' ++ digits
  let whole := padded.take (padded.length - places)
  let fraction := (padded.drop (padded.length - places)).rdropWhile (· == '0')
  String.ofList ((if d.negative then ['-'] else []) ++ whole ++
    (if fraction.isEmpty then [] else '.' :: fraction))

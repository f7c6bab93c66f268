import Mathlib.Data.List.Basic

/-! # Numbers in ASCII

The decimal texts of numbers, as bytes, and how the host language reads an integer from
bytes. A run of digits may be of any length.
-/

namespace AsciiNumbers

section Printing

def asciiByte (c : Char) : UInt8 := UInt8.ofNat c.toNat

def decimal (n : Nat) : List UInt8 := (Nat.toDigits 10 n).map asciiByte

def decimalInt : Int → List UInt8
  | .ofNat n => decimal n
  | .negSucc n => asciiByte '-' :: decimal (n + 1)

end Printing

section Reading

def isBlank (b : UInt8) : Bool := (9 ≤ b && b ≤ 13) || b == 32

def strip (line : List UInt8) : List UInt8 :=
  ((line.dropWhile isBlank).reverse.dropWhile isBlank).reverse

def digitValue (b : UInt8) : Option Nat :=
  if 48 ≤ b.toNat ∧ b.toNat ≤ 57 then some (b.toNat - 48) else none

def digitsValue (digits : List UInt8) : Option Nat :=
  digits.foldl (fun acc b => acc.bind fun n => (digitValue b).map (10 * n + ·)) (some 0)

/-- Whether a numeral has a minus, and what follows its sign. -/
def signed : List UInt8 → Bool × List UInt8
  | [] => (false, [])
  | b :: rest =>
      if b = asciiByte '-' then (true, rest)
      else if b = asciiByte '+' then (false, rest)
      else (false, b :: rest)

/-- The integer a numeral denotes, blanks at its ends and single underscores between its
digits ignored. -/
def toInt? (line : List UInt8) : Option Int :=
  let (negative, digits) := signed (strip line)
  if (digits.splitOn (asciiByte '_')).any List.isEmpty then none
  else
    (digitsValue (digits.filter (· != asciiByte '_'))).map fun n =>
      if negative then -(n : Int) else n

end Reading

section RoundTrip

variable {b : UInt8} {n : Nat}

/-- The bytes of the digits. -/
def IsDigit (b : UInt8) : Prop := 48 ≤ b.toNat ∧ b.toNat ≤ 57

theorem digitValue_of_isDigit (hb : IsDigit b) : digitValue b = some (b.toNat - 48) := if_pos hb

theorem IsDigit.ne {other : UInt8} (hb : IsDigit b) (hother : other.toNat < 48 ∨ 57 < other.toNat) :
    b ≠ other := by
  rintro rfl
  unfold IsDigit at hb
  omega

theorem IsDigit.isBlank (hb : IsDigit b) : isBlank b = false := by
  unfold IsDigit at hb
  apply Bool.eq_false_iff.mpr
  intro hblank
  simp only [AsciiNumbers.isBlank, Bool.or_eq_true, Bool.and_eq_true, decide_eq_true_eq, beq_iff_eq,
    UInt8.le_iff_toNat_le] at hblank
  rcases hblank with ⟨-, hhigh⟩ | rfl
  · have hthirteen : (13 : UInt8).toNat = 13 := rfl
    omega
  · have hspace : (32 : UInt8).toNat = 32 := rfl
    omega

theorem toNat_asciiByte {c : Char} (hc : c.isDigit = true) : (asciiByte c).toNat = c.toNat := by
  simp only [Char.isDigit, Bool.and_eq_true, decide_eq_true_eq] at hc
  have hhigh : c.toNat ≤ 57 := hc.2
  rw [asciiByte, UInt8.toNat_ofNat', Nat.mod_eq_of_lt (by omega)]

theorem isDigit_asciiByte {c : Char} (hc : c.isDigit = true) : IsDigit (asciiByte c) := by
  rw [IsDigit, toNat_asciiByte hc]
  simp only [Char.isDigit, Bool.and_eq_true, decide_eq_true_eq] at hc
  exact hc

theorem isDigit_of_mem_decimal (hb : b ∈ decimal n) : IsDigit b := by
  obtain ⟨c, hc, rfl⟩ := List.mem_map.mp hb
  exact isDigit_asciiByte (Nat.isDigit_of_mem_toDigits (by decide) (by decide) hc)

theorem decimal_ne_nil (n : Nat) : decimal n ≠ [] := by
  have hpos := Nat.length_toDigits_pos (b := 10) (n := n)
  intro hnil
  rw [List.map_eq_nil_iff.mp hnil] at hpos
  exact Nat.lt_irrefl _ hpos

theorem digitsValue_append {cs : List Char} (hcs : ∀ c ∈ cs, c.isDigit = true) (acc : Nat) :
    (cs.map asciiByte).foldl (fun acc b => acc.bind fun n => (digitValue b).map (10 * n + ·))
      (some acc) = some (Nat.ofDigitChars 10 cs acc) := by
  induction cs generalizing acc with
  | nil => rfl
  | cons c rest ih =>
      have hdigit := hcs c List.mem_cons_self
      have hvalue : digitValue (asciiByte c) = some (c.toNat - 48) := by
        rw [digitValue_of_isDigit (isDigit_asciiByte hdigit), toNat_asciiByte hdigit]
      rw [List.map_cons, List.foldl_cons, hvalue, Nat.ofDigitChars_cons]
      exact ih (fun d hd => hcs d (List.mem_cons_of_mem _ hd)) _

theorem digitsValue_decimal (n : Nat) : digitsValue (decimal n) = some n := by
  rw [digitsValue, decimal, digitsValue_append fun c hc =>
    Nat.isDigit_of_mem_toDigits (by decide) (by decide) hc, Nat.ofDigitChars_ten_toDigits]

/-- A text without blanks at its ends is not stripped. -/
theorem strip_eq_self {line : List UInt8} (hline : ∀ b ∈ line, isBlank b = false) :
    strip line = line := by
  have hdrop : ∀ bytes : List UInt8, (∀ b ∈ bytes, isBlank b = false) →
      bytes.dropWhile isBlank = bytes := by
    intro bytes hbytes
    cases bytes with
    | nil => rfl
    | cons b rest =>
        exact List.dropWhile_cons_of_neg (by rw [hbytes b List.mem_cons_self]; decide)
  rw [strip, hdrop line hline, hdrop _ fun b hb => hline b (List.mem_reverse.mp hb),
    List.reverse_reverse]

/-- Digits without a separator are read as the number they spell. -/
theorem toInt?_of_digits {line digits : List UInt8} {negative : Bool}
    (hsigned : signed (strip line) = (negative, digits)) (hne : digits ≠ [])
    (hdigits : ∀ b ∈ digits, IsDigit b) :
    toInt? line = (digitsValue digits).map fun n => if negative then -(n : Int) else n := by
  have hseparator : ∀ b ∈ digits, (b == asciiByte '_') = false := fun b hb =>
    beq_eq_false_iff_ne.mpr ((hdigits b hb).ne (Or.inr (by decide)))
  have hfilter : digits.filter (· != asciiByte '_') = digits :=
    List.filter_eq_self.mpr fun b hb => by rw [bne, hseparator b hb]; rfl
  have hsplit : digits.splitOn (asciiByte '_') = [digits] := List.splitOnP_eq_singleton hseparator
  unfold toInt?
  rw [hsigned]
  dsimp only
  rw [hsplit, hfilter, if_neg]
  simpa using hne

theorem toInt?_decimal (n : Nat) : toInt? (decimal n) = some (n : Int) := by
  have hdigits : ∀ b ∈ decimal n, IsDigit b := fun b hb => isDigit_of_mem_decimal hb
  have hsigned : signed (strip (decimal n)) = (false, decimal n) := by
    rw [strip_eq_self fun b hb => (hdigits b hb).isBlank]
    cases hdecimal : decimal n with
    | nil => exact absurd hdecimal (decimal_ne_nil n)
    | cons b rest =>
        have hb := hdigits b (hdecimal ▸ List.mem_cons_self)
        rw [signed, if_neg (hb.ne (Or.inl (by decide))), if_neg (hb.ne (Or.inl (by decide)))]
  rw [toInt?_of_digits hsigned (decimal_ne_nil n) hdigits, digitsValue_decimal]
  rfl

theorem isBlank_of_mem_decimalInt {n : Int} (hb : b ∈ decimalInt n) : isBlank b = false := by
  cases n with
  | ofNat n => exact (isDigit_of_mem_decimal hb).isBlank
  | negSucc n =>
      rcases List.mem_cons.mp hb with rfl | hdigit
      · decide
      · exact (isDigit_of_mem_decimal hdigit).isBlank

theorem toInt?_decimalInt (n : Int) : toInt? (decimalInt n) = some n := by
  cases n with
  | ofNat n => exact toInt?_decimal n
  | negSucc n =>
      have hsigned : signed (strip (decimalInt (.negSucc n))) = (true, decimal (n + 1)) := by
        rw [strip_eq_self fun b hb => isBlank_of_mem_decimalInt hb, decimalInt, signed, if_pos rfl]
      rw [toInt?_of_digits hsigned (decimal_ne_nil _) fun b hb => isDigit_of_mem_decimal hb,
        digitsValue_decimal]
      rfl

end RoundTrip

end AsciiNumbers

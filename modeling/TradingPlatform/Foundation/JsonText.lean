import Mathlib.Data.List.Basic
import TradingPlatform.Foundation.JsonValues

/-! # JSON texts

A decoded value is written in ASCII and without blanks. The reader takes more texts than
are written: blanks between the tokens, any escapes, a key that is repeated. What it reads
is written as a text of its own, and that one reads the same. Surrogates by themselves, of
which no text consists here, are not read.
-/

namespace JsonText

section Writing

def unitDigits (n : ℕ) : List Char :=
  [Nat.digitChar (n / 4096), Nat.digitChar (n / 256 % 16), Nat.digitChar (n / 16 % 16),
    Nat.digitChar (n % 16)]

/-- Half of an escaped character, or all of it. -/
def writeUnit (n : ℕ) : List Char := '\\' :: 'u' :: unitDigits n

/-- The characters that have an escape of their own, each after what stands for it. -/
def escapes : List (Char × Char) :=
  [('"', '"'), ('\\', '\\'), ('n', '\n'), ('r', '\r'), ('t', '\t'), ('f', Char.ofNat 12),
    ('b', Char.ofNat 8)]

def writeChar (c : Char) : List Char :=
  match escapes.find? (·.2 = c) with
  | some (mark, _) => ['\\', mark]
  | none =>
      if 32 ≤ c.toNat ∧ c.toNat < 127 then [c]
      else if c.toNat < 0x10000 then writeUnit c.toNat
      else
        let rest := c.toNat - 0x10000
        writeUnit (0xD800 + rest / 0x400) ++ writeUnit (0xDC00 + rest % 0x400)

def writeString (s : String) : List Char := '"' :: s.toList.flatMap writeChar ++ ['"']

/-- The values that are written as a name. -/
def names : List (List Char × Json) :=
  [(['n', 'u', 'l', 'l'], .null), (['t', 'r', 'u', 'e'], .bool true),
    (['f', 'a', 'l', 's', 'e'], .bool false), (['N', 'a', 'N'], .float "nan"),
    (['I', 'n', 'f', 'i', 'n', 'i', 't', 'y'], .float "inf"),
    (['-', 'I', 'n', 'f', 'i', 'n', 'i', 't', 'y'], .float "-inf")]

def writeFloat (printed : String) : List Char :=
  if printed = "nan" then ['N', 'a', 'N']
  else if printed = "inf" then ['I', 'n', 'f', 'i', 'n', 'i', 't', 'y']
  else if printed = "-inf" then ['-', 'I', 'n', 'f', 'i', 'n', 'i', 't', 'y']
  else printed.toList

mutual

def write : Json → List Char
  | .null => ['n', 'u', 'l', 'l']
  | .bool true => ['t', 'r', 'u', 'e']
  | .bool false => ['f', 'a', 'l', 's', 'e']
  | .int n => (toString n).toList
  | .float printed => writeFloat printed
  | .str s => writeString s
  | .arr [] => ['[', ']']
  | .arr (item :: items) => '[' :: (write item ++ writeItems items)
  | .obj [] => ['\x7b', '\x7d']
  | .obj ((key, value) :: fields) =>
      '\x7b' :: (writeString key ++ ':' :: (write value ++ writeFields fields))

/-- The items after the first, up to the end of their list. -/
def writeItems : List Json → List Char
  | [] => [']']
  | item :: items => ',' :: (write item ++ writeItems items)

def writeFields : List (String × Json) → List Char
  | [] => ['\x7d']
  | (key, value) :: fields =>
      ',' :: (writeString key ++ ':' :: (write value ++ writeFields fields))

end

/-- The text of a value. -/
def dumps (value : Json) : String := String.ofList (write value)

end Writing

section Reading

def isBlank (c : Char) : Bool := c == ' ' || c == '\t' || c == '\n' || c == '\r'

def skipBlanks (text : List Char) : List Char := text.dropWhile isBlank

def hexValue? (c : Char) : Option ℕ :=
  if '0' ≤ c ∧ c ≤ '9' then some (c.toNat - 48)
  else if 'a' ≤ c ∧ c ≤ 'f' then some (c.toNat - 87)
  else if 'A' ≤ c ∧ c ≤ 'F' then some (c.toNat - 55)
  else none

def scanUnit : List Char → Option (ℕ × List Char)
  | a :: b :: c :: d :: rest => do
      let a ← hexValue? a
      let b ← hexValue? b
      let c ← hexValue? c
      let d ← hexValue? d
      return (a * 4096 + b * 256 + c * 16 + d, rest)
  | _ => none

/-- The second half of a character whose first half is given. -/
def scanSecond (first : ℕ) : List Char → Option (Char × List Char)
  | '\\' :: 'u' :: rest =>
      (scanUnit rest).bind fun (second, rest) =>
        if 0xDC00 ≤ second ∧ second ≤ 0xDFFF then
          some (Char.ofNat (0x10000 + (first - 0xD800) * 0x400 + (second - 0xDC00)), rest)
        else none
  | _ => none

/-- The character of an escape, after its backslash. -/
def scanEscape : List Char → Option (Char × List Char)
  | [] => none
  | mark :: rest =>
      if mark = 'u' then
        (scanUnit rest).bind fun (n, rest) =>
          if 0xD800 ≤ n ∧ n ≤ 0xDBFF then scanSecond n rest
          else if 0xDC00 ≤ n ∧ n ≤ 0xDFFF then none
          else some (Char.ofNat n, rest)
      else (('/', '/') :: escapes).findSome? fun entry =>
        if entry.1 = mark then some (entry.2, rest) else none

def scanChar (c : Char) (rest : List Char) : Option (Char × List Char) :=
  if c = '\\' then scanEscape rest else if c.toNat < 32 then none else some (c, rest)

/-- A string after its opening quote. -/
def scanString : ℕ → List Char → Option (List Char × List Char)
  | 0, _ => none
  | _ + 1, [] => none
  | fuel + 1, c :: rest =>
      if c = '"' then some ([], rest)
      else (scanChar c rest).bind fun (c, rest) =>
        (scanString fuel rest).map fun (cs, rest) => (c :: cs, rest)

def scanText (text : List Char) : Option (String × List Char) :=
  (scanString text.length text).map fun (cs, rest) => (String.ofList cs, rest)

def scanDigits (text : List Char) : List Char × List Char :=
  (text.takeWhile Char.isDigit, text.dropWhile Char.isDigit)

/-- The pieces of a number. -/
structure Numeral where
  sign : List Char
  integer : List Char
  fraction : List Char
  exponent : List Char

namespace Numeral

def chars (numeral : Numeral) : List Char :=
  numeral.sign ++ (numeral.integer ++ (numeral.fraction ++ numeral.exponent))

def isInteger (numeral : Numeral) : Bool := numeral.fraction = [] && numeral.exponent = []

def toInt (numeral : Numeral) : ℤ :=
  let n : ℤ := Nat.ofDigitChars 10 numeral.integer 0
  if numeral.sign = [] then n else -n

end Numeral

def scanSign : List Char → List Char × List Char
  | [] => ([], [])
  | c :: rest => if c = '-' then (['-'], rest) else ([], c :: rest)

def scanInteger : List Char → Option (List Char × List Char)
  | [] => none
  | c :: rest =>
      if c = '0' then some (['0'], rest)
      else if c.isDigit then some (scanDigits (c :: rest)) else none

/-- A point with digits after it; without them it is left where it is. -/
def scanFraction : List Char → List Char × List Char
  | [] => ([], [])
  | c :: rest =>
      let (digits, more) := scanDigits rest
      if c = '.' ∧ digits ≠ [] then ('.' :: digits, more) else ([], c :: rest)

def scanExponentSign : List Char → List Char × List Char
  | [] => ([], [])
  | c :: rest => if c = '+' ∨ c = '-' then ([c], rest) else ([], c :: rest)

def scanExponent : List Char → List Char × List Char
  | [] => ([], [])
  | c :: rest =>
      let (sign, unsigned) := scanExponentSign rest
      let (digits, more) := scanDigits unsigned
      if (c = 'e' ∨ c = 'E') ∧ digits ≠ [] then (c :: (sign ++ digits), more) else ([], c :: rest)

def scanNumeral (text : List Char) : Option (Numeral × List Char) :=
  let (sign, text) := scanSign text
  (scanInteger text).map fun (integer, text) =>
    let (fraction, text) := scanFraction text
    let (exponent, text) := scanExponent text
    (⟨sign, integer, fraction, exponent⟩, text)

def scanName (text : List Char) : Option (Json × List Char) :=
  names.findSome? fun entry =>
    if entry.1.isPrefixOf text then some (entry.2, text.drop entry.1.length) else none

section Values

variable (readFloat : String → String)

def scanNumber (text : List Char) : Option (Json × List Char) :=
  (scanNumeral text).map fun (numeral, rest) =>
    (if numeral.isInteger then .int numeral.toInt
      else .float (readFloat (String.ofList numeral.chars)), rest)

/-- A separator between blanks. -/
def scanSeparator (separator : Char) (text : List Char) : Option (List Char) :=
  match skipBlanks text with
  | [] => none
  | c :: rest => if c = separator then some (skipBlanks rest) else none

mutual

def scanOnce : ℕ → List Char → Option (Json × List Char)
  | 0, _ => none
  | _ + 1, [] => none
  | fuel + 1, c :: rest =>
      if c = '"' then (scanText rest).map fun (s, rest) => (.str s, rest)
      else if c = '[' then
        match skipBlanks rest with
        | [] => none
        | c :: rest =>
            if c = ']' then some (.arr [], rest)
            else (scanOnce fuel (c :: rest)).bind fun (item, rest) =>
              (scanItems fuel rest).map fun (items, rest) => (.arr (item :: items), rest)
      else if c = '\x7b' then
        match skipBlanks rest with
        | [] => none
        | c :: rest =>
            if c = '\x7d' then some (.obj [], rest)
            else (scanField fuel (c :: rest)).bind fun (field, rest) =>
              (scanFields fuel rest).map fun (fields, rest) =>
                (.obj (Dict.merge [] (field :: fields)), rest)
      else (scanName (c :: rest)).or (scanNumber readFloat (c :: rest))

/-- The items after the first, up to the end of their list. -/
def scanItems : ℕ → List Char → Option (List Json × List Char)
  | 0, _ => none
  | fuel + 1, text =>
      match skipBlanks text with
      | [] => none
      | c :: rest =>
          if c = ']' then some ([], rest)
          else if c = ',' then
            (scanOnce fuel (skipBlanks rest)).bind fun (item, rest) =>
              (scanItems fuel rest).map fun (items, rest) => (item :: items, rest)
          else none

def scanField : ℕ → List Char → Option ((String × Json) × List Char)
  | 0, _ => none
  | _ + 1, [] => none
  | fuel + 1, c :: rest =>
      if c = '"' then
        (scanText rest).bind fun (key, rest) =>
          (scanSeparator ':' rest).bind fun rest =>
            (scanOnce fuel rest).map fun (value, rest) => ((key, value), rest)
      else none

def scanFields : ℕ → List Char → Option (List (String × Json) × List Char)
  | 0, _ => none
  | fuel + 1, text =>
      match skipBlanks text with
      | [] => none
      | c :: rest =>
          if c = '\x7d' then some ([], rest)
          else if c = ',' then
            (scanField fuel (skipBlanks rest)).bind fun (field, rest) =>
              (scanFields fuel rest).map fun (fields, rest) => (field :: fields, rest)
          else none

end

/-- The value of a text, if it is one of a value and nothing else. -/
def loads (text : String) : Option Json :=
  let chars := skipBlanks text.toList
  (scanOnce readFloat (chars.length + 1) chars).bind fun (value, rest) =>
    if skipBlanks rest = [] then some value else none

end Values

end Reading

section Characters

variable {rest : List Char} {fuel : ℕ}

theorem hexValue?_digitChar {n : ℕ} (hn : n < 16) : hexValue? (Nat.digitChar n) = some n := by
  revert n
  decide

theorem scanUnit_unitDigits {n : ℕ} (hn : n < 0x10000) (rest : List Char) :
    scanUnit (unitDigits n ++ rest) = some (n, rest) := by
  have hfirst := hexValue?_digitChar (n := n / 4096) (by omega)
  have hsecond := hexValue?_digitChar (n := n / 256 % 16) (by omega)
  have hthird := hexValue?_digitChar (n := n / 16 % 16) (by omega)
  have hlast := hexValue?_digitChar (n := n % 16) (by omega)
  have hsum : n / 4096 * 4096 + n / 256 % 16 * 256 + n / 16 % 16 * 16 + n % 16 = n := by omega
  simp [scanUnit, unitDigits, hfirst, hsecond, hthird, hlast, hsum]

theorem scanEscape_of_mem {mark c : Char} (hmem : (mark, c) ∈ escapes) :
    scanEscape (mark :: rest) = some (c, rest) := by
  simp only [escapes, List.mem_cons, Prod.mk.injEq, List.not_mem_nil, or_false] at hmem
  rcases hmem with h | h | h | h | h | h | h <;> obtain ⟨rfl, rfl⟩ := h <;>
    simp [scanEscape, escapes]

theorem scanEscape_unit {c : Char} (hc : c.toNat < 0x10000) :
    scanEscape ('u' :: (unitDigits c.toNat ++ rest)) = some (c, rest) := by
  have hvalid := c.valid
  have hfirst : ¬ (0xD800 ≤ c.toNat ∧ c.toNat ≤ 0xDBFF) := by
    rintro ⟨hlow, hhigh⟩
    rcases hvalid with h | h <;> simp only [Char.toNat] at * <;> omega
  have hsecond : ¬ (0xDC00 ≤ c.toNat ∧ c.toNat ≤ 0xDFFF) := by
    rintro ⟨hlow, hhigh⟩
    rcases hvalid with h | h <;> simp only [Char.toNat] at * <;> omega
  simp [scanEscape, scanUnit_unitDigits hc, hfirst, hsecond]

theorem scanEscape_pair {c : Char} (hc : 0x10000 ≤ c.toNat) :
    scanEscape ('u' :: (unitDigits (0xD800 + (c.toNat - 0x10000) / 0x400) ++
      (writeUnit (0xDC00 + (c.toNat - 0x10000) % 0x400) ++ rest))) = some (c, rest) := by
  have hsmall : c.toNat < 0x110000 := by
    rcases c.valid with h | h <;> simp only [Char.toNat] at * <;> omega
  have hfirst := scanUnit_unitDigits (n := 0xD800 + (c.toNat - 0x10000) / 0x400)
    (by omega) (writeUnit (0xDC00 + (c.toNat - 0x10000) % 0x400) ++ rest)
  have hsecond := scanUnit_unitDigits (n := 0xDC00 + (c.toNat - 0x10000) % 0x400) (by omega) rest
  have hhigh : 0xD800 ≤ 0xD800 + (c.toNat - 0x10000) / 0x400 ∧
      0xD800 + (c.toNat - 0x10000) / 0x400 ≤ 0xDBFF := by omega
  have hlow : 0xDC00 ≤ 0xDC00 + (c.toNat - 0x10000) % 0x400 ∧
      0xDC00 + (c.toNat - 0x10000) % 0x400 ≤ 0xDFFF := by omega
  have hsum : 0x10000 + (0xD800 + (c.toNat - 0x10000) / 0x400 - 0xD800) * 0x400 +
      (0xDC00 + (c.toNat - 0x10000) % 0x400 - 0xDC00) = c.toNat := by omega
  rw [scanEscape, if_pos rfl, hfirst, Option.bind_some]
  dsimp only
  rw [if_pos hhigh, writeUnit, List.cons_append, List.cons_append, scanSecond, hsecond,
    Option.bind_some]
  dsimp only
  rw [if_pos hlow, hsum, Char.ofNat_toNat]

/-- A character is read as it was written. -/
theorem exists_scanChar_writeChar (c : Char) : ∃ mark tail, writeChar c = mark :: tail ∧
    mark ≠ '"' ∧ ∀ rest, scanChar mark (tail ++ rest) = some (c, rest) := by
  unfold writeChar
  cases hfind : escapes.find? (·.2 = c) with
  | some entry =>
      obtain ⟨mark, decoded⟩ := entry
      obtain rfl : decoded = c := by simpa using List.find?_some hfind
      refine ⟨'\\', [mark], rfl, by decide, fun rest => ?_⟩
      rw [scanChar, if_pos rfl]
      exact scanEscape_of_mem (List.mem_of_find?_eq_some hfind)
  | none =>
      have hother := List.find?_eq_none.mp hfind
      have hquote : c ≠ '"' := by
        rintro rfl
        exact hother ('"', '"') (by simp [escapes]) (by simp)
      have hbackslash : c ≠ '\\' := by
        rintro rfl
        exact hother ('\\', '\\') (by simp [escapes]) (by simp)
      dsimp only
      split_ifs with hplain hunit
      · refine ⟨c, [], rfl, hquote, fun rest => ?_⟩
        rw [scanChar, if_neg hbackslash, if_neg (by omega)]
        rfl
      · refine ⟨'\\', 'u' :: unitDigits c.toNat, rfl, by decide, fun rest => ?_⟩
        rw [scanChar, if_pos rfl, List.cons_append]
        exact scanEscape_unit hunit
      · refine ⟨'\\', 'u' :: (unitDigits (0xD800 + (c.toNat - 0x10000) / 0x400) ++
          writeUnit (0xDC00 + (c.toNat - 0x10000) % 0x400)), rfl, by decide, fun rest => ?_⟩
        rw [scanChar, if_pos rfl, List.cons_append, List.append_assoc]
        exact scanEscape_pair (by omega)

theorem scanString_writeChars (cs : List Char) {fuel : ℕ}
    (hfuel : (cs.flatMap writeChar).length < fuel) :
    scanString fuel (cs.flatMap writeChar ++ '"' :: rest) = some (cs, rest) := by
  induction cs generalizing fuel with
  | nil =>
      obtain ⟨fuel, rfl⟩ := Nat.exists_eq_add_one.mpr (Nat.zero_lt_of_lt hfuel)
      rfl
  | cons c cs ih =>
      obtain ⟨mark, tail, hwrite, hmark, hscan⟩ := exists_scanChar_writeChar c
      rw [List.flatMap_cons, hwrite, List.length_append, List.length_cons] at hfuel
      obtain ⟨fuel, rfl⟩ := Nat.exists_eq_add_one.mpr (Nat.zero_lt_of_lt hfuel)
      rw [List.flatMap_cons, hwrite, List.cons_append, List.cons_append, List.append_assoc,
        scanString, if_neg hmark, hscan, Option.bind_some]
      dsimp only
      rw [ih (by omega)]
      rfl

theorem scanText_writeString (s : String) :
    ∃ more, writeString s = '"' :: more ∧ ∀ rest, scanText (more ++ rest) = some (s, rest) := by
  refine ⟨s.toList.flatMap writeChar ++ ['"'], rfl, fun rest => ?_⟩
  rw [List.append_assoc, List.singleton_append, scanText, scanString_writeChars]
  · simp
  · simp only [List.length_append, List.length_cons]
    omega

end Characters

section Numerals

/-- Nothing that would carry a number on. -/
def Stops (text : List Char) : Prop :=
  ∀ c ∈ text.head?, c.isDigit = false ∧ c ≠ '.' ∧ c ≠ 'e' ∧ c ≠ 'E'

def Digits (cs : List Char) : Prop := cs ≠ [] ∧ ∀ c ∈ cs, c.isDigit = true

namespace Numeral

/-- The pieces are those that the grammar of numbers allows. -/
structure WellFormed (numeral : Numeral) : Prop where
  sign : numeral.sign = [] ∨ numeral.sign = ['-']
  integer : numeral.integer = ['0'] ∨
    Digits numeral.integer ∧ ∀ c ∈ numeral.integer.head?, c ≠ '0'
  fraction : numeral.fraction = [] ∨ ∃ digits, Digits digits ∧ numeral.fraction = '.' :: digits
  exponent : numeral.exponent = [] ∨ ∃ mark sign digits, (mark = 'e' ∨ mark = 'E') ∧
    (sign = [] ∨ sign = ['+'] ∨ sign = ['-']) ∧ Digits digits ∧
      numeral.exponent = mark :: (sign ++ digits)

end Numeral

variable {digits rest text : List Char} {numeral : Numeral}

theorem scanDigits_append (hdigits : ∀ c ∈ digits, c.isDigit = true)
    (hrest : ∀ c ∈ rest.head?, c.isDigit = false) :
    scanDigits (digits ++ rest) = (digits, rest) := by
  have htake : rest.takeWhile Char.isDigit = [] ∧ rest.dropWhile Char.isDigit = rest := by
    cases rest with
    | nil => exact ⟨rfl, rfl⟩
    | cons c more => simp [hrest c rfl]
  rw [scanDigits, List.takeWhile_append_of_pos hdigits, List.dropWhile_append_of_pos hdigits,
    htake.1, htake.2, List.append_nil]

theorem scanSign_append (hsign : digits = [] ∨ digits = ['-'])
    (hrest : ∀ c ∈ rest.head?, c ≠ '-') : scanSign (digits ++ rest) = (digits, rest) := by
  rcases hsign with rfl | rfl
  · cases rest with
    | nil => rfl
    | cons c more => exact if_neg (hrest c rfl)
  · rfl

theorem scanInteger_append (hinteger : digits = ['0'] ∨
      Digits digits ∧ ∀ c ∈ digits.head?, c ≠ '0')
    (hrest : ∀ c ∈ rest.head?, c.isDigit = false) :
    scanInteger (digits ++ rest) = some (digits, rest) := by
  rcases hinteger with rfl | ⟨⟨hne, hdigits⟩, hfirst⟩
  · rfl
  · cases digits with
    | nil => exact absurd rfl hne
    | cons c more =>
        rw [List.cons_append, scanInteger, if_neg (hfirst c rfl),
          if_pos (hdigits c List.mem_cons_self), ← List.cons_append,
          scanDigits_append hdigits hrest]

theorem scanFraction_append (hfraction : digits = [] ∨ ∃ more, Digits more ∧ digits = '.' :: more)
    (hrest : ∀ c ∈ rest.head?, c.isDigit = false ∧ c ≠ '.') :
    scanFraction (digits ++ rest) = (digits, rest) := by
  rcases hfraction with rfl | ⟨more, hmore, rfl⟩
  · cases rest with
    | nil => rfl
    | cons c rest => simp [scanFraction, (hrest c rfl).2]
  · rw [List.cons_append, scanFraction, scanDigits_append hmore.2 fun c hc => (hrest c hc).1]
    exact if_pos ⟨rfl, hmore.1⟩

theorem scanExponentSign_append (hsign : digits = [] ∨ digits = ['+'] ∨ digits = ['-'])
    (hrest : ∀ c ∈ rest.head?, c.isDigit = true) :
    scanExponentSign (digits ++ rest) = (digits, rest) := by
  rcases hsign with rfl | rfl | rfl
  · cases rest with
    | nil => rfl
    | cons c more =>
        refine if_neg ?_
        rintro (rfl | rfl) <;> exact absurd (hrest _ rfl) (by decide)
  · rfl
  · rfl

theorem scanExponent_append (hexponent : digits = [] ∨ ∃ mark sign more,
      (mark = 'e' ∨ mark = 'E') ∧ (sign = [] ∨ sign = ['+'] ∨ sign = ['-']) ∧ Digits more ∧
        digits = mark :: (sign ++ more))
    (hrest : Stops rest) : scanExponent (digits ++ rest) = (digits, rest) := by
  rcases hexponent with rfl | ⟨mark, sign, more, hmark, hsign, hmore, rfl⟩
  · cases rest with
    | nil => rfl
    | cons c rest => simp [scanExponent, (hrest c rfl).2.2]
  · have hhead : ∀ c ∈ (more ++ rest).head?, c.isDigit = true := by
      obtain ⟨hne, hdigits⟩ := hmore
      cases more with
      | nil => exact absurd rfl hne
      | cons d more =>
          intro c hc
          obtain rfl : d = c := by simpa using hc
          exact hdigits d List.mem_cons_self
    rw [List.cons_append, List.append_assoc, scanExponent, scanExponentSign_append hsign hhead]
    dsimp only
    rw [scanDigits_append hmore.2 fun c hc => (hrest c hc).1]
    exact if_pos ⟨hmark, hmore.1⟩

/-- A well-formed numeral is read up to where it ends. -/
theorem scanNumeral_append (hnumeral : numeral.WellFormed) (hrest : Stops rest) :
    scanNumeral (numeral.chars ++ rest) = some (numeral, rest) := by
  obtain ⟨sign, integer, fraction, exponent⟩ := numeral
  obtain ⟨hsign, hinteger, hfraction, hexponent⟩ := hnumeral
  dsimp only at hsign hinteger hfraction hexponent
  have hafter : ∀ c ∈ (exponent ++ rest).head?, c.isDigit = false ∧ c ≠ '.' := by
    intro c hc
    rcases hexponent with rfl | ⟨mark, _, _, hmark, -, -, rfl⟩
    · exact ⟨(hrest c hc).1, (hrest c hc).2.1⟩
    · obtain rfl : mark = c := by simpa using hc
      rcases hmark with rfl | rfl <;> decide
  have hdigits : ∀ c ∈ (fraction ++ (exponent ++ rest)).head?, c.isDigit = false := by
    intro c hc
    rcases hfraction with rfl | ⟨digits, -, rfl⟩
    · exact (hafter c hc).1
    · obtain rfl : '.' = c := by simpa using hc
      decide
  have hminus : ∀ c ∈ (integer ++ (fraction ++ (exponent ++ rest))).head?, c ≠ '-' := by
    intro c hc
    rintro rfl
    rcases hinteger with rfl | ⟨⟨hne, hall⟩, -⟩
    · simp at hc
    · cases integer with
      | nil => exact absurd rfl hne
      | cons d more =>
          obtain rfl : d = '-' := by simpa using hc
          exact absurd (hall '-' List.mem_cons_self) (by decide)
  simp only [Numeral.chars, List.append_assoc]
  rw [scanNumeral, scanSign_append hsign hminus]
  dsimp only
  rw [scanInteger_append hinteger hdigits, Option.map_some, scanFraction_append hfraction hafter,
    scanExponent_append hexponent hrest]

end Numerals

section Integers

/-- The pieces of an integer as it is printed. -/
def intNumeral (n : ℤ) : Numeral :=
  ⟨if n < 0 then ['-'] else [], Nat.toDigits 10 n.natAbs, [], []⟩

theorem toList_toString (n : ℤ) : (toString n).toList = (intNumeral n).chars := by
  cases n with
  | ofNat n =>
      have hsign : ¬ Int.ofNat n < 0 := not_lt.mpr (Int.natCast_nonneg n)
      simp only [intNumeral, Numeral.chars, if_neg hsign, List.append_nil, List.nil_append]
      exact Nat.toList_repr
  | negSucc n =>
      simp only [intNumeral, Numeral.chars, if_pos (Int.negSucc_lt_zero n), List.append_nil]
      have hprinted : toString (Int.negSucc n) = "-" ++ Nat.repr (n + 1) := (rfl)
      rw [hprinted, String.toList_append, Nat.toList_repr]
      rfl

theorem head?_toDigits {n : ℕ} (hn : n ≠ 0) : ∀ c ∈ (Nat.toDigits 10 n).head?, c ≠ '0' := by
  induction n using Nat.strong_induction_on with
  | h n ih =>
      by_cases hsmall : n < 10
      · rw [Nat.toDigits_of_lt_base hsmall]
        rintro c hc rfl
        exact hn (Nat.digitChar_eq_zero.mp (Option.some.inj hc))
      · rw [Nat.toDigits_of_base_le (by decide) (not_lt.mp hsmall)]
        intro c hc
        have hhead := ih (n / 10) (by omega) (by omega)
        cases hdigits : Nat.toDigits 10 (n / 10) with
        | nil => exact absurd hdigits Nat.toDigits_ne_nil
        | cons d more =>
            rw [hdigits] at hhead hc
            exact hhead c hc

theorem wellFormed_intNumeral (n : ℤ) : (intNumeral n).WellFormed where
  sign := by
    unfold intNumeral
    split_ifs
    · exact Or.inr rfl
    · exact Or.inl rfl
  integer := by
    by_cases hzero : n.natAbs = 0
    · exact Or.inl (by rw [intNumeral, hzero]; rfl)
    · exact Or.inr ⟨⟨Nat.toDigits_ne_nil, fun c hc =>
        Nat.isDigit_of_mem_toDigits (by decide) (by decide) hc⟩, head?_toDigits hzero⟩
  fraction := Or.inl rfl
  exponent := Or.inl rfl

theorem toInt_intNumeral (n : ℤ) : (intNumeral n).toInt = n := by
  simp only [Numeral.toInt, intNumeral, Nat.ofDigitChars_ten_toDigits]
  by_cases hneg : n < 0
  · rw [if_pos hneg, if_neg (by simp)]
    omega
  · rw [if_neg hneg, if_pos rfl]
    omega

end Integers

section Floats

variable (readFloat : String → String)

/-- How a float is printed: as a name, or as a numeral that is not one of an integer and that
reads as this float. -/
def Printed (printed : String) : Prop :=
  printed = "nan" ∨ printed = "inf" ∨ printed = "-inf" ∨
    readFloat printed = printed ∧ ∃ numeral : Numeral, numeral.WellFormed ∧
      numeral.isInteger = false ∧ printed.toList = numeral.chars

/-- Every float that is read has a printed form. -/
def Reads : Prop :=
  ∀ numeral : Numeral, numeral.WellFormed → numeral.isInteger = false →
    Printed readFloat (readFloat (String.ofList numeral.chars))

mutual

/-- What the host language holds: each key of a dictionary once, and floats as they print. -/
def Writable : Json → Prop
  | .float printed => Printed readFloat printed
  | .arr items => WritableItems items
  | .obj fields => (fields.map Prod.fst).Nodup ∧ WritableFields fields
  | .null | .bool _ | .int _ | .str _ => True

def WritableItems : List Json → Prop
  | [] => True
  | item :: items => Writable item ∧ WritableItems items

def WritableFields : List (String × Json) → Prop
  | [] => True
  | (_, value) :: fields => Writable value ∧ WritableFields fields

end

end Floats

section Heads

variable {readFloat : String → String} {rest : List Char} {value : Json} {numeral : Numeral}

theorem Numeral.WellFormed.head (hnumeral : numeral.WellFormed) : ∃ c more, c.isDigit = true ∧
    (numeral.chars = c :: more ∨ numeral.chars = '-' :: c :: more) := by
  obtain ⟨c, more, hc, hinteger⟩ : ∃ c more, c.isDigit = true ∧ numeral.integer = c :: more := by
    rcases hnumeral.integer with hzero | ⟨⟨hne, hdigits⟩, -⟩
    · exact ⟨'0', [], rfl, hzero⟩
    · obtain ⟨c, more, hcons⟩ := List.exists_cons_of_ne_nil hne
      exact ⟨c, more, hdigits c (hcons ▸ List.mem_cons_self), hcons⟩
  rcases hnumeral.sign with hsign | hsign
  · exact ⟨c, _, hc, Or.inl (by rw [Numeral.chars, hsign, hinteger]; rfl)⟩
  · exact ⟨c, _, hc, Or.inr (by rw [Numeral.chars, hsign, hinteger]; rfl)⟩

/-- A numeral is not a name. -/
theorem Numeral.WellFormed.scanName (hnumeral : numeral.WellFormed) (rest : List Char) :
    scanName (numeral.chars ++ rest) = none := by
  obtain ⟨c, more, hc, hchars⟩ := hnumeral.head
  have hne : ∀ d : Char, d.isDigit = false → d ≠ c := by
    rintro d hd rfl
    rw [hc] at hd
    cases hd
  have hminus := hne '-' rfl
  have hn := hne 'n' rfl
  have ht := hne 't' rfl
  have hf := hne 'f' rfl
  have hN := hne 'N' rfl
  have hI := hne 'I' rfl
  rcases hchars with hchars | hchars <;> rw [hchars] <;>
    simp [JsonText.scanName, names, List.findSome?, hminus, hn, ht, hf, hN, hI]

theorem Numeral.WellFormed.scanNumber (hnumeral : numeral.WellFormed)
    (readFloat : String → String) (hrest : Stops rest) :
    scanNumber readFloat (numeral.chars ++ rest) =
      some (if numeral.isInteger then .int numeral.toInt
        else .float (readFloat (String.ofList numeral.chars)), rest) := by
  rw [JsonText.scanNumber, scanNumeral_append hnumeral hrest]
  rfl

/-- What begins a text that is neither a string, a list nor a dictionary. -/
theorem scanOnce_of_head {fuel : ℕ} {c : Char} (hc : c ∉ ['"', '[', '\x7b']) :
    scanOnce readFloat (fuel + 1) (c :: rest) =
      (scanName (c :: rest)).or (JsonText.scanNumber readFloat (c :: rest)) := by
  simp only [List.mem_cons, List.not_mem_nil, or_false, not_or] at hc
  rw [scanOnce, if_neg hc.1, if_neg hc.2.1, if_neg hc.2.2]

theorem Numeral.WellFormed.scanOnce {fuel : ℕ} (hnumeral : numeral.WellFormed)
    (hrest : Stops rest) : JsonText.scanOnce readFloat (fuel + 1) (numeral.chars ++ rest) =
      some (if numeral.isInteger then .int numeral.toInt
        else .float (readFloat (String.ofList numeral.chars)), rest) := by
  have hname := hnumeral.scanName rest
  have hnumber := hnumeral.scanNumber readFloat hrest
  obtain ⟨c, more, hc, hchars⟩ := hnumeral.head
  rcases hchars with hchars | hchars
  · rw [hchars, List.cons_append] at hname hnumber ⊢
    rw [scanOnce_of_head, hname, hnumber, Option.none_or]
    intro hmem
    simp only [List.mem_cons, List.not_mem_nil, or_false] at hmem
    rcases hmem with rfl | rfl | rfl <;> exact absurd hc (by decide)
  · rw [hchars, List.cons_append] at hname hnumber ⊢
    rw [scanOnce_of_head (by decide), hname, hnumber, Option.none_or]

end Heads

section RoundTrip

variable {readFloat : String → String} {rest : List Char} {value : Json} {fuel : ℕ}

theorem skipBlanks_cons {c : Char} (hc : isBlank c = false) :
    skipBlanks (c :: rest) = c :: rest := List.dropWhile_cons_of_neg (by simp [hc])

theorem stops_of_head {c : Char} (hc : c ∈ [']', ',', '\x7d']) : Stops (c :: rest) := by
  intro d hd
  obtain rfl : c = d := by simpa using hd
  simp only [List.mem_cons, List.not_mem_nil, or_false] at hc
  rcases hc with rfl | rfl | rfl <;> decide

theorem stops_writeItems (items : List Json) (rest : List Char) :
    Stops (writeItems items ++ rest) := by
  cases items <;> exact stops_of_head (by simp)

theorem stops_writeFields (fields : List (String × Json)) (rest : List Char) :
    Stops (writeFields fields ++ rest) := by
  cases fields <;> exact stops_of_head (by simp)

/-- A printed float is written as a name or as its numeral. -/
theorem scanOnce_writeFloat {printed : String} (hprinted : Printed readFloat printed)
    (hrest : Stops rest) :
    scanOnce readFloat (fuel + 1) (writeFloat printed ++ rest) =
      some (.float printed, rest) := by
  by_cases hnan : printed = "nan"
  · rw [hnan]
    rfl
  by_cases hinf : printed = "inf"
  · rw [hinf]
    rfl
  by_cases hneg : printed = "-inf"
  · rw [hneg]
    rfl
  obtain ⟨hread, numeral, hnumeral, hfloat, hchars⟩ :=
    hprinted.resolve_left hnan |>.resolve_left hinf |>.resolve_left hneg
  have hsame : String.ofList numeral.chars = printed := by
    rw [← hchars, String.ofList_toList]
  rw [writeFloat, if_neg hnan, if_neg hinf, if_neg hneg, hchars, hnumeral.scanOnce hrest, hfloat,
    hsame, hread]
  rfl

/-- What begins the text of a value. -/
theorem head_write (hvalue : Writable readFloat value) :
    ∃ c more, write value = c :: more ∧ isBlank c = false ∧ c ≠ ']' := by
  have hnumeral : ∀ numeral : Numeral, numeral.WellFormed →
      ∃ c more, numeral.chars = c :: more ∧ isBlank c = false ∧ c ≠ ']' := by
    intro numeral hnumeral
    obtain ⟨c, more, hc, hchars | hchars⟩ := hnumeral.head
    · refine ⟨c, more, hchars, ?_, ?_⟩
      · by_contra hblank
        simp only [isBlank, Bool.not_eq_false, Bool.or_eq_true, beq_iff_eq] at hblank
        rcases hblank with ((rfl | rfl) | rfl) | rfl <;> exact absurd hc (by decide)
      · rintro rfl
        exact absurd hc (by decide)
    · exact ⟨'-', _, hchars, by decide, by decide⟩
  cases value with
  | null => exact ⟨_, _, rfl, by decide, by decide⟩
  | bool b => cases b <;> exact ⟨_, _, rfl, by decide, by decide⟩
  | int n =>
      rw [write, toList_toString]
      exact hnumeral _ (wellFormed_intNumeral n)
  | float printed =>
      rw [write, writeFloat]
      split_ifs with hnan hinf hneg
      · exact ⟨_, _, rfl, by decide, by decide⟩
      · exact ⟨_, _, rfl, by decide, by decide⟩
      · exact ⟨_, _, rfl, by decide, by decide⟩
      · rw [Writable] at hvalue
        obtain ⟨-, numeral, hwell, -, hchars⟩ :=
          hvalue.resolve_left hnan |>.resolve_left hinf |>.resolve_left hneg
        rw [hchars]
        exact hnumeral numeral hwell
  | str s => exact ⟨_, _, rfl, by decide, by decide⟩
  | arr items => cases items <;> exact ⟨_, _, rfl, by decide, by decide⟩
  | obj fields => cases fields <;> exact ⟨_, _, rfl, by decide, by decide⟩

/-- A field is read as it was written, when its value is. -/
theorem scanField_writeString (key : String)
    (hvalue : scanOnce readFloat fuel (write value ++ rest) = some (value, rest))
    (hwritable : Writable readFloat value) :
    scanField readFloat (fuel + 1) (writeString key ++ ':' :: (write value ++ rest)) =
      some ((key, value), rest) := by
  obtain ⟨more, hwrite, hscan⟩ := scanText_writeString key
  obtain ⟨c, tail, hhead, hblank, -⟩ := head_write hwritable
  have hseparator : scanSeparator ':' (':' :: (write value ++ rest)) =
      some (write value ++ rest) := by
    rw [hhead, List.cons_append, scanSeparator, skipBlanks_cons (by decide)]
    dsimp only
    rw [if_pos rfl, skipBlanks_cons hblank]
  rw [hwrite, List.cons_append, scanField, if_pos rfl, hscan, Option.bind_some]
  dsimp only
  rw [hseparator, Option.bind_some, hvalue]
  rfl

mutual

/-- A value is read as it was written, and no further. -/
theorem scanOnce_write : (value : Json) → Writable readFloat value → ∀ fuel rest,
    (write value).length < fuel → Stops rest →
      scanOnce readFloat fuel (write value ++ rest) = some (value, rest)
  | .null, _, fuel + 1, _, _, _ => rfl
  | .bool true, _, fuel + 1, _, _, _ => rfl
  | .bool false, _, fuel + 1, _, _, _ => rfl
  | .int n, _, fuel + 1, rest, _, hrest => by
      rw [write, toList_toString, (wellFormed_intNumeral n).scanOnce hrest, toInt_intNumeral]
      rfl
  | .float printed, hvalue, fuel + 1, rest, _, hrest => scanOnce_writeFloat hvalue hrest
  | .str s, _, fuel + 1, rest, _, _ => by
      obtain ⟨more, hwrite, hscan⟩ := scanText_writeString s
      rw [write, hwrite, List.cons_append, scanOnce, if_pos rfl, hscan]
      rfl
  | .arr [], _, fuel + 1, _, _, _ => rfl
  | .arr (item :: items), hvalue, fuel + 1, rest, hfuel, _ => by
      obtain ⟨hitem, hitems⟩ := hvalue
      rw [write, List.length_cons, List.length_append] at hfuel
      have hfirst := scanOnce_write item hitem fuel _ (by omega) (stops_writeItems items rest)
      have hrest := scanItems_writeItems items hitems fuel rest (by omega)
      obtain ⟨c, more, hwrite, hblank, hne⟩ := head_write hitem
      rw [hwrite, List.cons_append] at hfirst
      rw [write, hwrite, List.cons_append, List.append_assoc, List.cons_append, scanOnce,
        if_neg (by decide), if_pos rfl, skipBlanks_cons hblank]
      dsimp only
      rw [if_neg hne, hfirst, Option.bind_some]
      dsimp only
      rw [hrest]
      rfl
  | .obj [], _, fuel + 1, _, _, _ => rfl
  | .obj ((key, value) :: fields), hvalue, fuel + 1, rest, hfuel, _ => by
      obtain ⟨hkeys, hfirst, hfields⟩ := hvalue
      obtain ⟨more, hwrite, -⟩ := scanText_writeString key
      rw [write, hwrite, List.cons_append, List.length_cons, List.length_cons,
        List.length_append, List.length_cons, List.length_append] at hfuel
      obtain ⟨fuel, rfl⟩ : ∃ before, fuel = before + 1 := ⟨fuel - 1, by omega⟩
      have hread := scanOnce_write value hfirst fuel _ (by omega) (stops_writeFields fields rest)
      have hfield := scanField_writeString key hread hfirst
      have hrest := scanFields_writeFields fields hfields (fuel + 1) rest (by omega)
      rw [hwrite, List.cons_append] at hfield
      rw [write, hwrite, List.cons_append, List.append_assoc, List.cons_append, List.cons_append,
        List.append_assoc, scanOnce, if_neg (by decide), if_neg (by decide), if_pos rfl,
        skipBlanks_cons (by decide)]
      dsimp only
      rw [if_neg (by decide), hfield, Option.bind_some]
      dsimp only
      rw [hrest, Option.map_some, Dict.merge_nil_left hkeys]

theorem scanItems_writeItems : (items : List Json) → WritableItems readFloat items →
    ∀ fuel rest, (writeItems items).length < fuel →
      scanItems readFloat fuel (writeItems items ++ rest) = some (items, rest)
  | [], _, fuel + 1, _, _ => rfl
  | item :: items, hvalue, fuel + 1, rest, hfuel => by
      obtain ⟨hitem, hitems⟩ := hvalue
      rw [writeItems, List.length_cons, List.length_append] at hfuel
      have hfirst := scanOnce_write item hitem fuel _ (by omega) (stops_writeItems items rest)
      have hrest := scanItems_writeItems items hitems fuel rest (by omega)
      obtain ⟨c, more, hwrite, hblank, -⟩ := head_write hitem
      rw [hwrite, List.cons_append] at hfirst
      rw [writeItems, hwrite, List.cons_append, List.append_assoc, List.cons_append, scanItems,
        skipBlanks_cons (by decide)]
      dsimp only
      rw [if_neg (by decide), if_pos rfl, skipBlanks_cons hblank, hfirst, Option.bind_some]
      dsimp only
      rw [hrest]
      rfl

theorem scanFields_writeFields : (fields : List (String × Json)) →
    WritableFields readFloat fields → ∀ fuel rest, (writeFields fields).length < fuel →
      scanFields readFloat fuel (writeFields fields ++ rest) = some (fields, rest)
  | [], _, fuel + 1, _, _ => rfl
  | (key, value) :: fields, hvalue, fuel + 1, rest, hfuel => by
      obtain ⟨hfirst, hfields⟩ := hvalue
      obtain ⟨more, hwrite, -⟩ := scanText_writeString key
      rw [writeFields, hwrite, List.cons_append, List.length_cons, List.length_cons,
        List.length_append, List.length_cons, List.length_append] at hfuel
      obtain ⟨fuel, rfl⟩ : ∃ before, fuel = before + 1 := ⟨fuel - 1, by omega⟩
      have hread := scanOnce_write value hfirst fuel _ (by omega) (stops_writeFields fields rest)
      have hfield := scanField_writeString key hread hfirst
      have hrest := scanFields_writeFields fields hfields (fuel + 1) rest (by omega)
      rw [hwrite, List.cons_append] at hfield
      rw [writeFields, hwrite, List.cons_append, List.append_assoc, List.cons_append,
        List.cons_append, List.append_assoc, scanFields, skipBlanks_cons (by decide)]
      dsimp only
      rw [if_neg (by decide), if_pos rfl, skipBlanks_cons (by decide), hfield, Option.bind_some]
      dsimp only
      rw [hrest]
      rfl

end

/-- **The round trip.** What the host language holds is read from its text as it was. -/
theorem loads_dumps (hvalue : Writable readFloat value) :
    loads readFloat (dumps value) = some value := by
  obtain ⟨c, more, hwrite, hblank, -⟩ := head_write hvalue
  have hskip : skipBlanks (write value) = write value := by
    rw [hwrite]
    exact skipBlanks_cons hblank
  have hscan := scanOnce_write value hvalue _ [] (Nat.lt_succ_self _) (by simp [Stops])
  rw [List.append_nil] at hscan
  rw [loads, dumps, String.toList_ofList, hskip]
  dsimp only
  rw [hscan]
  rfl

theorem exists_writeFields (fields : List (String × Json)) :
    ∃ inner, writeFields fields = inner ++ ['\x7d'] := by
  induction fields with
  | nil => exact ⟨[], rfl⟩
  | cons field rest ih =>
      obtain ⟨inner, hinner⟩ := ih
      refine ⟨',' :: (writeString field.1 ++ ':' :: (write field.2 ++ inner)), ?_⟩
      rw [writeFields, hinner]
      simp

/-- A dictionary is written between braces. -/
theorem exists_write_obj (fields : List (String × Json)) :
    ∃ inner, write (.obj fields) = '\x7b' :: (inner ++ ['\x7d']) := by
  cases fields with
  | nil => exact ⟨[], rfl⟩
  | cons field rest =>
      obtain ⟨inner, hinner⟩ := exists_writeFields rest
      refine ⟨writeString field.1 ++ ':' :: (write field.2 ++ inner), ?_⟩
      rw [write, hinner]
      simp

theorem strip_dumps_obj (fields : List (String × Json)) :
    Text.strip (dumps (.obj fields)) = dumps (.obj fields) := by
  obtain ⟨inner, hwrite⟩ := exists_write_obj fields
  have hfirst : Text.isSpace '\x7b' = false := by decide
  have hlast : Text.isSpace '\x7d' = false := by decide
  rw [Text.strip, Text.stripChars, dumps, String.toList_ofList, hwrite,
    List.dropWhile_cons_of_neg (by simp [hfirst]), ← List.cons_append, List.reverse_append,
    List.reverse_singleton, List.singleton_append, List.dropWhile_cons_of_neg (by simp [hlast]),
    List.reverse_cons, List.reverse_reverse]

theorem dumps_obj_ne_empty (fields : List (String × Json)) : dumps (.obj fields) ≠ "" := by
  obtain ⟨inner, hwrite⟩ := exists_write_obj fields
  intro hempty
  have hlist := congrArg String.toList hempty
  rw [dumps, String.toList_ofList, hwrite] at hlist
  cases hlist

end RoundTrip

section Dictionaries

variable {readFloat : String → String} {fields patch : Dict} {key : String} {value : Json}

theorem writableFields_iff {fields : List (String × Json)} :
    WritableFields readFloat fields ↔ ∀ field ∈ fields, Writable readFloat field.2 := by
  induction fields with
  | nil => simp [WritableFields]
  | cons field rest ih => simp [WritableFields, ih]

theorem writable_obj_iff : Writable readFloat (.obj fields) ↔
    (fields.map Prod.fst).Nodup ∧ ∀ field ∈ fields, Writable readFloat field.2 := by
  rw [Writable, writableFields_iff]

theorem writable_get (hfields : Writable readFloat (.obj fields)) (key : String) :
    Writable readFloat (fields.get key) := by
  rw [Dict.get]
  cases hget : fields.get? key with
  | none => trivial
  | some value => exact (writable_obj_iff.mp hfields).2 _ (Dict.mem_of_get? hget)

theorem writable_merge (hfields : Writable readFloat (.obj fields))
    (hpatch : ∀ field ∈ patch, Writable readFloat field.2) :
    Writable readFloat (.obj (fields.merge patch)) := by
  obtain ⟨hkeys, hvalues⟩ := writable_obj_iff.mp hfields
  refine writable_obj_iff.mpr ⟨Dict.nodup_keys_merge hkeys, fun field hfield => ?_⟩
  rcases Dict.mem_of_mem_merge hfield with hold | hnew
  · exact hvalues field hold
  · exact hpatch field hnew

end Dictionaries

section Soundness

variable {text rest digits : List Char} {numeral : Numeral}

theorem digits_of_scanDigits (hne : (scanDigits text).1 ≠ []) : Digits (scanDigits text).1 :=
  ⟨hne, fun _ hc => List.mem_takeWhile_imp hc⟩

theorem scanSign_fst : (scanSign text).1 = [] ∨ (scanSign text).1 = ['-'] := by
  cases text with
  | nil => exact Or.inl rfl
  | cons c rest =>
      rw [scanSign]
      split_ifs
      · exact Or.inr rfl
      · exact Or.inl rfl

theorem scanInteger_fst (hscan : scanInteger text = some (digits, rest)) :
    digits = ['0'] ∨ Digits digits ∧ ∀ c ∈ digits.head?, c ≠ '0' := by
  cases text with
  | nil => cases hscan
  | cons c more =>
      rw [scanInteger] at hscan
      split_ifs at hscan with hzero hdigit
      · exact Or.inl (Prod.mk.inj (Option.some.inj hscan)).1.symm
      · have hfirst : (scanDigits (c :: more)).1 = c :: more.takeWhile Char.isDigit :=
          List.takeWhile_cons_of_pos hdigit
        obtain rfl : (scanDigits (c :: more)).1 = digits :=
          congrArg Prod.fst (Option.some.inj hscan)
        refine Or.inr ⟨digits_of_scanDigits (by simp [hfirst]), fun d hd => ?_⟩
        rw [hfirst] at hd
        obtain rfl : c = d := by simpa using hd
        exact hzero

theorem scanFraction_fst : (scanFraction text).1 = [] ∨
    ∃ digits, Digits digits ∧ (scanFraction text).1 = '.' :: digits := by
  cases text with
  | nil => exact Or.inl rfl
  | cons c rest =>
      rw [scanFraction]
      dsimp only
      split_ifs with hpoint
      · exact Or.inr ⟨_, digits_of_scanDigits hpoint.2, rfl⟩
      · exact Or.inl rfl

theorem scanExponentSign_fst : (scanExponentSign text).1 = [] ∨
    (scanExponentSign text).1 = ['+'] ∨ (scanExponentSign text).1 = ['-'] := by
  cases text with
  | nil => exact Or.inl rfl
  | cons c rest =>
      rw [scanExponentSign]
      split_ifs with hsign
      · rcases hsign with rfl | rfl
        · exact Or.inr (Or.inl rfl)
        · exact Or.inr (Or.inr rfl)
      · exact Or.inl rfl

theorem scanExponent_fst : (scanExponent text).1 = [] ∨ ∃ mark sign digits,
    (mark = 'e' ∨ mark = 'E') ∧ (sign = [] ∨ sign = ['+'] ∨ sign = ['-']) ∧ Digits digits ∧
      (scanExponent text).1 = mark :: (sign ++ digits) := by
  cases text with
  | nil => exact Or.inl rfl
  | cons c rest =>
      rw [scanExponent]
      dsimp only
      split_ifs with hmark
      · exact Or.inr ⟨c, _, _, hmark.1, scanExponentSign_fst, digits_of_scanDigits hmark.2, rfl⟩
      · exact Or.inl rfl

theorem wellFormed_of_scanNumeral (hscan : scanNumeral text = some (numeral, rest)) :
    numeral.WellFormed := by
  rw [scanNumeral] at hscan
  obtain ⟨⟨integer, more⟩, hinteger, hnumeral⟩ := Option.map_eq_some_iff.mp hscan
  obtain ⟨rfl, -⟩ := Prod.mk.inj hnumeral
  exact ⟨scanSign_fst, scanInteger_fst hinteger, scanFraction_fst, scanExponent_fst⟩

variable {readFloat : String → String} {value : Json} {fields : List (String × Json)} {fuel : ℕ}

theorem writable_of_scanName (hscan : scanName text = some (value, rest)) :
    Writable readFloat value := by
  obtain ⟨⟨name, named⟩, hmem, hname⟩ := List.exists_of_findSome?_eq_some hscan
  dsimp only at hname
  split_ifs at hname
  obtain ⟨rfl, -⟩ := Prod.mk.inj (Option.some.inj hname)
  simp only [names, List.mem_cons, Prod.mk.injEq, List.not_mem_nil, or_false] at hmem
  rcases hmem with ⟨-, rfl⟩ | ⟨-, rfl⟩ | ⟨-, rfl⟩ | ⟨-, rfl⟩ | ⟨-, rfl⟩ | ⟨-, rfl⟩ <;>
    simp [Writable, Printed]

theorem writable_of_scanNumber (hreads : Reads readFloat)
    (hscan : scanNumber readFloat text = some (value, rest)) : Writable readFloat value := by
  obtain ⟨⟨numeral, more⟩, hnumeral, hvalue⟩ := Option.map_eq_some_iff.mp hscan
  obtain ⟨rfl, -⟩ := Prod.mk.inj hvalue
  cases hinteger : numeral.isInteger with
  | true => simp [Writable]
  | false => exact hreads numeral (wellFormed_of_scanNumeral hnumeral) hinteger

/-- What is read with some fuel can be written. -/
structure Sound (readFloat : String → String) (fuel : ℕ) : Prop where
  once : ∀ {text value rest}, scanOnce readFloat fuel text = some (value, rest) →
    Writable readFloat value
  items : ∀ {text items rest}, scanItems readFloat fuel text = some (items, rest) →
    WritableItems readFloat items
  field : ∀ {text field rest}, scanField readFloat fuel text = some (field, rest) →
    Writable readFloat field.2
  fields : ∀ {text fields rest}, scanFields readFloat fuel text = some (fields, rest) →
    WritableFields readFloat fields

theorem Sound.scanOnce_succ (hreads : Reads readFloat) (hsound : Sound readFloat fuel)
    (hscan : scanOnce readFloat (fuel + 1) text = some (value, rest)) :
    Writable readFloat value := by
  cases text with
  | nil => cases hscan
  | cons c more =>
      rw [scanOnce] at hscan
      split_ifs at hscan with hquote hlist hdict
      · obtain ⟨read, -, hvalue⟩ := Option.map_eq_some_iff.mp hscan
        obtain ⟨rfl, -⟩ := Prod.mk.inj hvalue
        trivial
      · cases hskip : skipBlanks more with
        | nil =>
            rw [hskip] at hscan
            cases hscan
        | cons d tail =>
            rw [hskip] at hscan
            dsimp only at hscan
            split_ifs at hscan with hend
            · obtain ⟨rfl, -⟩ := Prod.mk.inj (Option.some.inj hscan)
              trivial
            · obtain ⟨first, hfirst, hscan⟩ := Option.bind_eq_some_iff.mp hscan
              obtain ⟨others, hothers, hvalue⟩ := Option.map_eq_some_iff.mp hscan
              obtain ⟨rfl, -⟩ := Prod.mk.inj hvalue
              exact ⟨hsound.once hfirst, hsound.items hothers⟩
      · cases hskip : skipBlanks more with
        | nil =>
            rw [hskip] at hscan
            cases hscan
        | cons d tail =>
            rw [hskip] at hscan
            dsimp only at hscan
            split_ifs at hscan with hend
            · obtain ⟨rfl, -⟩ := Prod.mk.inj (Option.some.inj hscan)
              exact ⟨List.nodup_nil, trivial⟩
            · obtain ⟨first, hfirst, hscan⟩ := Option.bind_eq_some_iff.mp hscan
              obtain ⟨others, hothers, hvalue⟩ := Option.map_eq_some_iff.mp hscan
              obtain ⟨rfl, -⟩ := Prod.mk.inj hvalue
              refine ⟨Dict.nodup_keys_merge List.nodup_nil, writableFields_iff.mpr ?_⟩
              intro field hfield
              rcases Dict.mem_of_mem_merge hfield with hnil | hmem
              · cases hnil
              · rcases List.mem_cons.mp hmem with rfl | hrest
                · exact hsound.field hfirst
                · exact writableFields_iff.mp (hsound.fields hothers) field hrest
      · rcases Option.or_eq_some_iff.mp hscan with hname | ⟨-, hnumber⟩
        · exact writable_of_scanName hname
        · exact writable_of_scanNumber hreads hnumber

theorem Sound.scanItems_succ (hsound : Sound readFloat fuel) {items : List Json}
    (hscan : scanItems readFloat (fuel + 1) text = some (items, rest)) :
    WritableItems readFloat items := by
  rw [scanItems] at hscan
  cases hskip : skipBlanks text with
  | nil =>
      rw [hskip] at hscan
      cases hscan
  | cons c more =>
      rw [hskip] at hscan
      dsimp only at hscan
      split_ifs at hscan with hend hcomma
      · obtain ⟨rfl, -⟩ := Prod.mk.inj (Option.some.inj hscan)
        trivial
      · obtain ⟨first, hfirst, hscan⟩ := Option.bind_eq_some_iff.mp hscan
        obtain ⟨others, hothers, hitems⟩ := Option.map_eq_some_iff.mp hscan
        obtain ⟨rfl, -⟩ := Prod.mk.inj hitems
        exact ⟨hsound.once hfirst, hsound.items hothers⟩

theorem Sound.scanField_succ (hsound : Sound readFloat fuel) {field : String × Json}
    (hscan : scanField readFloat (fuel + 1) text = some (field, rest)) :
    Writable readFloat field.2 := by
  cases text with
  | nil => cases hscan
  | cons c more =>
      rw [scanField] at hscan
      split_ifs at hscan with hquote
      obtain ⟨key, -, hscan⟩ := Option.bind_eq_some_iff.mp hscan
      obtain ⟨after, -, hscan⟩ := Option.bind_eq_some_iff.mp hscan
      obtain ⟨value, hvalue, hfield⟩ := Option.map_eq_some_iff.mp hscan
      obtain ⟨rfl, -⟩ := Prod.mk.inj hfield
      exact hsound.once hvalue

theorem Sound.scanFields_succ (hsound : Sound readFloat fuel)
    (hscan : scanFields readFloat (fuel + 1) text = some (fields, rest)) :
    WritableFields readFloat fields := by
  rw [scanFields] at hscan
  cases hskip : skipBlanks text with
  | nil =>
      rw [hskip] at hscan
      cases hscan
  | cons c more =>
      rw [hskip] at hscan
      dsimp only at hscan
      split_ifs at hscan with hend hcomma
      · obtain ⟨rfl, -⟩ := Prod.mk.inj (Option.some.inj hscan)
        trivial
      · obtain ⟨first, hfirst, hscan⟩ := Option.bind_eq_some_iff.mp hscan
        obtain ⟨others, hothers, hfields⟩ := Option.map_eq_some_iff.mp hscan
        obtain ⟨rfl, -⟩ := Prod.mk.inj hfields
        exact ⟨hsound.field hfirst, hsound.fields hothers⟩

theorem sound (hreads : Reads readFloat) (fuel : ℕ) : Sound readFloat fuel := by
  induction fuel with
  | zero => constructor <;> intro _ _ _ hscan <;> cases hscan
  | succ fuel ih =>
      exact ⟨ih.scanOnce_succ hreads, ih.scanItems_succ, ih.scanField_succ, ih.scanFields_succ⟩

/-- **What is accepted is well formed**: whatever is read from a text can be written. -/
theorem writable_of_loads (hreads : Reads readFloat) {text : String}
    (hloads : loads readFloat text = some value) : Writable readFloat value := by
  obtain ⟨⟨read, more⟩, hscan, hend⟩ := Option.bind_eq_some_iff.mp hloads
  dsimp only at hend
  split_ifs at hend
  obtain rfl := Option.some.inj hend
  exact (sound hreads _).once hscan

end Soundness

end JsonText

import Mathlib.Data.List.DropRight

/-! # Text primitives

The string operations of the host language, on the characters of a `String`.
`lower` and `upper` map ASCII, Latin-1, Cyrillic and fullwidth letters and
every other code point whose image is ASCII; letters of the remaining scripts
keep their case.
-/

namespace Text

/-- The characters that `strip` and the numeral readers treat as blank. -/
def isSpace (c : Char) : Bool :=
  let n := c.toNat
  (9 ≤ n && n ≤ 13) || (28 ≤ n && n ≤ 32) || n == 0x85 || n == 0xA0 || n == 0x1680 ||
    (0x2000 ≤ n && n ≤ 0x200A) || n == 0x2028 || n == 0x2029 || n == 0x202F ||
    n == 0x205F || n == 0x3000

/-- Drop blanks at both ends. -/
def stripChars (cs : List Char) : List Char :=
  ((cs.dropWhile isSpace).reverse.dropWhile isSpace).reverse

def strip (s : String) : String := String.ofList (stripChars s.toList)

def lowerChar (c : Char) : List Char :=
  let n := c.toNat
  if (0x41 ≤ n && n ≤ 0x5A) || (0xC0 ≤ n && n ≤ 0xDE && n != 0xD7) ||
      (0x410 ≤ n && n ≤ 0x42F) || (0xFF21 ≤ n && n ≤ 0xFF3A) then [Char.ofNat (n + 32)]
  else if 0x400 ≤ n && n ≤ 0x40F then [Char.ofNat (n + 80)]
  else if n == 0x212A then ['k']
  else if n == 0x130 then ['i', Char.ofNat 0x307]
  else [c]

def upperChar (c : Char) : List Char :=
  let n := c.toNat
  if (0x61 ≤ n && n ≤ 0x7A) || (0xE0 ≤ n && n ≤ 0xFE && n != 0xF7) ||
      (0x430 ≤ n && n ≤ 0x44F) || (0xFF41 ≤ n && n ≤ 0xFF5A) then [Char.ofNat (n - 32)]
  else if 0x450 ≤ n && n ≤ 0x45F then [Char.ofNat (n - 80)]
  else if n == 0xDF then ['S', 'S']
  else if n == 0xFF then [Char.ofNat 0x178]
  else if n == 0xB5 then [Char.ofNat 0x39C]
  else if n == 0x131 then ['I']
  else if n == 0x17F then ['S']
  else if n == 0xFB00 then ['F', 'F']
  else if n == 0xFB01 then ['F', 'I']
  else if n == 0xFB02 then ['F', 'L']
  else if n == 0xFB03 then ['F', 'F', 'I']
  else if n == 0xFB04 then ['F', 'F', 'L']
  else if n == 0xFB05 || n == 0xFB06 then ['S', 'T']
  else [c]

def lower (s : String) : String := String.ofList (s.toList.flatMap lowerChar)

def upper (s : String) : String := String.ofList (s.toList.flatMap upperChar)

/-- The pieces between the occurrences of a separator. -/
def split (sep : Char) (s : String) : List String :=
  (s.toList.splitOn sep).map String.ofList

/-- The pieces before and after the first occurrence of a separator. -/
def partition (sep : Char) (s : String) : Option (String × String) :=
  if sep ∈ s.toList then
    some (String.ofList (s.toList.takeWhile (· != sep)),
      String.ofList ((s.toList.dropWhile (· != sep)).drop 1))
  else none

def join (sep : String) (pieces : List String) : String := sep.intercalate pieces

def startsWith (pre s : String) : Bool := pre.toList.isPrefixOf s.toList

/-- The code points of the digit zero in the scripts whose digits numerals may use. -/
def zeroDigits : List Nat :=
  [0x30, 0x660, 0x6F0, 0x7C0, 0x966, 0x9E6, 0xA66, 0xAE6, 0xB66, 0xBE6, 0xC66, 0xCE6, 0xD66,
    0xDE6, 0xE50, 0xED0, 0xF20, 0x1040, 0x1090, 0x17E0, 0x1810, 0x1946, 0x19D0, 0x1A80, 0x1A90,
    0x1B50, 0x1BB0, 0x1C40, 0x1C50, 0xA620, 0xA8D0, 0xA900, 0xA9D0, 0xA9F0, 0xAA50, 0xABF0,
    0xFF10, 0x104A0, 0x10D30, 0x11066, 0x110F0, 0x11136, 0x111D0, 0x112F0, 0x11450, 0x114D0,
    0x11650, 0x116C0, 0x11730, 0x118E0, 0x11950, 0x11C50, 0x11D50, 0x11DA0, 0x16A60, 0x16AC0,
    0x16B50, 0x1D7CE, 0x1D7D8, 0x1D7E2, 0x1D7EC, 0x1D7F6, 0x1E140, 0x1E2F0, 0x1E950, 0x1FBF0]

def digitValue (c : Char) : Option Nat :=
  (zeroDigits.find? fun base => base ≤ c.toNat && c.toNat < base + 10).map (c.toNat - ·)

/-- The number a run of digits denotes; no digits denote nothing. -/
def digitsValue (cs : List Char) : Option Nat :=
  if cs.isEmpty then none
  else cs.foldl (fun acc c => acc.bind fun n => (digitValue c).map (10 * n + ·)) (some 0)

/-- A sign and what follows it. -/
def signed (cs : List Char) : Bool × List Char :=
  match cs with
  | '-' :: rest => (true, rest)
  | '+' :: rest => (false, rest)
  | _ => (false, cs)

/-- The longest run of digits an integer is read from. -/
def maxIntDigits : Nat := 4300

/-- Digits with single underscores allowed between them. -/
def groupedDigits (cs : List Char) : Option Nat :=
  let digits := cs.filter (· != '_')
  if (cs.splitOn '_').any List.isEmpty || maxIntDigits < digits.length then none
  else digitsValue digits

/-- The integer a numeral denotes, blanks at its ends ignored. -/
def toInt? (s : String) : Option Int :=
  let (negative, digits) := signed (stripChars s.toList)
  (groupedDigits digits).map fun n => if negative then -(n : Int) else n

theorem stripChars_stripChars (cs : List Char) : stripChars (stripChars cs) = stripChars cs := by
  have hfront : ∀ ds : List Char, stripChars ds = (ds.dropWhile isSpace).rdropWhile isSpace := by
    intro ds
    rfl
  have hdrop : (stripChars cs).dropWhile isSpace = stripChars cs := by
    rw [hfront cs]
    rcases hd : (cs.dropWhile isSpace).rdropWhile isSpace with _ | ⟨c, rest⟩
    · rfl
    · have hprefix := List.rdropWhile_prefix isSpace (cs.dropWhile isSpace)
      rw [hd] at hprefix
      obtain ⟨suffix, hsuffix⟩ := hprefix
      have hhead : ¬ isSpace c = true := by
        have hne : cs.dropWhile isSpace ≠ [] := by
          rw [← hsuffix]
          simp
        have hnot := List.head_dropWhile_not isSpace hne
        have heq : (cs.dropWhile isSpace).head hne = c := by
          simp [← hsuffix]
        rw [heq] at hnot
        simp [hnot]
      simp [hhead]
  rw [hfront (stripChars cs), hdrop, hfront cs, List.rdropWhile_idempotent]

@[simp] theorem strip_strip (s : String) : strip (strip s) = strip s := by
  simp [strip, stripChars_stripChars]

/-- A text without blanks keeps all its characters. -/
theorem strip_of_noSpace {s : String} (hnone : ∀ c ∈ s.toList, isSpace c = false) :
    strip s = s := by
  have hdrop : ∀ cs : List Char, (∀ c ∈ cs, isSpace c = false) → cs.dropWhile isSpace = cs := by
    intro cs hcs
    cases cs with
    | nil => rfl
    | cons c rest => simp [hcs c List.mem_cons_self]
  have hreverse : ∀ c ∈ s.toList.reverse, isSpace c = false := by
    simpa using hnone
  simp [strip, stripChars, hdrop _ hnone, hdrop _ hreverse]

/-- A text without blanks at its ends does not end with one. -/
theorem getLast?_ne_of_strip {s : String} (hstrip : strip s = s) {c : Char}
    (hc : isSpace c = true) : s.toList.getLast? ≠ some c := by
  intro hlast
  have hchars : s.toList = (s.toList.dropWhile isSpace).rdropWhile isSpace := by
    conv_lhs => rw [← hstrip, strip, String.toList_ofList]
    rfl
  have hne : (s.toList.dropWhile isSpace).rdropWhile isSpace ≠ [] := by
    rw [← hchars]
    exact List.ne_nil_of_mem (List.mem_of_getLast? hlast)
  have hnot := List.rdropWhile_last_not isSpace _ hne
  rw [hchars, List.getLast?_eq_some_getLast hne] at hlast
  rw [Option.some.inj hlast] at hnot
  exact hnot hc

end Text

import Mathlib.Algebra.Order.Floor.Ring
import Mathlib.Data.List.Nodup
import Mathlib.Data.Rat.Floor

/-! # Column types and tables

What a column of a fixed-point or of a bounded text type keeps of a value, and
which values it refuses, and tables whose rows have a primary key. A value of a
column type is within its bounds, and the keys of a table differ, by
construction.
-/

namespace Tables

/-- The nearest integer, ties away from zero. -/
def roundHalfAway (q : ℚ) : ℤ := if 0 ≤ q then ⌊q + 1 / 2⌋ else -⌊-q + 1 / 2⌋

@[simp] theorem roundHalfAway_intCast (n : ℤ) : roundHalfAway n = n := by
  have hfloor : ∀ m : ℤ, ⌊(m : ℚ) + 1 / 2⌋ = m := by
    intro m
    rw [Int.floor_eq_iff]
    constructor <;> linarith
  unfold roundHalfAway
  split_ifs
  · exact hfloor n
  · rw [← Int.cast_neg, hfloor, neg_neg]

/-- Rounding does not go beyond an integer. -/
theorem roundHalfAway_le {q : ℚ} {n : ℤ} (hle : q ≤ n) : roundHalfAway q ≤ n := by
  unfold roundHalfAway
  split_ifs
  · rw [← Int.lt_add_one_iff, Int.floor_lt]
    push_cast
    linarith
  · rw [neg_le, Int.le_floor]
    push_cast
    linarith

/-- Numbers of at most so many digits, so many of them after the point. -/
structure Numeric (precision scale : ℕ) where
  /-- How many units of the last digit. -/
  units : ℤ
  natAbs_lt : units.natAbs < 10 ^ precision
deriving DecidableEq

namespace Numeric

variable {precision scale : ℕ}

def value (n : Numeric precision scale) : ℚ := n.units / 10 ^ scale

/-- What a column keeps of a number; a number with too many digits is refused. -/
def ofRat? (q : ℚ) : Option (Numeric precision scale) :=
  if h : (roundHalfAway (q * 10 ^ scale)).natAbs < 10 ^ precision then some ⟨_, h⟩ else none

theorem units_of_ofRat? {q : ℚ} {n : Numeric precision scale} (hn : ofRat? q = some n) :
    n.units = roundHalfAway (q * 10 ^ scale) := by
  unfold ofRat? at hn
  split_ifs at hn
  rw [← Option.some.inj hn]

/-- What is kept of a number is not above a number of the column that it is not above. -/
theorem units_le_of_ofRat? {q : ℚ} {n : Numeric precision scale} {bound : ℤ}
    (hn : ofRat? q = some n) (hle : q * 10 ^ scale ≤ bound) : n.units ≤ bound := by
  rw [units_of_ofRat? hn]
  exact roundHalfAway_le hle

theorem sum_value (numbers : List (Numeric precision scale)) :
    (numbers.map value).sum = (numbers.map units).sum / 10 ^ scale := by
  induction numbers with
  | nil => simp
  | cons number rest ih =>
      simp only [List.map_cons, List.sum_cons, ih, value]
      push_cast
      ring

end Numeric

/-- Texts of at most so many characters, none of them the null character. -/
structure Varchar (limit : ℕ) where
  text : String
  length_le : text.toList.length ≤ limit
  noNull : '\x00' ∉ text.toList

namespace Varchar

variable {limit : ℕ}

/-- What a column keeps of a text; blanks beyond the limit are cut off, and any other
text beyond it is refused. -/
def ofText? (limit : ℕ) (text : String) : Option (Varchar limit) :=
  let kept := text.toList.take limit
  if h : (text.toList.drop limit).all (· = ' ') ∧ '\x00' ∉ text.toList then
    some
      { text := String.ofList kept
        length_le := by simp [kept]
        noNull := by
          rw [String.toList_ofList]
          exact fun hmem => h.2 (List.mem_of_mem_take hmem) }
  else none

/-- A text that does not end with a blank is kept as it is. -/
theorem text_of_ofText? {text : String} {kept : Varchar limit}
    (hlast : text.toList.getLast? ≠ some ' ') (hkept : ofText? limit text = some kept) :
    kept.text = text := by
  unfold ofText? at hkept
  dsimp only at hkept
  split_ifs at hkept with hfits
  rw [← Option.some.inj hkept]
  have hnil : text.toList.drop limit = [] := by
    by_contra hne
    have hlonger : ¬ text.toList.length ≤ limit := fun hle => hne (List.drop_eq_nil_of_le hle)
    have hsame := List.getLast?_drop (l := text.toList) (i := limit)
    rw [if_neg hlonger, List.getLast?_eq_some_getLast hne] at hsame
    have hblank := List.all_eq_true.mp hfits.1 _ (List.getLast_mem hne)
    rw [of_decide_eq_true hblank] at hsame
    exact hlast hsame.symm
  rw [← String.toList_inj, String.toList_ofList]
  rw [List.take_of_length_le (List.drop_eq_nil_iff.mp hnil)]

end Varchar

section Keys

/-- Rows with a primary key, in the order they were inserted. -/
structure Table (Row : Type) (key : Row → String) where
  rows : List Row
  nodup : (rows.map key).Nodup

namespace Table

variable {Row : Type} {key : Row → String}

def empty : Table Row key := ⟨[], List.nodup_nil⟩

def find? (t : Table Row key) (id : String) : Option Row := t.rows.find? fun row => key row = id

def has (t : Table Row key) (id : String) : Bool := id ∈ t.rows.map key

/-- Add a row; a key that is there already is refused. -/
def insert? (t : Table Row key) (row : Row) : Option (Table Row key) :=
  if h : key row ∉ t.rows.map key then
    some ⟨t.rows ++ [row], by
      rw [List.map_append, List.map_singleton, ← List.concat_eq_append]
      exact List.Nodup.concat h t.nodup⟩
  else none

/-- Change rows, but not their keys. -/
def update (t : Table Row key) (f : Row → Row) (hf : ∀ row, key (f row) = key row) :
    Table Row key :=
  ⟨t.rows.map f, by
    rw [List.map_map, show key ∘ f = key from funext hf]
    exact t.nodup⟩

variable {t inserted : Table Row key} {row : Row} {id : String} {f : Row → Row}

theorem rows_of_insert? (hinsert : t.insert? row = some inserted) :
    inserted.rows = t.rows ++ [row] := by
  unfold insert? at hinsert
  split_ifs at hinsert
  rw [← Option.some.inj hinsert]

@[simp] theorem rows_update (hf : ∀ row, key (f row) = key row) :
    (t.update f hf).rows = t.rows.map f := rfl

theorem mem_of_find? (hfind : t.find? id = some row) : row ∈ t.rows ∧ key row = id :=
  ⟨List.mem_of_find?_eq_some hfind, by simpa using List.find?_some hfind⟩

/-- The row with a key is the only one. -/
theorem find?_eq_some_iff : t.find? id = some row ↔ row ∈ t.rows ∧ key row = id := by
  refine ⟨mem_of_find?, ?_⟩
  rintro ⟨hmem, rfl⟩
  cases hfind : t.find? (key row) with
  | none =>
      have hnone := List.find?_eq_none.mp hfind row hmem
      simp at hnone
  | some other =>
      obtain ⟨hother, hkey⟩ := mem_of_find? hfind
      rw [List.inj_on_of_nodup_map t.nodup hother hmem hkey]

theorem find?_update (hf : ∀ row, key (f row) = key row) :
    (t.update f hf).find? id = (t.find? id).map f := by
  unfold find?
  rw [rows_update, List.find?_map]
  congr 1
  refine congrFun (congrArg List.find? (funext fun row => ?_)) t.rows
  simp [hf]

end Table

end Keys

end Tables

import TradingPlatform.Foundation.Decimal
import TradingPlatform.Foundation.Json

/-! # Decoded values as values

The host language compares decoded values by what they hold: numbers by their
size, dictionaries without regard to the order of their keys, and a flag like
the number it stands for. JSON itself tells flags and numbers apart. A document
is read along a path of keys, where a missing key reads as null.
-/

namespace Json

section Numbers

/-- The nearest number with 53 binary digits, ties to the even one. -/
def roundBinary (q : ℚ) : ℚ :=
  if q = 0 then 0
  else
    let ulp : ℚ := (2 : ℚ) ^ max (Int.log 2 |q| + 1 - 53) (-1074)
    roundHalfEven (q / ulp) * ulp

inductive Number where
  | finite (q : ℚ)
  | infinite (negative : Bool)
deriving DecidableEq

/-- The number of a printed float. Nothing stands for a NaN, which equals no number. -/
def floatNumber (printed : String) : Option Number :=
  if printed = "inf" then some (.infinite false)
  else if printed = "-inf" then some (.infinite true)
  else (Decimal.valueOfText? printed).map fun q => .finite (roundBinary q)

/-- The number of a value, where flags may count as numbers. -/
def number? (flagsCount : Bool) : Json → Option Number
  | .bool b => if flagsCount then some (.finite (if b then 1 else 0)) else none
  | .int n => some (.finite n)
  | .float printed => floatNumber printed
  | _ => none

end Numbers

section Equality

variable (flagsCount : Bool)

def equalScalars : Json → Json → Bool
  | .null, .null => true
  | .str s, .str t => s == t
  | .bool b, .bool c => b == c
  | a, b =>
      match a.number? flagsCount, b.number? flagsCount with
      | some x, some y => x == y
      | _, _ => false

mutual

/-- Equality of values, lists item by item and dictionaries key by key. -/
def equalBy : Json → Json → Bool
  | .arr xs, .arr ys => equalItems xs ys
  | .obj fields, .obj others => fields.length == others.length && equalFields others fields
  | a, b => equalScalars flagsCount a b

def equalItems : List Json → List Json → Bool
  | [], [] => true
  | x :: xs, y :: ys => equalBy x y && equalItems xs ys
  | _, _ => false

def equalFields (others : Dict) : Dict → Bool
  | [] => true
  | (key, value) :: rest =>
      (match Dict.get? others key with
        | some other => equalBy value other
        | none => false) && equalFields others rest

end

/-- Equality as the host language has it. -/
def equals (a b : Json) : Bool := equalBy true a b

/-- Equality of JSON documents. -/
def equalsJson (a b : Json) : Bool := equalBy false a b

end Equality

section Objects

variable {a b : Json} {fields : Dict}

def isObject : Json → Bool
  | .obj _ => true
  | _ => false

theorem isObject_iff : a.isObject = true ↔ ∃ fields, a = .obj fields := by
  cases a <;> simp [isObject]

/-- What holds of a dictionary when it holds of its values, holds of every document. -/
theorem objectInduction {motive : Json → Prop}
    (value : ∀ a : Json, a.isObject = false → motive a)
    (obj : ∀ fields : Dict, (∀ entry ∈ fields, motive entry.2) → motive (.obj fields)) :
    ∀ a : Json, motive a
  | .obj fields => obj fields fun entry _ => objectInduction value obj entry.2
  | .null => value _ rfl
  | .bool _ => value _ rfl
  | .int _ => value _ rfl
  | .float _ => value _ rfl
  | .str _ => value _ rfl
  | .arr _ => value _ rfl
termination_by a => sizeOf a
decreasing_by
  have hentry := List.sizeOf_lt_of_mem ‹entry ∈ fields›
  obtain ⟨key, value⟩ := entry
  simp only [Prod.mk.sizeOf_spec, Json.obj.sizeOf_spec] at hentry ⊢
  omega

/-- A dictionary equals dictionaries only. -/
theorem isObject_eq_of_equals (hequal : a.equals b = true) : a.isObject = b.isObject := by
  cases a <;> cases b <;>
    first
    | rfl
    | simp [equals, equalBy, equalScalars, number?] at hequal

@[simp] theorem equals_null : Json.null.equals .null = true := by
  simp [equals, equalBy, equalScalars]

/-- The value at the end of a path of keys. -/
def valueAt : Json → List String → Json
  | value, [] => value
  | .obj fields, key :: keys => valueAt (Dict.get fields key) keys
  | _, _ :: _ => .null

@[simp] theorem valueAt_nil (value : Json) : value.valueAt [] = value := by
  cases value <;> rfl

@[simp] theorem valueAt_obj_cons (fields : Dict) (key : String) (keys : List String) :
    (Json.obj fields).valueAt (key :: keys) = (Dict.get fields key).valueAt keys := rfl

/-- Nothing is below a value that is not a dictionary. -/
theorem valueAt_cons_of_not_isObject (hnot : a.isObject = false) (key : String)
    (keys : List String) : a.valueAt (key :: keys) = .null := by
  cases a <;> first | rfl | cases hnot

/-- A path has a leaf when it ends at a value with nothing below it. -/
def leafAt? : Json → List String → Option Json
  | .obj [], [] => some (.obj [])
  | .obj (_ :: _), [] => none
  | value, [] => some value
  | .obj fields, key :: keys => (Dict.get? fields key).bind fun value => leafAt? value keys
  | _, _ :: _ => none

mutual

/-- Every dictionary of a document has each key once. -/
def DistinctKeys : Json → Prop
  | .arr items => DistinctItems items
  | .obj fields => (fields.map Prod.fst).Nodup ∧ DistinctFields fields
  | _ => True

def DistinctItems : List Json → Prop
  | [] => True
  | item :: rest => DistinctKeys item ∧ DistinctItems rest

def DistinctFields : Dict → Prop
  | [] => True
  | (_, value) :: rest => DistinctKeys value ∧ DistinctFields rest

end

theorem distinctFields_iff :
    DistinctFields fields ↔ ∀ entry ∈ fields, DistinctKeys entry.2 := by
  induction fields with
  | nil => simp [DistinctFields]
  | cons entry rest ih =>
      obtain ⟨key, value⟩ := entry
      simp [DistinctFields, ih]

theorem distinctKeys_obj_iff : DistinctKeys (.obj fields) ↔
    (fields.map Prod.fst).Nodup ∧ ∀ entry ∈ fields, DistinctKeys entry.2 := by
  rw [DistinctKeys, distinctFields_iff]

end Objects

end Json

namespace Dict

variable {fields : Dict} {key : String} {value : Json}

/-- With distinct keys an entry is what its key reads as. -/
theorem get?_of_mem (hkeys : (fields.map Prod.fst).Nodup) (hmem : (key, value) ∈ fields) :
    fields.get? key = some value := by
  induction fields with
  | nil => cases hmem
  | cons entry rest ih =>
      obtain ⟨key', value'⟩ := entry
      rw [List.map_cons, List.nodup_cons] at hkeys
      rw [get?_cons]
      rcases List.mem_cons.mp hmem with hfirst | hrest
      · obtain ⟨rfl, rfl⟩ := Prod.mk.inj hfirst
        rw [if_pos rfl]
      · have hne : key ≠ key' := by
          rintro rfl
          exact hkeys.1 (List.mem_map.mpr ⟨_, hrest, rfl⟩)
        rw [if_neg hne]
        exact ih hkeys.2 hrest

theorem mem_of_get? (hget : fields.get? key = some value) : (key, value) ∈ fields := by
  induction fields with
  | nil => cases hget
  | cons entry rest ih =>
      obtain ⟨key', value'⟩ := entry
      rw [get?_cons] at hget
      split_ifs at hget with heq
      · rw [heq, ← Option.some.inj hget]
        exact List.mem_cons_self
      · exact List.mem_cons_of_mem _ (ih hget)

theorem keys_set (fields : Dict) (key : String) (value : Json) :
    (fields.set key value).map Prod.fst =
      if key ∈ fields.map Prod.fst then fields.map Prod.fst else fields.map Prod.fst ++ [key] := by
  induction fields with
  | nil => rfl
  | cons entry rest ih =>
      obtain ⟨key', value'⟩ := entry
      by_cases hkey : key' = key
      · subst hkey
        simp [set]
      · simp only [set, if_neg hkey, List.map_cons, ih, List.mem_cons, Ne.symm hkey, false_or]
        split_ifs <;> rfl

theorem set_of_notMem (hkey : key ∉ fields.map Prod.fst) :
    fields.set key value = fields ++ [(key, value)] := by
  induction fields with
  | nil => rfl
  | cons entry rest ih =>
      obtain ⟨key', value'⟩ := entry
      simp only [List.map_cons, List.mem_cons, not_or] at hkey
      rw [set, if_neg (Ne.symm hkey.1), ih hkey.2, List.cons_append]

/-- A dictionary that is given field by field keeps them in order when no key is repeated. -/
theorem merge_eq_append {patch : Dict} (hkeys : ((fields ++ patch).map Prod.fst).Nodup) :
    fields.merge patch = fields ++ patch := by
  induction patch generalizing fields with
  | nil => rw [merge_nil, List.append_nil]
  | cons entry rest ih =>
      obtain ⟨key, value⟩ := entry
      have hfree : key ∉ fields.map Prod.fst := by
        intro hmem
        rw [List.map_append, List.nodup_append] at hkeys
        exact hkeys.2.2 key hmem key List.mem_cons_self rfl
      have happend : fields ++ (key, value) :: rest = fields ++ [(key, value)] ++ rest := by simp
      rw [merge_cons, set_of_notMem hfree, happend]
      rw [happend] at hkeys
      exact ih hkeys

theorem merge_nil_left (hkeys : (fields.map Prod.fst).Nodup) : merge [] fields = fields :=
  merge_eq_append hkeys

/-- However it is given, a dictionary has each key once. -/
theorem nodup_keys_merge {patch : Dict} (hkeys : (fields.map Prod.fst).Nodup) :
    ((fields.merge patch).map Prod.fst).Nodup := by
  induction patch generalizing fields with
  | nil => exact hkeys
  | cons entry rest ih =>
      apply ih
      rw [keys_set]
      split_ifs with hmem
      · exact hkeys
      · rw [List.nodup_append]
        refine ⟨hkeys, List.nodup_cons.mpr ⟨List.not_mem_nil, List.nodup_nil⟩, ?_⟩
        rintro other hother _ hlast rfl
        exact hmem (List.mem_singleton.mp hlast ▸ hother)

theorem mem_of_mem_set {entry : String × Json} (hmem : entry ∈ fields.set key value) :
    entry ∈ fields ∨ entry = (key, value) := by
  induction fields with
  | nil => exact Or.inr (List.mem_singleton.mp hmem)
  | cons first rest ih =>
      obtain ⟨key', value'⟩ := first
      rw [set] at hmem
      split_ifs at hmem with hkey
      · rcases List.mem_cons.mp hmem with hfirst | hrest
        · exact Or.inr hfirst
        · exact Or.inl (List.mem_cons_of_mem _ hrest)
      · rcases List.mem_cons.mp hmem with hfirst | hrest
        · exact Or.inl (hfirst ▸ List.mem_cons_self)
        · exact (ih hrest).imp_left (List.mem_cons_of_mem _)

theorem mem_of_mem_merge {entry : String × Json} {patch : Dict}
    (hmem : entry ∈ fields.merge patch) : entry ∈ fields ∨ entry ∈ patch := by
  induction patch generalizing fields with
  | nil => exact Or.inl hmem
  | cons first rest ih =>
      rcases ih hmem with hset | hrest
      · rcases mem_of_mem_set hset with hold | hnew
        · exact Or.inl hold
        · exact Or.inr (hnew ▸ List.mem_cons_self)
      · exact Or.inr (List.mem_cons_of_mem _ hrest)

end Dict

import TradingPlatform.Foundation.Text

/-! # JSON values and string-keyed dictionaries

A decoded JSON document as the host language sees it. A float is carried by
its printed form, which is all the readers of a float inspect. A dictionary is
an association list read at the first occurrence of a key.
-/

inductive Json where
  | null
  | bool (b : Bool)
  | int (n : Int)
  | float (printed : String)
  | str (s : String)
  | arr (items : List Json)
  | obj (fields : List (String × Json))
deriving Repr

/-- A string-keyed dictionary of JSON values. -/
abbrev Dict := List (String × Json)

namespace Json

/-- Quote a string the way a container prints it. -/
def quote (s : String) : String :=
  let mark := if '\'' ∈ s.toList && !('"' ∈ s.toList) then '"' else '\''
  let escape (c : Char) : List Char :=
    if c == mark || c == '\\' then ['\\', c]
    else if c == '\n' then ['\\', 'n']
    else if c == '\r' then ['\\', 'r']
    else if c == '\t' then ['\\', 't']
    else if c.toNat < 32 || c.toNat == 127 then
      ['\\', 'x', Nat.digitChar (c.toNat / 16), Nat.digitChar (c.toNat % 16)]
    else [c]
  String.ofList (mark :: s.toList.flatMap escape ++ [mark])

mutual

/-- The printed form of a value inside a container. -/
def print : Json → String
  | .null => "None"
  | .bool b => if b then "True" else "False"
  | .int n => toString n
  | .float printed => printed
  | .str s => quote s
  | .arr items => "[" ++ Text.join ", " (printItems items) ++ "]"
  | .obj fields => "\x7b" ++ Text.join ", " (printFields fields) ++ "\x7d"

def printItems : List Json → List String
  | [] => []
  | item :: rest => print item :: printItems rest

def printFields : List (String × Json) → List String
  | [] => []
  | (key, value) :: rest => (quote key ++ ": " ++ print value) :: printFields rest

end

/-- Conversion to text: a string is itself, every other value is printed. -/
def toText : Json → String
  | .str s => s
  | value => print value

/-- Truth value: null, false, zero and the empty containers are false. -/
def truthy : Json → Bool
  | .null => false
  | .bool b => b
  | .int n => n != 0
  | .float printed => printed != "0.0" && printed != "-0.0"
  | .str s => s != ""
  | .arr items => !items.isEmpty
  | .obj fields => !fields.isEmpty

/-- The first value when it is true, else the second. -/
def orElse (first second : Json) : Json := if first.truthy then first else second

/-- Text of a value, the empty text for a false one. -/
def textOrEmpty (value : Json) : String := if value.truthy then value.toText else ""

@[simp] theorem toText_str (s : String) : (Json.str s).toText = s := rfl

@[simp] theorem textOrEmpty_null : Json.null.textOrEmpty = "" := rfl

@[simp] theorem textOrEmpty_str (s : String) : (Json.str s).textOrEmpty = s := by
  by_cases hempty : s = "" <;> simp [textOrEmpty, truthy, hempty]

end Json

namespace Dict

def get? (d : Dict) (key : String) : Option Json := d.lookup key

/-- Reading a missing key gives null. -/
def get (d : Dict) (key : String) : Json := (d.get? key).getD .null

def has (d : Dict) (key : String) : Bool := (d.get? key).isSome

/-- Overwrite a key in place, or add it at the end. -/
def set : Dict → String → Json → Dict
  | [], key, value => [(key, value)]
  | (key', value') :: rest, key, value =>
      if key' = key then (key, value) :: rest else (key', value') :: set rest key value

def erase (d : Dict) (key : String) : Dict := d.filter fun entry => entry.1 != key

/-- Overwrite with every entry of a second dictionary, in its order. -/
def merge (base patch : Dict) : Dict :=
  patch.foldl (fun d entry => d.set entry.1 entry.2) base

@[simp] theorem get?_nil (key : String) : get? [] key = none := rfl

theorem get?_cons (key' : String) (value' : Json) (rest : Dict) (key : String) :
    get? ((key', value') :: rest) key = if key = key' then some value' else get? rest key := by
  by_cases heq : key = key'
  · simp [get?, heq]
  · have hbeq : (key == key') = false := beq_eq_false_iff_ne.mpr heq
    simp [get?, List.lookup_cons, hbeq, heq]

theorem get?_set (d : Dict) (key other : String) (value : Json) :
    (d.set key value).get? other = if other = key then some value else d.get? other := by
  induction d with
  | nil => simp [set, get?_cons]
  | cons entry rest ih =>
      obtain ⟨key', value'⟩ := entry
      by_cases hkey : key' = key
      · subst key'
        by_cases heq : other = key <;> simp [set, get?_cons, heq]
      · by_cases heq : other = key'
        · subst key'
          simp [set, get?_cons, hkey]
        · simp [set, get?_cons, hkey, heq, ih]

@[simp] theorem get_set_self (d : Dict) (key : String) (value : Json) :
    (d.set key value).get key = value := by
  simp [get, get?_set]

theorem get_set_of_ne (d : Dict) {key other : String} (value : Json) (hne : other ≠ key) :
    (d.set key value).get other = d.get other := by
  simp [get, get?_set, hne]

theorem merge_nil (d : Dict) : d.merge [] = d := rfl

theorem merge_cons (d : Dict) (key : String) (value : Json) (rest : Dict) :
    d.merge ((key, value) :: rest) = (d.set key value).merge rest := rfl

/-- A key the patch does not name keeps its value. -/
theorem get?_merge_of_notMem (d patch : Dict) {key : String}
    (hnot : key ∉ patch.map Prod.fst) : (d.merge patch).get? key = d.get? key := by
  induction patch generalizing d with
  | nil => rfl
  | cons entry rest ih =>
      simp only [List.map_cons, List.mem_cons, not_or] at hnot
      rw [merge, List.foldl_cons, ← merge, ih _ hnot.2, get?_set, if_neg hnot.1]

/-- What a patch does not say is said by the base. -/
theorem get?_merge (d patch : Dict) (key : String) :
    (d.merge patch).get? key = ((merge [] patch).get? key).or (d.get? key) := by
  induction patch using List.reverseRecOn with
  | nil => simp [merge_nil]
  | append_singleton rest entry ih =>
      simp only [merge, List.foldl_append, List.foldl_cons, List.foldl_nil] at ih ⊢
      rw [get?_set, get?_set, ih]
      split_ifs <;> simp

theorem get_merge_of_notMem (d patch : Dict) {key : String}
    (hnot : key ∉ patch.map Prod.fst) : (d.merge patch).get key = d.get key :=
  congrArg (·.getD .null) (get?_merge_of_notMem d patch hnot)

/-- A key that a patch names once has the value of the patch. -/
theorem get_merge_of_mem {d patch : Dict} {key : String} {value : Json}
    (hkeys : (patch.map Prod.fst).Nodup) (hmem : (key, value) ∈ patch) :
    (d.merge patch).get key = value := by
  induction patch generalizing d with
  | nil => simp at hmem
  | cons entry rest ih =>
      obtain ⟨hnot, hrest⟩ := List.nodup_cons.mp hkeys
      rw [merge_cons]
      rcases List.mem_cons.mp hmem with rfl | hmem
      · rw [get_merge_of_notMem _ rest hnot]
        exact get_set_self d key value
      · exact ih hrest hmem

end Dict

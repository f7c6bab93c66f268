import TradingPlatform.Foundation.Json
import TradingPlatform.Foundation.Markers
import TradingPlatform.Foundation.PlainTexts

/-! # SQL text for the command line client

The adapter that calls `psql` puts the literals of the parameters into the query one
after the other, each for the first placeholder of the text it has so far. A literal
with a placeholder of its own takes in the literal that comes next.
-/

namespace TradingPlatform.Storage

section Literals

/-- Four hexadecimal digits after a backslash and a `u`. -/
def unicodeEscape (n : Nat) : List Char :=
  ['\\', 'u', Nat.digitChar (n / 4096 % 16), Nat.digitChar (n / 256 % 16),
    Nat.digitChar (n / 16 % 16), Nat.digitChar (n % 16)]

/-- A character of a JSON text that is plain ASCII. -/
def jsonEscape (c : Char) : List Char :=
  let n := c.toNat
  if c = '"' then ['\\', '"']
  else if c = '\\' then ['\\', '\\']
  else if c = '\n' then ['\\', 'n']
  else if c = '\r' then ['\\', 'r']
  else if c = '\t' then ['\\', 't']
  else if n = 8 then ['\\', 'b']
  else if n = 12 then ['\\', 'f']
  else if 32 ≤ n ∧ n < 127 then [c]
  else if n < 0x10000 then unicodeEscape n
  else unicodeEscape (0xD800 + (n - 0x10000) / 0x400) ++
    unicodeEscape (0xDC00 + (n - 0x10000) % 0x400)

def jsonQuote (s : String) : String :=
  String.ofList ('"' :: s.toList.flatMap jsonEscape ++ ['"'])

mutual

/-- The JSON text of a value, without blanks. -/
def jsonDumps : Json → String
  | .null => "null"
  | .bool b => if b then "true" else "false"
  | .int n => toString n
  | .float printed => printed
  | .str s => jsonQuote s
  | .arr items => "[" ++ Text.join "," (jsonDumpsItems items) ++ "]"
  | .obj fields => "\x7b" ++ Text.join "," (jsonDumpsFields fields) ++ "\x7d"

def jsonDumpsItems : List Json → List String
  | [] => []
  | item :: rest => jsonDumps item :: jsonDumpsItems rest

def jsonDumpsFields : List (String × Json) → List String
  | [] => []
  | (key, value) :: rest => (jsonQuote key ++ ":" ++ jsonDumps value) :: jsonDumpsFields rest

end

/-- The characters of a printed float. -/
def floatChars : List Char :=
  ['0', '1', '2', '3', '4', '5', '6', '7', '8', '9', '.', 'e', '+', '-', 'i', 'n', 'f', 'a']

/-- A float in its printed form. -/
structure FloatText where
  printed : String
  nonempty : printed.toList ≠ []
  plain : ∀ c ∈ printed.toList, c ∈ floatChars

/-- A parameter of a query: what is neither missing, a truth value, a number nor a
container is carried by its text. -/
inductive SqlParam where
  | null
  | bool (b : Bool)
  | int (n : Int)
  | float (value : FloatText)
  | json (value : Json)
  | text (s : String)

/-- Every quote is written twice. -/
def doubleQuotes (cs : List Char) : List Char :=
  cs.flatMap fun c => if c = '\'' then ['\'', '\''] else [c]

def quoted (s : String) : String :=
  String.ofList ('\'' :: doubleQuotes s.toList ++ ['\''])

def sqlLiteral : SqlParam → String
  | .null => "null"
  | .bool b => if b then "true" else "false"
  | .int n => toString n
  | .float value => value.printed
  | .json value => quoted (jsonDumps value)
  | .text s => quoted s

/-- Read a quoted literal, after its opening quote. -/
def readQuoted : List Char → Option (List Char × List Char)
  | [] => none
  | [c] => if c = '\'' then some ([], []) else none
  | c :: d :: rest =>
      if c = '\'' then
        if d = '\'' then (readQuoted rest).map fun read => ('\'' :: read.1, read.2)
        else some ([], d :: rest)
      else (readQuoted (d :: rest)).map fun read => (c :: read.1, read.2)

/-- A quoted text is read as it was given, up to its closing quote. -/
theorem readQuoted_doubleQuotes (cs : List Char) {rest : List Char}
    (hrest : rest.head? ≠ some '\'') :
    readQuoted (doubleQuotes cs ++ '\'' :: rest) = some (cs, rest) := by
  induction cs with
  | nil =>
      cases rest with
      | nil => rfl
      | cons d more =>
          have hquote : d ≠ '\'' := by simpa using hrest
          simp [doubleQuotes, readQuoted, hquote]
  | cons c more ih =>
      by_cases hquote : c = '\''
      · subst hquote
        have hcons : doubleQuotes ('\'' :: more) ++ '\'' :: rest =
            '\'' :: '\'' :: (doubleQuotes more ++ '\'' :: rest) := by
          simp [doubleQuotes]
        rw [hcons, readQuoted, if_pos rfl, if_pos rfl, ih]
        rfl
      · have hcons : doubleQuotes (c :: more) ++ '\'' :: rest =
            c :: (doubleQuotes more ++ '\'' :: rest) := by
          simp [doubleQuotes, hquote]
        rw [hcons]
        obtain ⟨d, tail, htail⟩ : ∃ d tail, doubleQuotes more ++ '\'' :: rest = d :: tail :=
          List.exists_cons_of_ne_nil (by simp)
        rw [htail] at ih ⊢
        rw [readQuoted, if_neg hquote, ih]
        rfl

end Literals

section Rendering

/-- A text with its first placeholder replaced. -/
def replacePlaceholder (text new : String) : String :=
  String.ofList (Markers.replaceFirst '%' 's' new.toList text.toList)

def renderQuery (query : String) (params : List SqlParam) : String :=
  params.foldl (fun rendered param => replacePlaceholder rendered (sqlLiteral param)) query

/-- How many placeholders stand in a text. -/
def placeholders (text : String) : Nat := Markers.count '%' 's' text.toList

/-- The query with the literal of each parameter in the place of its placeholder. -/
def renderAtOnce (query : String) (params : List SqlParam) : String :=
  String.ofList (Markers.substitute '%' 's' query.toList
    (params.map fun param => (sqlLiteral param).toList))

theorem solid_of_forall {text : List Char} (hne : text ≠ [])
    (hall : ∀ c ∈ text, c ≠ '%' ∧ c ≠ 's') : Markers.Solid '%' 's' text := by
  refine ⟨hne, ⟨fun hhead => ?_, fun hhead => ?_⟩, fun hlast => ?_⟩
  · exact (hall _ (List.mem_of_head? hhead)).1 rfl
  · exact (hall _ (List.mem_of_head? hhead)).2 rfl
  · exact (hall _ (List.mem_of_getLast? hlast)).1 rfl

theorem solid_quoted (s : String) : Markers.Solid '%' 's' (quoted s).toList := by
  rw [quoted, String.toList_ofList]
  refine ⟨by simp, ?_, ?_⟩
  · simp
  · rw [List.getLast?_append_of_ne_nil _ (by simp)]
    simp

theorem toList_toString_nat (n : Nat) : (toString n).toList = Nat.toDigits 10 n :=
  Nat.toList_repr

/-- Digits make no placeholder. -/
theorem ne_of_mem_toDigits {n : Nat} {c : Char} (hc : c ∈ Nat.toDigits 10 n) :
    c ≠ '%' ∧ c ≠ 's' := by
  have hdigit := Nat.isDigit_of_mem_toDigits (by decide) (by decide) hc
  constructor <;> rintro rfl <;> revert hdigit <;> decide

theorem solid_toString_int (n : Int) : Markers.Solid '%' 's' (toString n).toList := by
  cases n with
  | ofNat n =>
      have hdigits : (toString (Int.ofNat n)).toList = Nat.toDigits 10 n := toList_toString_nat n
      rw [hdigits]
      exact solid_of_forall Nat.toDigits_ne_nil fun c hc => ne_of_mem_toDigits hc
  | negSucc n =>
      have hdigits : (toString (Int.negSucc n)).toList = '-' :: Nat.toDigits 10 (n + 1) := by
        change ("-" ++ Nat.repr (n + 1)).toList = _
        rw [String.toList_append, Nat.toList_repr]
        rfl
      rw [hdigits]
      refine solid_of_forall (List.cons_ne_nil _ _) fun c hc => ?_
      rcases List.mem_cons.mp hc with rfl | hc
      · decide
      · exact ne_of_mem_toDigits hc

theorem solid_sqlLiteral (param : SqlParam) : Markers.Solid '%' 's' (sqlLiteral param).toList := by
  cases param with
  | null => exact ⟨by decide +kernel, by decide +kernel, by decide +kernel⟩
  | bool b => cases b <;> exact ⟨by decide +kernel, by decide +kernel, by decide +kernel⟩
  | int n => exact solid_toString_int n
  | float value =>
      refine solid_of_forall value.nonempty fun c hc => ?_
      have hplain := value.plain c hc
      constructor <;> rintro rfl <;> revert hplain <;> decide
  | json value => exact solid_quoted _
  | text s => exact solid_quoted s

theorem toList_renderQuery (query : String) (params : List SqlParam) :
    (renderQuery query params).toList = Markers.replaceEach '%' 's' query.toList
      (params.map fun param => (sqlLiteral param).toList) := by
  induction params generalizing query with
  | nil => rfl
  | cons param rest ih =>
      have hfirst := ih (replacePlaceholder query (sqlLiteral param))
      rw [replacePlaceholder, String.toList_ofList] at hfirst
      exact hfirst

/-- **The rendering of a query.** The text is the query with each placeholder replaced by
the literal of its parameter exactly when no literal but the last has a placeholder. -/
theorem renderQuery_eq_renderAtOnce_iff (query : String) (params : List SqlParam)
    (hcount : placeholders query = params.length) :
    renderQuery query params = renderAtOnce query params ↔
      ∀ param ∈ params.dropLast, placeholders (sqlLiteral param) = 0 := by
  rw [← String.toList_inj, toList_renderQuery, renderAtOnce, String.toList_ofList,
    Markers.replaceEach_eq_substitute_iff (by decide) (by rw [List.length_map]; exact hcount),
    ← List.map_dropLast]
  · simp only [List.forall_mem_map]
    rfl
  · simp only [List.forall_mem_map]
    exact fun param _ => solid_sqlLiteral param

/-- A text that holds a placeholder may come last. -/
theorem renderQuery_eq_renderAtOnce_last :
    renderQuery "values (%s, %s)" [.int 1, .text "100%s"] =
      renderAtOnce "values (%s, %s)" [.int 1, .text "100%s"] :=
  (renderQuery_eq_renderAtOnce_iff "values (%s, %s)" [.int 1, .text "100%s"]
    (by decide +kernel)).mpr (by decide +kernel)

/-- It may not come first: the second text ends up inside the first. -/
theorem not_renderQuery_eq_renderAtOnce : ¬ ∀ (query : String) (params : List SqlParam),
    placeholders query = params.length → renderQuery query params = renderAtOnce query params := by
  intro hall
  have hsame := hall "values (%s, %s)" [.text "100%s", .text "a"] (by decide +kernel)
  exact absurd hsame (by decide +kernel)

end Rendering

end TradingPlatform.Storage

import Mathlib.Data.List.Basic

/-! # UTF-8

Texts are written character by character. Bytes are read by a machine that is fed one
byte after the other and gives up on a sequence at the first byte that cannot belong
to it, so that every ill-formed stretch is reported once.
-/

namespace Utf8

/-- A code point: a character, or a surrogate that stands alone. -/
inductive CodePoint where
  | scalar (c : Char)
  | surrogate (offset : Fin 0x800)
deriving DecidableEq, Repr

section Encoding

/-- The bytes of a text; a text with a lone surrogate has none. -/
def encode? : List CodePoint → Option (List UInt8)
  | [] => some []
  | .scalar c :: rest => (encode? rest).map (String.utf8EncodeChar c ++ ·)
  | .surrogate _ :: _ => none

/-- The bytes of characters. -/
def encode (cs : List Char) : List UInt8 := cs.flatMap String.utf8EncodeChar

theorem encode?_map_scalar (cs : List Char) : encode? (cs.map .scalar) = some (encode cs) := by
  induction cs with
  | nil => rfl
  | cons c rest ih => rw [List.map_cons, encode?, ih]; rfl

/-- Whether a text has a lone surrogate. -/
def hasSurrogate (cs : List CodePoint) : Bool :=
  cs.any fun
    | .scalar _ => false
    | .surrogate _ => true

/-- A text without a lone surrogate is a text of characters. -/
theorem exists_map_scalar {cs : List CodePoint} (hcs : hasSurrogate cs = false) :
    ∃ chars : List Char, cs = chars.map .scalar := by
  induction cs with
  | nil => exact ⟨[], rfl⟩
  | cons c rest ih =>
      unfold hasSurrogate at hcs
      rw [List.any_cons, Bool.or_eq_false_iff] at hcs
      obtain ⟨chars, hchars⟩ := ih hcs.2
      cases c with
      | scalar c => exact ⟨c :: chars, by rw [List.map_cons, hchars]⟩
      | surrogate offset => cases hcs.1

theorem encode?_eq_none_of_hasSurrogate {cs : List CodePoint} (hcs : hasSurrogate cs = true) :
    encode? cs = none := by
  induction cs with
  | nil => cases hcs
  | cons c rest ih =>
      cases c with
      | scalar c =>
          unfold hasSurrogate at hcs
          rw [List.any_cons, Bool.false_or] at hcs
          rw [encode?, ih hcs]
          rfl
      | surrogate offset => rfl

end Encoding

section Decoding

/-- What is known of a character before its last byte: its bits so far, how many bytes
are missing, and between what bounds the next of them lies. -/
structure Pending where
  bits : Nat
  missing : Nat
  low : Nat
  high : Nat
deriving DecidableEq, Repr

/-- The state after the first byte of a character, or what the byte amounts to by itself. -/
def first (b : Nat) : Option Char ⊕ Pending :=
  if b < 0x80 then .inl (some (Char.ofNat b))
  else if 0xC2 ≤ b ∧ b ≤ 0xDF then .inr ⟨b - 0xC0, 1, 0x80, 0xBF⟩
  else if 0xE0 ≤ b ∧ b ≤ 0xEF then
    .inr ⟨b - 0xE0, 2, if b = 0xE0 then 0xA0 else 0x80, if b = 0xED then 0x9F else 0xBF⟩
  else if 0xF0 ≤ b ∧ b ≤ 0xF4 then
    .inr ⟨b - 0xF0, 3, if b = 0xF0 then 0x90 else 0x80, if b = 0xF4 then 0x8F else 0xBF⟩
  else .inl none

/-- What a byte amounts to at the start of a character. -/
def feedFirst (b : Nat) : List (Option Char) × Option Pending :=
  match first b with
  | .inl c => ([c], none)
  | .inr pending => ([], some pending)

def feed : Option Pending → Nat → List (Option Char) × Option Pending
  | none, b => feedFirst b
  | some pending, b =>
      if pending.low ≤ b ∧ b ≤ pending.high then
        let bits := pending.bits * 64 + (b - 0x80)
        if pending.missing = 1 then ([some (Char.ofNat bits)], none)
        else ([], some ⟨bits, pending.missing - 1, 0x80, 0xBF⟩)
      else ((none :: (feedFirst b).1), (feedFirst b).2)

def decodeFrom (pending : Option Pending) : List UInt8 → List (Option Char)
  | [] => if pending.isSome then [none] else []
  | b :: rest => (feed pending b.toNat).1 ++ decodeFrom (feed pending b.toNat).2 rest

/-- The characters of a sequence of bytes, with nothing in the place of each ill-formed
stretch. -/
def decode (bytes : List UInt8) : List (Option Char) := decodeFrom none bytes

/-- The characters of a well-formed sequence. -/
def decode? (bytes : List UInt8) : Option (List Char) := (decode bytes).mapM id

/-- The characters of a sequence, with a replacement for each ill-formed stretch. -/
def decodeReplace (bytes : List UInt8) : List Char := (decode bytes).map (·.getD '\uFFFD')

end Decoding

section RoundTrip

variable {pending : Pending} {b v : Nat} {rest : List UInt8}

theorem feedFirst_ascii (hb : b < 0x80) : feedFirst b = ([some (Char.ofNat b)], none) := by
  unfold feedFirst first
  rw [if_pos hb]

theorem feedFirst_two (hlow : 0xC2 ≤ b) (hhigh : b ≤ 0xDF) :
    feedFirst b = ([], some ⟨b - 0xC0, 1, 0x80, 0xBF⟩) := by
  unfold feedFirst first
  rw [if_neg (by omega), if_pos ⟨hlow, hhigh⟩]

theorem feedFirst_three (hlow : 0xE0 ≤ b) (hhigh : b ≤ 0xEF) :
    feedFirst b = ([], some ⟨b - 0xE0, 2, if b = 0xE0 then 0xA0 else 0x80,
      if b = 0xED then 0x9F else 0xBF⟩) := by
  unfold feedFirst first
  rw [if_neg (by omega), if_neg (by omega), if_pos ⟨hlow, hhigh⟩]

theorem feedFirst_four (hlow : 0xF0 ≤ b) (hhigh : b ≤ 0xF4) :
    feedFirst b = ([], some ⟨b - 0xF0, 3, if b = 0xF0 then 0x90 else 0x80,
      if b = 0xF4 then 0x8F else 0xBF⟩) := by
  unfold feedFirst first
  rw [if_neg (by omega), if_neg (by omega), if_neg (by omega), if_pos ⟨hlow, hhigh⟩]

theorem feed_last (hlow : pending.low ≤ b) (hhigh : b ≤ pending.high)
    (hmissing : pending.missing = 1) :
    feed (some pending) b = ([some (Char.ofNat (pending.bits * 64 + (b - 0x80)))], none) := by
  rw [feed, if_pos ⟨hlow, hhigh⟩]
  exact if_pos hmissing

theorem feed_more (hlow : pending.low ≤ b) (hhigh : b ≤ pending.high)
    (hmissing : pending.missing ≠ 1) :
    feed (some pending) b =
      ([], some ⟨pending.bits * 64 + (b - 0x80), pending.missing - 1, 0x80, 0xBF⟩) := by
  rw [feed, if_pos ⟨hlow, hhigh⟩]
  exact if_neg hmissing

theorem decodeFrom_ofNat {state : Option Pending} {n : Nat} (hn : n < 256) :
    decodeFrom state (UInt8.ofNat n :: rest) =
      (feed state n).1 ++ decodeFrom (feed state n).2 rest := by
  rw [decodeFrom, UInt8.toNat_ofNat', Nat.mod_eq_of_lt hn]

/-- A byte that carries six more bits. -/
theorem decodeFrom_more (hlow : pending.low ≤ v % 0x40 + 0x80)
    (hhigh : v % 0x40 + 0x80 ≤ pending.high)
    (hmissing : pending.missing ≠ 1) :
    decodeFrom (some pending) (UInt8.ofNat (v % 0x40 + 0x80) :: rest) =
      decodeFrom (some ⟨pending.bits * 64 + v % 0x40, pending.missing - 1, 0x80, 0xBF⟩) rest := by
  rw [decodeFrom_ofNat (by omega), feed_more hlow hhigh hmissing, Nat.add_sub_cancel]
  rfl

theorem decodeFrom_last (hlow : pending.low ≤ v % 0x40 + 0x80)
    (hhigh : v % 0x40 + 0x80 ≤ pending.high)
    (hmissing : pending.missing = 1) :
    decodeFrom (some pending) (UInt8.ofNat (v % 0x40 + 0x80) :: rest) =
      some (Char.ofNat (pending.bits * 64 + v % 0x40)) :: decodeFrom none rest := by
  rw [decodeFrom_ofNat (by omega), feed_last hlow hhigh hmissing, Nat.add_sub_cancel]
  rfl

theorem decodeFrom_ascii (hv : v < 0x80) :
    decodeFrom none (UInt8.ofNat v :: rest) = some (Char.ofNat v) :: decodeFrom none rest := by
  rw [decodeFrom_ofNat (by omega), feed, feedFirst_ascii hv]
  rfl

theorem decodeFrom_two (hlow : 0x80 ≤ v) (hhigh : v < 0x800) :
    decodeFrom none (UInt8.ofNat (v / 64 % 0x20 + 0xC0) :: UInt8.ofNat (v % 0x40 + 0x80) :: rest) =
      some (Char.ofNat v) :: decodeFrom none rest := by
  rw [decodeFrom_ofNat (by omega), feed, feedFirst_two (by omega) (by omega), List.nil_append,
    decodeFrom_last (by simp) (by dsimp only; omega) rfl]
  dsimp only
  congr 3
  omega

theorem decodeFrom_three (hlow : 0x800 ≤ v) (hhigh : v < 0x10000)
    (hvalid : v < 0xD800 ∨ 0xDFFF < v) :
    decodeFrom none (UInt8.ofNat (v / 4096 % 0x10 + 0xE0) :: UInt8.ofNat (v / 64 % 0x40 + 0x80) ::
      UInt8.ofNat (v % 0x40 + 0x80) :: rest) = some (Char.ofNat v) :: decodeFrom none rest := by
  rw [decodeFrom_ofNat (by omega), feed, feedFirst_three (by omega) (by omega), List.nil_append,
    decodeFrom_more (by dsimp only; split <;> omega) (by dsimp only; split <;> omega) (by simp),
    decodeFrom_last (by simp) (by dsimp only; omega) rfl]
  dsimp only
  congr 3
  omega

theorem decodeFrom_four (hlow : 0x10000 ≤ v) (hhigh : v < 0x110000) :
    decodeFrom none (UInt8.ofNat (v / 262144 % 0x08 + 0xF0) ::
      UInt8.ofNat (v / 4096 % 0x40 + 0x80) :: UInt8.ofNat (v / 64 % 0x40 + 0x80) ::
      UInt8.ofNat (v % 0x40 + 0x80) :: rest) = some (Char.ofNat v) :: decodeFrom none rest := by
  rw [decodeFrom_ofNat (by omega), feed, feedFirst_four (by omega) (by omega), List.nil_append,
    decodeFrom_more (by dsimp only; split <;> omega) (by dsimp only; split <;> omega) (by simp),
    decodeFrom_more (by simp) (by dsimp only; omega) (by simp),
    decodeFrom_last (by simp) (by dsimp only; omega) rfl]
  dsimp only
  congr 3
  omega

/-- A character is read back. -/
theorem decodeFrom_utf8EncodeChar (c : Char) (rest : List UInt8) :
    decodeFrom none (String.utf8EncodeChar c ++ rest) = some c :: decodeFrom none rest := by
  have hvalid : c.toNat < 0xD800 ∨ 0xDFFF < c.toNat ∧ c.toNat < 0x110000 := c.valid
  have hchar : Char.ofNat c.val.toNat = c := Char.ofNat_toNat c
  change c.val.toNat < _ ∨ _ < c.val.toNat ∧ c.val.toNat < _ at hvalid
  fun_cases String.utf8EncodeChar
  next hv =>
    rw [List.singleton_append, decodeFrom_ascii (by omega), hchar]
  next hone hv =>
    rw [List.cons_append, List.singleton_append, decodeFrom_two (by omega) (by omega), hchar]
  next hone htwo hv =>
    rw [List.cons_append, List.cons_append, List.singleton_append,
      decodeFrom_three (by omega) (by omega) (by omega), hchar]
  next hone htwo hthree =>
    rw [List.cons_append, List.cons_append, List.cons_append, List.singleton_append,
      decodeFrom_four (by omega) (by omega), hchar]

theorem decode_encode (cs : List Char) : decode (encode cs) = cs.map some := by
  unfold decode encode
  induction cs with
  | nil => rfl
  | cons c rest ih => rw [List.flatMap_cons, decodeFrom_utf8EncodeChar, ih, List.map_cons]

theorem decode?_encode (cs : List Char) : decode? (encode cs) = some cs := by
  rw [decode?, decode_encode]
  induction cs with
  | nil => rfl
  | cons c rest ih =>
      rw [List.map_cons, List.mapM_cons, ih]
      rfl

theorem decodeReplace_encode (cs : List Char) : decodeReplace (encode cs) = cs := by
  rw [decodeReplace, decode_encode, List.map_map]
  exact List.map_id cs

end RoundTrip

end Utf8

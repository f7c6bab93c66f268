import Mathlib.Data.List.TakeWhile
import TradingPlatform.Foundation.AsciiNumbers
import TradingPlatform.Foundation.ByteReaders
import TradingPlatform.Foundation.Utf8

/-! # The Redis protocol

Commands are written as arrays of bulk strings, and replies are read one byte after the
other. A reply is a value of the protocol; what is read of it is its decoding, or the
first error in it.
-/

namespace TradingPlatform.RedisClient

open AsciiNumbers Reading Utf8

section Commands

/-- A part of a command; any other value is passed as its text. -/
inductive Part where
  | bytes (payload : List UInt8)
  | none
  | text (cs : List CodePoint)

def crlf : List UInt8 := [13, 10]

def encodeBulkString (value : Part) : Option (List UInt8) :=
  let payload : Option (List UInt8) :=
    match value with
    | .bytes payload => some payload
    | .none => some []
    | .text cs => encode? cs
  payload.map fun payload => asciiByte '$' :: decimal payload.length ++ crlf ++ payload ++ crlf

def encodeCommand (parts : List Part) : Option (List UInt8) :=
  (parts.mapM encodeBulkString).map fun encodedParts =>
    asciiByte '*' :: decimal encodedParts.length ++ crlf ++ encodedParts.flatten

end Commands

section Replies

/-- An exception. -/
inductive Failure where
  | redisClientError (message : String)
  | valueError
  | recursionError
deriving DecidableEq, Repr

/-- What a reply is read as. -/
inductive Reply where
  | text (cs : List CodePoint)
  | int (n : Int)
  | none
  | list (items : List Reply)
  | bool (b : Bool)
deriving Repr

def readByte : Reader Failure UInt8
  | [] => .error (.redisClientError "redis connection closed")
  | b :: rest => .ok (b, rest)

/-- The rest of a line, without its end. -/
def readLine : Reader Failure (List UInt8) := fun input =>
  let line := input.takeWhile (· != 10)
  match input.dropWhile (· != 10) with
  | [] => .error (.redisClientError "malformed redis response line")
  | _ :: rest =>
      if line.getLast? = some 13 then .ok (line.dropLast, rest)
      else .error (.redisClientError "malformed redis response line")

def readExact (size : Nat) : Reader Failure (List UInt8) :=
  takeExact (.redisClientError "unexpected end of redis response") size

def readInt : Reader Failure Int :=
  readLine >>= fun line => (toInt? line).elim (throw .valueError) pure

/-- The text of some bytes. -/
def textOf (bytes : List UInt8) : List CodePoint := (decodeReplace bytes).map .scalar

def hexDigits (n : Nat) : String := String.ofList [Nat.digitChar (n / 16), Nat.digitChar (n % 16)]

/-- A byte as it is shown in a message. -/
def byteRepr (b : UInt8) : String :=
  if b = 9 then "b'\\t'"
  else if b = 10 then "b'\\n'"
  else if b = 13 then "b'\\r'"
  else if b = asciiByte '\\' then "b'\\\\'"
  else if b = asciiByte '\'' then "b\"'\""
  else if 32 ≤ b.toNat ∧ b.toNat < 127 then "b'" ++ String.ofList [Char.ofNat b.toNat] ++ "'"
  else "b'\\x" ++ hexDigits b.toNat ++ "'"

/-- What follows the first byte of a reply. -/
def readBody (nested : Reader Failure Reply) (lead : UInt8) : Reader Failure Reply :=
  if lead = asciiByte '+' then readLine >>= fun line => pure (.text (textOf line))
  else if lead = asciiByte '-' then
    readLine >>= fun line => throw (.redisClientError (String.ofList (decodeReplace line)))
  else if lead = asciiByte ':' then readInt >>= fun n => pure (.int n)
  else if lead = asciiByte '$' then
    readInt >>= fun length =>
      if length < 0 then pure .none
      else
        readExact length.toNat >>= fun payload =>
          readExact 2 >>= fun _ => pure (.text (textOf payload))
  else if lead = asciiByte '*' then
    readInt >>= fun count =>
      if count < 0 then pure .none
      else readMany nested count.toNat >>= fun items => pure (.list items)
  else if lead = asciiByte '_' then readExact 2 >>= fun _ => pure .none
  else if lead = asciiByte '#' then
    readExact 1 >>= fun value => readExact 2 >>= fun _ => pure (.bool (value == [asciiByte 't']))
  else
    throw (.redisClientError ("unsupported redis response prefix: " ++ byteRepr lead))

/-- Read a reply whose arrays are nested less deep than a bound. -/
def readNested : Nat → Reader Failure Reply
  | 0 => throw .recursionError
  | depth + 1 => readByte >>= readBody (readNested depth)

/-- Read a reply. Every array takes a byte before it reads its items, so that a stream has
no deeper arrays than bytes. -/
def readResponse : Reader Failure Reply := fun input => readNested (input.length + 1) input

end Replies

section Streams

theorem local_readByte : Local readByte := by
  intro input b left hread
  cases input with
  | nil => cases hread
  | cons first rest =>
      obtain ⟨rfl, rfl⟩ := Prod.mk.inj (Except.ok.inj hread)
      exact ⟨[first], rfl, fun _ => rfl⟩

/-- A line ends with its first newline. -/
theorem takeWhile_line {line : List UInt8} (hline : 10 ∉ line) (rest : List UInt8) :
    (line ++ 10 :: rest).takeWhile (· != 10) = line ∧
      (line ++ 10 :: rest).dropWhile (· != 10) = 10 :: rest := by
  have hall : ∀ b ∈ line, (b != 10) = true := fun b hb =>
    bne_iff_ne.mpr (ne_of_mem_of_not_mem hb hline)
  rw [List.takeWhile_append_of_pos hall, List.dropWhile_append_of_pos hall]
  simp

theorem gives_readLine {line : List UInt8} (hline : 10 ∉ line) :
    Gives readLine (line ++ crlf) (.ok line) := by
  intro rest
  have hreturn : 10 ∉ line ++ [13] := by simpa using hline
  have hsplit : line ++ crlf ++ rest = (line ++ [13]) ++ 10 :: rest := by simp [crlf]
  obtain ⟨htake, hdrop⟩ := takeWhile_line hreturn rest
  unfold readLine
  rw [hsplit, htake, hdrop]
  dsimp only
  rw [if_pos List.getLast?_concat, List.dropLast_concat]
  rfl

theorem local_readLine : Local readLine := by
  intro input line left hread
  have hinput : input = input.takeWhile (· != 10) ++ input.dropWhile (· != 10) :=
    (List.takeWhile_append_dropWhile).symm
  have hfree : 10 ∉ input.takeWhile (· != 10) := fun hmem =>
    absurd (List.mem_takeWhile_imp hmem) (by decide)
  unfold readLine at hread
  dsimp only at hread
  split at hread
  next => cases hread
  next b rest hrest =>
    split at hread
    next hlast =>
      obtain ⟨rfl, rfl⟩ := Prod.mk.inj (Except.ok.inj hread)
      have hb : b = 10 := by
        have hhead := List.head?_dropWhile_not (· != (10 : UInt8)) input
        rw [hrest] at hhead
        simpa using hhead
      obtain ⟨front, hfront⟩ := List.getLast?_eq_some_iff.mp hlast
      refine ⟨front ++ crlf, ?_, ?_⟩
      · conv_lhs => rw [hinput, hrest, hfront, hb]
        simp [crlf]
      · rw [hfront, List.dropLast_concat]
        exact gives_readLine fun hmem => hfree (hfront ▸ List.mem_append_left _ hmem)
    next => cases hread

theorem local_readInt : Local readInt := by
  refine local_readLine.bind fun line => ?_
  cases toInt? line with
  | none => exact local_throw _
  | some n => exact local_pure n

theorem local_readExact (size : Nat) : Local (readExact size) := local_takeExact _ size

variable {nested other : Reader Failure Reply} {length : Nat}

theorem local_readBody (hnested : Local nested) (lead : UInt8) : Local (readBody nested lead) := by
  refine .ite (local_readLine.bind fun _ => local_pure _) ?_
  refine .ite (local_readLine.bind fun _ => local_throw _) ?_
  refine .ite (local_readInt.bind fun _ => local_pure _) ?_
  refine .ite (local_readInt.bind fun _ => .ite (local_pure _) ?_) ?_
  · exact (local_readExact _).bind fun _ => (local_readExact _).bind fun _ => local_pure _
  refine .ite (local_readInt.bind fun _ => .ite (local_pure _) ?_) ?_
  · exact (local_readMany hnested _).bind fun _ => local_pure _
  refine .ite ((local_readExact _).bind fun _ => local_pure _) ?_
  refine .ite ?_ (local_throw _)
  exact (local_readExact _).bind fun _ => (local_readExact _).bind fun _ => local_pure _

theorem local_readNested (depth : Nat) : Local (readNested depth) := by
  induction depth with
  | zero => exact local_throw _
  | succ depth ih => exact local_readByte.bind (local_readBody ih)

theorem agreeUpTo_readBody (hnested : Local nested) (hagree : AgreeUpTo length nested other)
    (lead : UInt8) : AgreeUpTo length (readBody nested lead) (readBody other lead) := by
  refine .ite (.refl _) (.ite (.refl _) (.ite (.refl _) (.ite (.refl _) (.ite ?_ (.refl _)))))
  refine (AgreeUpTo.refl _).bind local_readInt fun _ => .ite (.refl _) ?_
  exact (hagree.readMany hnested _).bind (local_readMany hnested _) fun _ => .refl _

/-- A stream that is shorter than the bound is read the same under every other such bound. -/
theorem readNested_eq {depth bound : Nat} {input : List UInt8} (hdepth : input.length < depth)
    (hbound : input.length < bound) : readNested depth input = readNested bound input := by
  induction depth generalizing bound input with
  | zero => exact absurd hdepth (Nat.not_lt_zero _)
  | succ depth ih =>
      cases bound with
      | zero => exact absurd hbound (Nat.not_lt_zero _)
      | succ bound =>
          cases input with
          | nil => rfl
          | cons lead rest =>
              have hagree : AgreeUpTo rest.length (readNested depth) (readNested bound) :=
                fun shorter hshorter => by
                  rw [List.length_cons] at hdepth hbound
                  exact ih (by omega) (by omega)
              have hbody := agreeUpTo_readBody (local_readNested depth) hagree lead rest Nat.le.refl
              have hlead : readByte (lead :: rest) = .ok (lead, rest) := rfl
              rw [readNested, readNested, bind_of_ok hlead, bind_of_ok hlead, hbody]

theorem readResponse_eq {depth : Nat} {input : List UInt8} (hdepth : input.length < depth) :
    readResponse input = readNested depth input :=
  readNested_eq (Nat.lt_succ_self _) hdepth

theorem local_readResponse : Local readResponse := by
  intro input reply left hread
  obtain ⟨taken, htaken, -⟩ := local_readNested _ _ _ _ hread
  refine ⟨taken, htaken, fun rest => ?_⟩
  -- a bound for both streams
  have hinput : input.length < (input ++ rest).length + 1 := by
    rw [List.length_append]
    omega
  have hwhole : (taken ++ rest).length < (input ++ rest).length + 1 := by
    rw [htaken]
    simp only [List.length_append]
    omega
  rw [readResponse_eq hinput] at hread
  obtain ⟨taken', htaken', hgives⟩ := local_readNested _ _ _ _ hread
  have hsame : taken' = taken := List.append_cancel_right (htaken'.symm.trans htaken)
  rw [readResponse_eq hwhole, ← hsame]
  exact hgives rest

end Streams

section Values

/-- The bytes of a simple string, which is a line. -/
structure SimpleText where
  bytes : List UInt8
  oneLine : ∀ b ∈ bytes, b ≠ 13 ∧ b ≠ 10

/-- A reply, as a value of the protocol. -/
inductive RespValue where
  | simple (text : SimpleText)
  | error (text : SimpleText)
  | integer (n : Int64)
  | bulk (payload : List UInt8)
  | nullBulk
  | array (items : List RespValue)
  | nullArray

namespace RespValue

mutual

def encode : RespValue → List UInt8
  | .simple text => asciiByte '+' :: (text.bytes ++ crlf)
  | .error text => asciiByte '-' :: (text.bytes ++ crlf)
  | .integer n => asciiByte ':' :: (decimalInt n.toInt ++ crlf)
  | .bulk payload => asciiByte '$' :: (decimal payload.length ++ crlf ++ (payload ++ crlf))
  | .nullBulk => asciiByte '$' :: (decimalInt (-1) ++ crlf)
  | .array items => asciiByte '*' :: (decimal items.length ++ crlf ++ encodeItems items)
  | .nullArray => asciiByte '*' :: (decimalInt (-1) ++ crlf)

def encodeItems : List RespValue → List UInt8
  | [] => []
  | item :: rest => item.encode ++ encodeItems rest

end

mutual

/-- What a value stands for, or the message of its first error. -/
def decoded : RespValue → Except String Reply
  | .simple text => .ok (.text (textOf text.bytes))
  | .error text => .error (String.ofList (decodeReplace text.bytes))
  | .integer n => .ok (.int n.toInt)
  | .bulk payload => .ok (.text (textOf payload))
  | .nullBulk => .ok .none
  | .array items => (decodedItems items).map .list
  | .nullArray => .ok .none

def decodedItems : List RespValue → Except String (List Reply)
  | [] => .ok []
  | item :: rest => item.decoded.bind fun first => (decodedItems rest).map (first :: ·)

end

mutual

/-- Whether there is an error in a value. -/
def hasError : RespValue → Bool
  | .error _ => true
  | .array items => anyError items
  | .simple _ | .integer _ | .bulk _ | .nullBulk | .nullArray => false

def anyError : List RespValue → Bool
  | [] => false
  | item :: rest => item.hasError || anyError rest

end

mutual

/-- How deep the arrays of a value are nested. -/
def depth : RespValue → Nat
  | .array items => depthItems items + 1
  | .simple _ | .error _ | .integer _ | .bulk _ | .nullBulk | .nullArray => 0

def depthItems : List RespValue → Nat
  | [] => 0
  | item :: rest => max item.depth (depthItems rest)

end

mutual

theorem depth_lt_length_encode : (value : RespValue) → value.depth < value.encode.length
  | .array items => by
      have hitems := depthItems_le_length items
      rw [depth, encode, List.length_cons, List.length_append]
      have hhead : 0 < (decimal items.length ++ crlf).length := by simp [crlf]
      omega
  | .simple _ | .error _ | .integer _ | .bulk _ | .nullBulk | .nullArray => Nat.succ_pos _

theorem depthItems_le_length : (items : List RespValue) →
    depthItems items ≤ (encodeItems items).length
  | [] => Nat.zero_le _
  | item :: rest => by
      have hfirst := item.depth_lt_length_encode
      have hrest := depthItems_le_length rest
      rw [depthItems, encodeItems, List.length_append]
      omega

end

end RespValue

end Values

section Errors

theorem isOk_map {ε α β : Type} (result : Except ε α) (f : α → β) :
    (result.map f).isOk = result.isOk := by
  cases result <;> rfl

mutual

theorem RespValue.isOk_decoded : (value : RespValue) → value.decoded.isOk = !value.hasError
  | .array items => by
      rw [decoded, hasError, isOk_map]
      exact isOk_decodedItems items
  | .error _ => rfl
  | .simple _ | .integer _ | .bulk _ | .nullBulk | .nullArray => rfl

theorem RespValue.isOk_decodedItems : (items : List RespValue) →
    (decodedItems items).isOk = !anyError items
  | [] => rfl
  | item :: rest => by
      have hfirst := item.isOk_decoded
      have hrest := isOk_decodedItems rest
      rw [decodedItems, anyError]
      cases hdecoded : item.decoded with
      | error message =>
          have herror : item.hasError = true := by
            rw [hdecoded] at hfirst
            exact Bool.not_inj hfirst.symm
          rw [herror]
          rfl
      | ok first =>
          have hfree : item.hasError = false := by
            rw [hdecoded] at hfirst
            exact Bool.not_inj hfirst.symm
          rw [hfree, Bool.false_or, ← hrest]
          exact isOk_map _ _

end

end Errors

section RoundTrip

variable {depth : Nat} {more : List UInt8} {lead : UInt8} {reply : Except Failure Reply}

theorem gives_readInt (n : Int) : Gives readInt (decimalInt n ++ crlf) (.ok n) := by
  have hfree : 10 ∉ decimalInt n := fun hmem => absurd (isBlank_of_mem_decimalInt hmem) (by decide)
  intro rest
  rw [readInt, bind_of_ok (gives_readLine hfree rest), toInt?_decimalInt]
  rfl

/-- The length of what follows. -/
theorem gives_readInt_length (n : Nat) : Gives readInt (decimal n ++ crlf) (.ok (n : Int)) :=
  gives_readInt n

theorem gives_readNested_succ (hbody : Gives (readBody (readNested depth) lead) more reply) :
    Gives (readNested (depth + 1)) (lead :: more) reply := by
  intro rest
  have hlead : readByte (lead :: (more ++ rest)) = .ok (lead, more ++ rest) := rfl
  rw [List.cons_append, readNested, bind_of_ok hlead]
  exact hbody rest

/-- What the rest of the program makes of a value. -/
def outcome {α : Type} (result : Except String α) : Except Failure α :=
  result.mapError .redisClientError

theorem outcome_map {α β : Type} (result : Except String α) (f : α → β) :
    outcome (result.map f) = (outcome result).bind fun a => .ok (f a) := by
  cases result <;> rfl

theorem outcome_bind {α β : Type} (result : Except String α) (next : α → Except String β) :
    outcome (result.bind next) = (outcome result).bind fun a => outcome (next a) := by
  cases result <;> rfl

variable {nested : Reader Failure Reply}

theorem gives_readBody_simple (text : SimpleText) :
    Gives (readBody nested (asciiByte '+')) (text.bytes ++ crlf)
      (.ok (.text (textOf text.bytes))) := by
  have hline := gives_readLine fun hmem => (text.oneLine 10 hmem).2 rfl
  intro rest
  rw [readBody, if_pos rfl, bind_of_ok (hline rest)]
  rfl

theorem gives_readBody_error (text : SimpleText) :
    Gives (readBody nested (asciiByte '-')) (text.bytes ++ crlf)
      (.error (.redisClientError (String.ofList (decodeReplace text.bytes)))) := by
  have hline := gives_readLine fun hmem => (text.oneLine 10 hmem).2 rfl
  intro rest
  rw [readBody, if_neg (by decide), if_pos rfl, bind_of_ok (hline rest)]
  rfl

theorem gives_readBody_integer (n : Int) :
    Gives (readBody nested (asciiByte ':')) (decimalInt n ++ crlf) (.ok (.int n)) := by
  intro rest
  rw [readBody, if_neg (by decide), if_neg (by decide), if_pos rfl,
    bind_of_ok (gives_readInt n rest)]
  rfl

theorem gives_readBody_bulk (payload : List UInt8) :
    Gives (readBody nested (asciiByte '$')) (decimal payload.length ++ crlf ++ (payload ++ crlf))
      (.ok (.text (textOf payload))) := by
  have hpayload : Gives (readExact payload.length) payload (.ok payload) := gives_takeExact _ rfl
  have hend : Gives (readExact 2) crlf (.ok crlf) := gives_takeExact _ rfl
  intro rest
  rw [readBody, if_neg (by decide), if_neg (by decide), if_neg (by decide), if_pos rfl,
    List.append_assoc, bind_of_ok (gives_readInt_length _ _), if_neg (by omega),
    Int.toNat_natCast, List.append_assoc, bind_of_ok (hpayload _), bind_of_ok (hend rest)]
  rfl

theorem gives_readBody_nullBulk :
    Gives (readBody nested (asciiByte '$')) (decimalInt (-1) ++ crlf) (.ok .none) := by
  intro rest
  rw [readBody, if_neg (by decide), if_neg (by decide), if_neg (by decide), if_pos rfl,
    bind_of_ok (gives_readInt (-1) rest), if_pos (by decide)]
  rfl

theorem gives_readBody_array {count : Nat} {items : Except Failure (List Reply)}
    (hitems : Gives (readMany nested count) more items) :
    Gives (readBody nested (asciiByte '*')) (decimal count ++ crlf ++ more)
      (items.bind fun items => .ok (.list items)) := by
  have hpure : ∀ replies, items = .ok replies →
      Gives (pure (.list replies) : Reader Failure Reply) [] (.ok (.list replies)) :=
    fun _ _ => gives_pure
  intro rest
  have hlist := hitems.bind hpure rest
  rw [List.append_nil] at hlist
  rw [readBody, if_neg (by decide), if_neg (by decide), if_neg (by decide), if_neg (by decide),
    if_pos rfl, List.append_assoc, bind_of_ok (gives_readInt_length count _), if_neg (by omega),
    Int.toNat_natCast]
  exact hlist

theorem gives_readBody_nullArray :
    Gives (readBody nested (asciiByte '*')) (decimalInt (-1) ++ crlf) (.ok .none) := by
  intro rest
  rw [readBody, if_neg (by decide), if_neg (by decide), if_neg (by decide), if_neg (by decide),
    if_pos rfl, bind_of_ok (gives_readInt (-1) rest), if_pos (by decide)]
  rfl

mutual

/-- A value is read as what it stands for, or fails with its first error. -/
theorem gives_readNested : (value : RespValue) → (depth : Nat) → value.depth < depth →
    Gives (readNested depth) value.encode (outcome value.decoded)
  | _, 0, hdepth => absurd hdepth (Nat.not_lt_zero _)
  | .simple text, _ + 1, _ => gives_readNested_succ (gives_readBody_simple text)
  | .error text, _ + 1, _ => gives_readNested_succ (gives_readBody_error text)
  | .integer n, _ + 1, _ => gives_readNested_succ (gives_readBody_integer n.toInt)
  | .bulk payload, _ + 1, _ => gives_readNested_succ (gives_readBody_bulk payload)
  | .nullBulk, _ + 1, _ => gives_readNested_succ gives_readBody_nullBulk
  | .nullArray, _ + 1, _ => gives_readNested_succ gives_readBody_nullArray
  | .array items, depth + 1, hdepth => by
      have hitems := gives_readItems items depth (Nat.lt_of_succ_lt_succ hdepth)
      rw [RespValue.decoded, outcome_map]
      exact gives_readNested_succ (gives_readBody_array hitems)

theorem gives_readItems : (items : List RespValue) → (depth : Nat) →
    RespValue.depthItems items < depth →
    Gives (readMany (readNested depth) items.length) (RespValue.encodeItems items)
      (outcome (RespValue.decodedItems items))
  | [], _, _ => gives_pure
  | item :: rest, depth, hdepth => by
      rw [RespValue.depthItems] at hdepth
      have hfirst := gives_readNested item depth (by omega)
      have hrest := gives_readItems rest depth (by omega)
      rw [RespValue.decodedItems, outcome_bind]
      refine hfirst.bind fun first _ => ?_
      rw [outcome_map, ← List.append_nil (RespValue.encodeItems rest)]
      exact hrest.bind fun _ _ => gives_pure

end

theorem gives_readResponse (value : RespValue) :
    Gives readResponse value.encode (outcome value.decoded) := by
  intro rest
  refine gives_readNested value _ ?_ rest
  have hdepth := value.depth_lt_length_encode
  rw [List.length_append]
  omega

/-- What is read of a value that is cut short is an error. -/
theorem isOk_readResponse_of_cut (value : RespValue) {cut : List UInt8}
    (hcut : cut <+: value.encode) (hne : cut ≠ value.encode) :
    (readResponse cut).isOk = false := by
  obtain ⟨e, he⟩ := local_readResponse.error_of_cut (gives_readResponse value) hcut hne
  rw [he]
  rfl

end RoundTrip

section CommandTexts

theorem encodeBulkString_chars (chars : List Char) :
    encodeBulkString (.text (chars.map .scalar)) = some (RespValue.bulk (encode chars)).encode := by
  unfold encodeBulkString
  dsimp only
  rw [encode?_map_scalar, Option.map_some, RespValue.encode]
  simp only [List.cons_append, List.append_assoc]

theorem mapM_encodeBulkString_chars (texts : List (List Char)) :
    (texts.map fun chars => Part.text (chars.map .scalar)).mapM encodeBulkString =
      some (texts.map fun chars => (RespValue.bulk (encode chars)).encode) := by
  induction texts with
  | nil => rfl
  | cons chars rest ih =>
      rw [List.map_cons, List.mapM_cons, encodeBulkString_chars, ih]
      rfl

theorem encodeItems_eq_flatten (items : List RespValue) :
    RespValue.encodeItems items = (items.map RespValue.encode).flatten := by
  induction items with
  | nil => rfl
  | cons item rest ih => rw [RespValue.encodeItems, ih, List.map_cons, List.flatten_cons]

/-- A command is written as an array of bulk strings. -/
theorem encodeCommand_chars (texts : List (List Char)) :
    encodeCommand (texts.map fun chars => Part.text (chars.map .scalar)) =
      some (RespValue.array (texts.map fun chars => .bulk (encode chars))).encode := by
  rw [encodeCommand, mapM_encodeBulkString_chars, Option.map_some, RespValue.encode,
    encodeItems_eq_flatten, List.map_map, List.length_map, List.length_map]
  rfl

theorem decoded_texts (texts : List (List Char)) :
    (RespValue.array (texts.map fun chars => .bulk (encode chars))).decoded =
      .ok (.list (texts.map fun chars => .text (chars.map .scalar))) := by
  have hitems : RespValue.decodedItems (texts.map fun chars => .bulk (encode chars)) =
      .ok (texts.map fun chars => .text (chars.map .scalar)) := by
    induction texts with
    | nil => rfl
    | cons chars rest ih =>
        rw [List.map_cons, RespValue.decodedItems, ih, RespValue.decoded, textOf,
          decodeReplace_encode]
        rfl
  rw [RespValue.decoded, hitems]
  rfl

/-- Texts without a lone surrogate are texts of characters. -/
theorem exists_map_map_scalar {texts : List (List CodePoint)}
    (htexts : texts.any hasSurrogate = false) :
    ∃ chars : List (List Char), texts = chars.map (·.map .scalar) := by
  induction texts with
  | nil => exact ⟨[], rfl⟩
  | cons text rest ih =>
      rw [List.any_cons, Bool.or_eq_false_iff] at htexts
      obtain ⟨first, hfirst⟩ := exists_map_scalar htexts.1
      obtain ⟨others, hothers⟩ := ih htexts.2
      exact ⟨first :: others, by rw [List.map_cons, ← hfirst, ← hothers]⟩

theorem mapM_encodeBulkString_eq_none {texts : List (List CodePoint)}
    (htexts : texts.any hasSurrogate = true) :
    (texts.map Part.text).mapM encodeBulkString = none := by
  induction texts with
  | nil => cases htexts
  | cons text rest ih =>
      rw [List.map_cons, List.mapM_cons]
      cases hencoded : encodeBulkString (.text text) with
      | none => rfl
      | some bytes =>
          have hfree : hasSurrogate text = false := by
            apply Bool.eq_false_iff.mpr
            intro hsurrogate
            rw [encodeBulkString] at hencoded
            rw [encode?_eq_none_of_hasSurrogate hsurrogate] at hencoded
            cases hencoded
          rw [List.any_cons, hfree, Bool.false_or] at htexts
          rw [ih htexts]
          rfl

theorem readResponse_encodeCommand (texts : List (List CodePoint)) :
    (encodeCommand (texts.map .text)).map readResponse =
      if texts.any hasSurrogate then none else some (.ok (.list (texts.map .text), [])) := by
  cases htexts : texts.any hasSurrogate with
  | true =>
      rw [encodeCommand, mapM_encodeBulkString_eq_none htexts, if_pos rfl]
      rfl
  | false =>
      obtain ⟨chars, rfl⟩ := exists_map_map_scalar htexts
      have hread := gives_readResponse (.array (chars.map fun chars => .bulk (encode chars))) []
      rw [List.append_nil, decoded_texts] at hread
      rw [List.map_map, List.map_map, if_neg Bool.false_ne_true]
      exact (congrArg (Option.map readResponse) (encodeCommand_chars chars)).trans
        (congrArg some hread)

end CommandTexts

/-- The codec of commands and replies. A command is refused exactly for a lone surrogate,
and is read back otherwise; a value is read as what it stands for, with exactly its bytes
taken, or fails with its first error; a value that is cut short fails. -/
theorem codec_correct :
    (∀ texts : List (List CodePoint), (encodeCommand (texts.map .text)).map readResponse =
      if texts.any hasSurrogate then none else some (.ok (.list (texts.map .text), []))) ∧
    (∀ (value : RespValue) (rest : List UInt8), readResponse (value.encode ++ rest) =
      (outcome value.decoded).map (·, rest)) ∧
    (∀ value : RespValue, value.decoded.isOk = !value.hasError) ∧
    (∀ (value : RespValue) (length : Fin value.encode.length),
      (readResponse (value.encode.take length)).isOk = false) := by
  refine ⟨readResponse_encodeCommand, gives_readResponse, RespValue.isOk_decoded, ?_⟩
  intro value length
  apply isOk_readResponse_of_cut value (List.take_prefix _ _)
  intro hwhole
  have hlength := congrArg List.length hwhole
  rw [List.length_take_of_le length.isLt.le] at hlength
  exact length.isLt.ne hlength

/-- A lone surrogate has no encoding. -/
theorem not_readResponse_encodeCommand :
    ¬ ∀ texts : List (List CodePoint), (encodeCommand (texts.map .text)).map readResponse =
      some (.ok (.list (texts.map .text), [])) := by
  intro hall
  have hnone := hall [[.surrogate 0]]
  cases hnone

end TradingPlatform.RedisClient

import TradingPlatform.Foundation.ByteReaders
import TradingPlatform.Foundation.Utf8

/-! # WebSocket frames

The client writes masked frames with the shortest length there is, and reads frames of
any length form, masked or not. A text is received as one or more data frames; a ping
that comes before the last of them is answered with a pong.
-/

namespace TradingPlatform.MarketData

open Reading Utf8

section Frames

/-- An exception. -/
inductive WebSocketError where
  | runtimeError (message : String)
  | unicodeDecodeError
  | overflowError
deriving DecidableEq, Repr

structure MaskKey where
  bytes : List UInt8
  length_eq : bytes.length = 4

/-- The bytes of a payload under a mask; a mask taken twice is taken off. -/
def applyMask (key : List UInt8) (payload : List UInt8) : List UInt8 :=
  payload.mapIdx fun index b => b ^^^ key.getD (index % 4) 0

def sendFrame (opcode : Nat) (payload : List UInt8) (maskKey : MaskKey) :
    Except WebSocketError (List UInt8) :=
  let finOpcode : UInt8 := 0x80 ||| UInt8.ofNat (opcode % 16)
  let length := payload.length
  let masked := maskKey.bytes ++ applyMask maskKey.bytes payload
  if length < 126 then .ok ([finOpcode, 0x80 ||| UInt8.ofNat length] ++ masked)
  else if length ≤ 0xFFFF then .ok ([finOpcode, 0x80 ||| 126] ++ bigEndian 2 length ++ masked)
  else if length < 256 ^ 8 then .ok ([finOpcode, 0x80 ||| 127] ++ bigEndian 8 length ++ masked)
  else .error .overflowError

structure Frame where
  opcode : Nat
  payload : List UInt8
  fin : Bool
deriving DecidableEq, Repr

def readExact (size : Nat) : Reader WebSocketError (List UInt8) :=
  takeExact (.runtimeError "unexpected websocket eof") size

/-- The length of a payload, from the seven bits in the header. -/
def recvLength (bits : Nat) : Reader WebSocketError Nat :=
  if bits = 126 then readExact 2 >>= fun bytes => pure (ofBigEndian bytes)
  else if bits = 127 then readExact 8 >>= fun bytes => pure (ofBigEndian bytes)
  else pure bits

def recvBytes (length : Nat) : Reader WebSocketError (List UInt8) :=
  if length = 0 then pure [] else readExact length

/-- The payload of a frame, after its mask if there is one. -/
def recvPayload (masked : Bool) (length : Nat) : Reader WebSocketError (List UInt8) :=
  if masked then
    readExact 4 >>= fun maskKey =>
      recvBytes length >>= fun payload => pure (applyMask maskKey payload)
  else recvBytes length

/-- The frame that a header announces. -/
def recvRest (first second : UInt8) : Reader WebSocketError Frame :=
  recvLength (second &&& 0x7F).toNat >>= fun length =>
    recvPayload (second &&& 0x80 != 0) length >>= fun payload =>
      pure ⟨(first &&& 0x0F).toNat, payload, first &&& 0x80 != 0⟩

def recvFrame : Reader WebSocketError Frame :=
  readExact 2 >>= fun header => recvRest (header.getD 0 0) (header.getD 1 0)

end Frames

section Conversations

/-- What the server has sent and was not read, and the frames that were sent to it. -/
structure Conversation where
  unread : List UInt8
  sent : List (List UInt8)

variable (maskKeys : Nat → MaskKey)

/-- Receive a text of which some fragments are there already. The bound is on the frames
that are looked at. -/
def recvLoop : (bound : Nat) → (opcode : Option Nat) → (fragments : List (List UInt8)) →
    Conversation → Except WebSocketError (List Char) × Conversation
  | 0, _, _, s => (.error (.runtimeError "unexpected websocket eof"), s)
  | bound + 1, opcode, fragments, s =>
      match recvFrame s.unread with
      | .error e => (.error e, s)
      | .ok (frame, left) =>
          let s := { s with unread := left }
          if frame.opcode = 0x9 then
            match sendFrame 0xA frame.payload (maskKeys s.sent.length) with
            | .error e => (.error e, s)
            | .ok pong => recvLoop bound opcode fragments { s with sent := s.sent ++ [pong] }
          else if frame.opcode = 0xA then recvLoop bound opcode fragments s
          else if frame.opcode = 0x8 then
            (.error (.runtimeError "websocket closed by server"), s)
          else if (frame.opcode = 0x1 ∨ frame.opcode = 0x2) ∧ opcode = none ∨
              frame.opcode = 0x0 ∧ opcode ≠ none then
            let fragments := fragments ++ [frame.payload]
            if frame.fin then ((decode? fragments.flatten).elim (.error .unicodeDecodeError) .ok, s)
            else recvLoop bound (opcode.or (some frame.opcode)) fragments s
          else
            (.error (.runtimeError ("unsupported websocket opcode: " ++ toString frame.opcode)), s)

/-- Receive a text. A frame has two bytes at least, so that there are no more frames than
bytes. -/
def recvText (s : Conversation) : Except WebSocketError (List Char) × Conversation :=
  recvLoop maskKeys (s.unread.length + 1) none [] s

end Conversations

section Wire

/-- The ways to write the length of a payload. -/
inductive LengthForm where
  | sevenBits
  | sixteenBits
  | sixtyFourBits
deriving DecidableEq, Repr

def LengthForm.bound : LengthForm → Nat
  | .sevenBits => 126
  | .sixteenBits => 256 ^ 2
  | .sixtyFourBits => 256 ^ 8

/-- The seven bits in the header. -/
def LengthForm.bits (form : LengthForm) (length : Nat) : Nat :=
  match form with
  | .sevenBits => length
  | .sixteenBits => 126
  | .sixtyFourBits => 127

/-- What follows the header. -/
def LengthForm.extended (form : LengthForm) (length : Nat) : List UInt8 :=
  match form with
  | .sevenBits => []
  | .sixteenBits => bigEndian 2 length
  | .sixtyFourBits => bigEndian 8 length

/-- The payload of a frame, and how it is written. -/
structure Body where
  payload : List UInt8
  form : LengthForm
  maskKey : Option MaskKey
  fits : payload.length < form.bound

def maskBytes (maskKey : Option MaskKey) : List UInt8 := maskKey.elim [] MaskKey.bytes

def Body.encode (body : Body) : List UInt8 :=
  body.form.extended body.payload.length ++ (maskBytes body.maskKey ++
    body.maskKey.elim body.payload fun key => applyMask key.bytes body.payload)

/-- A frame as it is written, of an opcode of four bits. -/
def encodeFrame (fin : Bool) (opcode : Fin 16) (body : Body) : List UInt8 :=
  [(if fin then 0x80 else 0) ||| UInt8.ofNat opcode,
    (if body.maskKey.isSome then 0x80 else 0) |||
      UInt8.ofNat (body.form.bits body.payload.length)] ++ body.encode

variable (fin : Bool) (opcode : Fin 16) (body : Body)

theorem first_and (fin : Bool) (opcode : Fin 16) :
    ((if fin then 0x80 else 0) ||| UInt8.ofNat opcode) &&& 0x80 = (if fin then 0x80 else 0) ∧
      (((if fin then 0x80 else 0) ||| UInt8.ofNat opcode) &&& 0x0F).toNat = opcode := by
  revert fin opcode
  decide +kernel

theorem second_and (masked : Bool) (bits : Fin 128) :
    ((if masked then 0x80 else 0) ||| UInt8.ofNat bits) &&& 0x80 = (if masked then 0x80 else 0) ∧
      (((if masked then 0x80 else 0) ||| UInt8.ofNat bits) &&& 0x7F).toNat = bits := by
  revert masked bits
  decide +kernel

theorem length_applyMask (key payload : List UInt8) :
    (applyMask key payload).length = payload.length := List.length_mapIdx

theorem getElem_applyMask {key payload : List UInt8} {index : Nat}
    (hmasked : index < (applyMask key payload).length) (hindex : index < payload.length) :
    (applyMask key payload)[index] = payload[index] ^^^ key.getD (index % 4) 0 :=
  List.getElem_mapIdx

theorem applyMask_applyMask (key payload : List UInt8) :
    applyMask key (applyMask key payload) = payload := by
  apply List.ext_getElem
  · rw [length_applyMask, length_applyMask]
  · intro index hleft hright
    have hmiddle : index < (applyMask key payload).length := by rwa [length_applyMask]
    rw [getElem_applyMask hleft hmiddle, getElem_applyMask hmiddle hright, UInt8.xor_assoc,
      UInt8.xor_self, UInt8.xor_zero]

theorem bits_lt (body : Body) : body.form.bits body.payload.length < 128 := by
  have hfits := body.fits
  cases hform : body.form with
  | sevenBits =>
      rw [hform] at hfits
      have hseven : body.payload.length < 126 := hfits
      exact Nat.lt_of_lt_of_le hseven (by decide)
  | sixteenBits => exact (by decide : 126 < 128)
  | sixtyFourBits => exact (by decide : 127 < 128)

theorem gives_recvLength (body : Body) :
    Gives (recvLength (body.form.bits body.payload.length))
      (body.form.extended body.payload.length) (.ok body.payload.length) := by
  have hfits := body.fits
  intro rest
  cases hform : body.form with
  | sevenBits =>
      rw [hform] at hfits
      have hseven : body.payload.length < 126 := hfits
      rw [LengthForm.bits, recvLength, if_neg (by omega), if_neg (by omega)]
      rfl
  | sixteenBits =>
      rw [hform] at hfits
      have hbytes : Gives (readExact 2) (bigEndian 2 body.payload.length) (.ok _) :=
        gives_takeExact _ (length_bigEndian 2 _)
      rw [LengthForm.bits, LengthForm.extended, recvLength, if_pos rfl, bind_of_ok (hbytes rest),
        ofBigEndian_bigEndian hfits]
      rfl
  | sixtyFourBits =>
      rw [hform] at hfits
      have hbytes : Gives (readExact 8) (bigEndian 8 body.payload.length) (.ok _) :=
        gives_takeExact _ (length_bigEndian 8 _)
      rw [LengthForm.bits, LengthForm.extended, recvLength, if_neg (by decide), if_pos rfl,
        bind_of_ok (hbytes rest), ofBigEndian_bigEndian hfits]
      rfl

theorem gives_recvBytes {length : Nat} {bytes : List UInt8} (hlength : bytes.length = length) :
    Gives (recvBytes length) bytes (.ok bytes) := by
  unfold recvBytes
  split
  next hempty =>
    rw [List.length_eq_zero_iff.mp (hlength.trans hempty)]
    exact gives_pure
  next => exact gives_takeExact _ hlength

theorem gives_recvPayload :
    Gives (recvPayload body.maskKey.isSome body.payload.length)
      (maskBytes body.maskKey ++ body.maskKey.elim body.payload fun key =>
        applyMask key.bytes body.payload) (.ok body.payload) := by
  intro rest
  cases body.maskKey with
  | none => exact gives_recvBytes rfl rest
  | some key =>
      have hmask : Gives (readExact 4) key.bytes (.ok key.bytes) := gives_takeExact _ key.length_eq
      have hmasked : Gives (recvBytes body.payload.length) (applyMask key.bytes body.payload)
          (.ok (applyMask key.bytes body.payload)) := gives_recvBytes (length_applyMask _ _)
      change (readExact 4 >>= _) (key.bytes ++ applyMask key.bytes body.payload ++ rest) = _
      rw [List.append_assoc, bind_of_ok (hmask _), bind_of_ok (hmasked rest)]
      change Except.ok (applyMask key.bytes (applyMask key.bytes body.payload), rest) = _
      rw [applyMask_applyMask]
      rfl

theorem bit_ne_zero (b : Bool) : ((if b then 0x80 else 0 : UInt8) != 0) = b := by
  cases b <;> rfl

/-- A frame is received as it was sent, and exactly its bytes are taken. -/
theorem gives_recvFrame :
    Gives recvFrame (encodeFrame fin opcode body) (.ok ⟨opcode, body.payload, fin⟩) := by
  intro rest
  obtain ⟨hfin, hopcode⟩ := first_and fin opcode
  obtain ⟨hmasked, hbits⟩ := second_and body.maskKey.isSome ⟨_, bits_lt body⟩
  have hheader : ∀ first second : UInt8,
      Gives (readExact 2) [first, second] (.ok [first, second]) := fun _ _ => gives_takeExact _ rfl
  unfold recvFrame encodeFrame
  rw [List.append_assoc, bind_of_ok (hheader _ _ _), List.getD_cons_zero, List.getD_cons_succ,
    List.getD_cons_zero]
  unfold recvRest
  rw [hmasked, hbits, hfin, hopcode, bit_ne_zero, bit_ne_zero, Body.encode, List.append_assoc,
    bind_of_ok (gives_recvLength body _), bind_of_ok (gives_recvPayload body rest)]
  rfl

theorem LengthForm.bound_le (form : LengthForm) : form.bound ≤ 2 ^ 64 := by
  cases form <;> decide

/-- What the client sends is the only frame of a message, under a mask. -/
theorem exists_sendFrame {payload : List UInt8} (hlength : payload.length < 2 ^ 64)
    (opcode : Fin 16) (maskKey : MaskKey) : ∃ body : Body, body.payload = payload ∧
      sendFrame opcode payload maskKey = .ok (encodeFrame true opcode body) := by
  unfold sendFrame
  rw [Nat.mod_eq_of_lt opcode.isLt]
  dsimp only
  by_cases hshort : payload.length < 126
  · rw [if_pos hshort]
    exact ⟨⟨payload, .sevenBits, some maskKey, hshort⟩, rfl, rfl⟩
  by_cases hmedium : payload.length ≤ 0xFFFF
  · rw [if_neg hshort, if_pos hmedium, List.append_assoc]
    exact ⟨⟨payload, .sixteenBits, some maskKey, Nat.lt_succ_of_le hmedium⟩, rfl, rfl⟩
  · have hlong : payload.length < 256 ^ 8 := by omega
    rw [if_neg hshort, if_neg hmedium, if_pos hlong, List.append_assoc]
    exact ⟨⟨payload, .sixtyFourBits, some maskKey, hlong⟩, rfl, rfl⟩

theorem sendFrame_eq_error {payload : List UInt8} (hlength : ¬ payload.length < 2 ^ 64)
    (opcode : Fin 16) (maskKey : MaskKey) :
    sendFrame opcode payload maskKey = .error .overflowError := by
  have hlong : ¬ payload.length < 256 ^ 8 := by omega
  unfold sendFrame
  dsimp only
  rw [if_neg (by omega), if_neg (by omega), if_neg hlong]

theorem recvFrame_sendFrame (opcode : Fin 16) (payload : List UInt8) (maskKey : MaskKey)
    (rest : List UInt8) :
    (sendFrame opcode payload maskKey).map (fun bytes => recvFrame (bytes ++ rest)) =
      if payload.length < 2 ^ 64 then .ok (.ok (⟨opcode, payload, true⟩, rest))
      else .error .overflowError := by
  split
  next hlength =>
    obtain ⟨body, rfl, hbody⟩ := exists_sendFrame hlength opcode maskKey
    rw [hbody]
    exact congrArg Except.ok (gives_recvFrame true opcode body rest)
  next hlength =>
    rw [sendFrame_eq_error hlength]
    rfl

end Wire

section Bounds

variable {maskKeys : Nat → MaskKey} {input left : List UInt8} {frame : Frame}

theorem local_recvBytes (length : Nat) : Local (recvBytes length) :=
  .ite (local_pure _) (local_takeExact _ _)

theorem local_recvRest (first second : UInt8) : Local (recvRest first second) := by
  refine Local.bind ?_ fun length => Local.bind ?_ fun _ => local_pure _
  · refine .ite ((local_takeExact _ _).bind fun _ => local_pure _) (.ite ?_ (local_pure _))
    exact (local_takeExact _ _).bind fun _ => local_pure _
  · refine .ite ((local_takeExact _ _).bind fun _ => ?_) (local_recvBytes _)
    exact (local_recvBytes _).bind fun _ => local_pure _

/-- A frame has a header of two bytes. -/
theorem length_lt_of_recvFrame (hread : recvFrame input = .ok (frame, left)) :
    left.length < input.length := by
  obtain ⟨header, body, hheader, hbody⟩ := bind_eq_ok hread
  have hrest := (local_recvRest _ _).length_le hbody
  unfold readExact takeExact at hheader
  split at hheader
  next hsize =>
    obtain ⟨-, rfl⟩ := Prod.mk.inj (Except.ok.inj hheader)
    rw [List.length_drop] at hrest
    omega
  next => cases hheader

/-- A bound above the number of bytes is as good as any other such bound. -/
theorem recvLoop_eq {bound bound' : Nat} {opcode : Option Nat} {fragments : List (List UInt8)}
    {s : Conversation} (hbound : s.unread.length < bound) (hbound' : s.unread.length < bound') :
    recvLoop maskKeys bound opcode fragments s = recvLoop maskKeys bound' opcode fragments s := by
  induction bound generalizing bound' opcode fragments s with
  | zero => exact absurd hbound (Nat.not_lt_zero _)
  | succ bound ih =>
      cases bound' with
      | zero => exact absurd hbound' (Nat.not_lt_zero _)
      | succ bound' =>
          rw [recvLoop, recvLoop]
          cases hread : recvFrame s.unread with
          | error e => rfl
          | ok pair =>
              obtain ⟨frame, left⟩ := pair
              have hleft := length_lt_of_recvFrame hread
              have hrest : ∀ opcode fragments sent,
                  recvLoop maskKeys bound opcode fragments ⟨left, sent⟩ =
                    recvLoop maskKeys bound' opcode fragments ⟨left, sent⟩ :=
                fun _ _ _ => ih (Nat.lt_of_lt_of_le hleft (Nat.le_of_lt_succ hbound))
                  (Nat.lt_of_lt_of_le hleft (Nat.le_of_lt_succ hbound'))
              dsimp only
              simp only [hrest]

end Bounds

section Messages

/-- A ping, or a pong the client has not asked for. -/
structure Control where
  isPing : Bool
  fin : Bool
  body : Body

def Control.encode (control : Control) : List UInt8 :=
  encodeFrame control.fin (if control.isPing then 0x9 else 0xA) control.body

/-- A data frame, and the control frames that come before it. -/
structure Fragment where
  controls : List Control
  body : Body

def encodeControls (controls : List Control) : List UInt8 := (controls.map Control.encode).flatten

/-- Fragments as they are written: the first of them names what they are, and the last of
them says that it is the last. -/
def encodeFragments (opcode : Fin 16) : List Fragment → List UInt8
  | [] => []
  | fragment :: rest => encodeControls fragment.controls ++
      (encodeFrame rest.isEmpty opcode fragment.body ++ encodeFragments 0 rest)

def pingsOf (controls : List Control) : List (List UInt8) :=
  (controls.filter Control.isPing).map (·.body.payload)

/-- A text as it is sent: as text or as bytes, in fragments that may split its characters. -/
structure Message (text : List Char) where
  binary : Bool
  fragments : List Fragment
  nonempty : fragments ≠ []
  carries : (fragments.map (·.body.payload)).flatten = encode text

variable {text : List Char}

def Message.encode (message : Message text) : List UInt8 :=
  encodeFragments (if message.binary then 0x2 else 0x1) message.fragments

/-- The payloads of the pings in a message. -/
def Message.pings (message : Message text) : List (List UInt8) :=
  message.fragments.flatMap fun fragment => pingsOf fragment.controls

/-- Each of these frames is a pong with the payload of a ping, in order. -/
def Answers (frames pings : List (List UInt8)) : Prop :=
  frames.map recvFrame = pings.map fun payload => .ok (⟨0xA, payload, true⟩, [])

theorem Answers.append {frames pings frames' pings' : List (List UInt8)}
    (hfirst : Answers frames pings) (hsecond : Answers frames' pings') :
    Answers (frames ++ frames') (pings ++ pings') := by
  unfold Answers
  rw [List.map_append, List.map_append, hfirst, hsecond]

end Messages

section Receiving

variable {maskKeys : Nat → MaskKey} {bound : Nat} {opcode : Option Nat}
  {fragments : List (List UInt8)} {rest : List UInt8} {sent : List (List UInt8)}

section OneFrame

variable {unread pong : List UInt8} {frame : Frame}

theorem recvLoop_ping (hread : recvFrame unread = .ok (frame, rest)) (hping : frame.opcode = 0x9)
    (hpong : sendFrame 0xA frame.payload (maskKeys sent.length) = .ok pong) :
    recvLoop maskKeys (bound + 1) opcode fragments ⟨unread, sent⟩ =
      recvLoop maskKeys bound opcode fragments ⟨rest, sent ++ [pong]⟩ := by
  rw [recvLoop, hread]
  dsimp only
  rw [if_pos hping, hpong]

theorem recvLoop_pong (hread : recvFrame unread = .ok (frame, rest)) (hpong : frame.opcode = 0xA) :
    recvLoop maskKeys (bound + 1) opcode fragments ⟨unread, sent⟩ =
      recvLoop maskKeys bound opcode fragments ⟨rest, sent⟩ := by
  rw [recvLoop, hread]
  dsimp only
  rw [if_neg (by omega), if_pos hpong]

/-- A data frame belongs to the message if it starts one, or goes on with one. -/
def Belongs (opcode : Option Nat) (frame : Frame) : Prop :=
  (frame.opcode = 0x1 ∨ frame.opcode = 0x2) ∧ opcode = none ∨ frame.opcode = 0x0 ∧ opcode ≠ none

theorem recvLoop_fragment (hread : recvFrame unread = .ok (frame, rest))
    (hbelongs : Belongs opcode frame) :
    recvLoop maskKeys (bound + 1) opcode fragments ⟨unread, sent⟩ =
      if frame.fin then
        ((decode? (fragments ++ [frame.payload]).flatten).elim (.error .unicodeDecodeError) .ok,
          ⟨rest, sent⟩)
      else recvLoop maskKeys bound (opcode.or (some frame.opcode)) (fragments ++ [frame.payload])
        ⟨rest, sent⟩ := by
  have hdata : frame.opcode ≤ 2 := by
    rcases hbelongs with ⟨hstart, -⟩ | ⟨hmore, -⟩ <;> omega
  rw [recvLoop, hread]
  dsimp only
  rw [if_neg (by omega), if_neg (by omega), if_neg (by omega)]
  exact if_pos hbelongs

end OneFrame

theorem recvFrame_encode (fin : Bool) (opcode : Fin 16) (body : Body) (rest : List UInt8) :
    recvFrame (encodeFrame fin opcode body ++ rest) = .ok (⟨opcode, body.payload, fin⟩, rest) :=
  gives_recvFrame fin opcode body rest

section Frames

variable (maskKeys bound opcode fragments rest sent)

/-- A control frame is answered if it is a ping, and changes nothing else. -/
theorem exists_recvLoop_control (control : Control) :
    ∃ pongs, Answers pongs (pingsOf [control]) ∧
      recvLoop maskKeys (bound + 1) opcode fragments ⟨control.encode ++ rest, sent⟩ =
        recvLoop maskKeys bound opcode fragments ⟨rest, sent ++ pongs⟩ := by
  obtain ⟨isPing, fin, body⟩ := control
  cases isPing with
  | true =>
      have hlength := Nat.lt_of_lt_of_le body.fits body.form.bound_le
      obtain ⟨answer, hpayload, hpong⟩ := exists_sendFrame hlength 0xA (maskKeys sent.length)
      have hanswer := recvFrame_encode true 0xA answer []
      rw [List.append_nil, hpayload] at hanswer
      exact ⟨[encodeFrame true 0xA answer], congrArg (fun read => [read]) hanswer,
        recvLoop_ping (recvFrame_encode fin 0x9 body rest) rfl hpong⟩
  | false =>
      refine ⟨[], rfl, ?_⟩
      rw [List.append_nil]
      exact recvLoop_pong (recvFrame_encode fin 0xA body rest) rfl

theorem pingsOf_cons (control : Control) (controls : List Control) :
    pingsOf (control :: controls) = pingsOf [control] ++ pingsOf controls := by
  obtain ⟨isPing, fin, body⟩ := control
  cases isPing <;> rfl

/-- The pings among control frames are answered in their order. -/
theorem exists_recvLoop_controls (controls : List Control) :
    ∃ pongs, Answers pongs (pingsOf controls) ∧
      recvLoop maskKeys (controls.length + bound) opcode fragments
        ⟨encodeControls controls ++ rest, sent⟩ =
          recvLoop maskKeys bound opcode fragments ⟨rest, sent ++ pongs⟩ := by
  induction controls generalizing sent with
  | nil => exact ⟨[], rfl, by rw [List.length_nil, Nat.zero_add, List.append_nil]; rfl⟩
  | cons control controls ih =>
      obtain ⟨first, hfirst, hstep⟩ := exists_recvLoop_control maskKeys (controls.length + bound)
        opcode fragments (encodeControls controls ++ rest) sent control
      obtain ⟨more, hmore, hrun⟩ := ih (sent ++ first)
      refine ⟨first ++ more, ?_, ?_⟩
      · rw [pingsOf_cons]
        exact hfirst.append hmore
      · rw [List.length_cons, Nat.add_right_comm, encodeControls, List.map_cons, List.flatten_cons,
          List.append_assoc, ← List.append_assoc sent]
        exact hstep.trans hrun

end Frames

/-- How many frames there are in fragments. -/
def frameCount : List Fragment → Nat
  | [] => 0
  | fragment :: rest => fragment.controls.length + 1 + frameCount rest

/-- A message is received up to its last fragment. -/
theorem exists_recvLoop_fragments (maskKeys : Nat → MaskKey) (rest : List UInt8)
    {more : List Fragment} (hmore : more ≠ []) {first : Fin 16}
    (hbelongs : ∀ payload fin, Belongs opcode ⟨first, payload, fin⟩) (bound : Nat)
    (fragments : List (List UInt8)) (sent : List (List UInt8)) :
    ∃ pongs, Answers pongs (more.flatMap fun fragment => pingsOf fragment.controls) ∧
      recvLoop maskKeys (frameCount more + bound) opcode fragments
        ⟨encodeFragments first more ++ rest, sent⟩ =
          ((decode? (fragments ++ more.map (·.body.payload)).flatten).elim
            (.error .unicodeDecodeError) .ok, ⟨rest, sent ++ pongs⟩) := by
  induction more generalizing opcode fragments first sent with
  | nil => exact absurd rfl hmore
  | cons fragment more ih =>
      obtain ⟨pongs, hpongs, hcontrols⟩ := exists_recvLoop_controls maskKeys
        (frameCount more + bound + 1) opcode fragments
        (encodeFrame more.isEmpty first fragment.body ++ encodeFragments 0 more ++ rest) sent
        fragment.controls
      have hcount : frameCount (fragment :: more) + bound =
          fragment.controls.length + (frameCount more + bound + 1) := by
        rw [frameCount]
        omega
      have hread := recvFrame_encode more.isEmpty first fragment.body
        (encodeFragments 0 more ++ rest)
      rw [← List.append_assoc] at hread
      rw [hcount, encodeFragments, List.append_assoc, List.flatMap_cons, List.map_cons]
      cases more with
      | nil =>
          refine ⟨pongs, by rwa [List.flatMap_nil, List.append_nil], hcontrols.trans ?_⟩
          exact recvLoop_fragment hread (hbelongs _ _)
      | cons next more =>
          have hnext : ∀ payload fin,
              Belongs (opcode.or (some first)) ⟨(0 : Fin 16), payload, fin⟩ :=
            fun _ _ => Or.inr ⟨rfl, by simp⟩
          obtain ⟨others, hothers, hrun⟩ := ih (List.cons_ne_nil next more) hnext
            (fragments ++ [fragment.body.payload]) (sent ++ pongs)
          refine ⟨pongs ++ others, hpongs.append hothers, hcontrols.trans ?_⟩
          rw [← List.append_assoc sent]
          rw [List.append_assoc] at hrun
          exact (recvLoop_fragment hread (hbelongs _ _)).trans hrun

theorem length_encodeControls (controls : List Control) :
    controls.length ≤ (encodeControls controls).length := by
  induction controls with
  | nil => exact Nat.le_refl 0
  | cons control controls ih =>
      unfold encodeControls at ih ⊢
      rw [List.map_cons, List.flatten_cons, List.length_append, List.length_cons]
      have hhead : 0 < control.encode.length := Nat.succ_pos _
      omega

theorem frameCount_le (first : Fin 16) (fragments : List Fragment) :
    frameCount fragments ≤ (encodeFragments first fragments).length := by
  induction fragments generalizing first with
  | nil => exact Nat.le_refl 0
  | cons fragment more ih =>
      have hcontrols := length_encodeControls fragment.controls
      have hframe : 0 < (encodeFrame more.isEmpty first fragment.body).length := Nat.succ_pos _
      have hmore := ih 0
      rw [frameCount, encodeFragments, List.length_append, List.length_append]
      omega

/-- A message is received as its text, with its pings answered and its bytes taken. -/
theorem exists_recvText {text : List Char} (message : Message text) (maskKeys : Nat → MaskKey)
    (sent : List (List UInt8)) (rest : List UInt8) :
    ∃ pongs, Answers pongs message.pings ∧
      recvText maskKeys ⟨message.encode ++ rest, sent⟩ = (.ok text, ⟨rest, sent ++ pongs⟩) := by
  have hbelongs : ∀ payload fin,
      Belongs none ⟨(if message.binary then 0x2 else 0x1 : Fin 16), payload, fin⟩ := by
    intro payload fin
    refine Or.inl ⟨?_, rfl⟩
    cases message.binary
    · exact Or.inl rfl
    · exact Or.inr rfl
  have hcount : frameCount message.fragments ≤ message.encode.length :=
    frameCount_le _ message.fragments
  have hbound : frameCount message.fragments ≤ (message.encode ++ rest).length + 1 := by
    rw [List.length_append]
    omega
  obtain ⟨extra, hextra⟩ := Nat.exists_eq_add_of_le hbound
  obtain ⟨pongs, hpongs, hrun⟩ := exists_recvLoop_fragments maskKeys rest message.nonempty hbelongs
    extra [] sent
  refine ⟨pongs, hpongs, ?_⟩
  rw [List.nil_append, message.carries, decode?_encode] at hrun
  rw [recvText, hextra]
  exact hrun

end Receiving

/-- A frame that is sent is received as it was, unless its payload is too long to be sent;
and a text is received from whatever fragments it comes in, every ping among them being
answered in order and exactly their bytes being taken. -/
theorem framing_correct :
    (∀ (opcode : Fin 16) (payload : List UInt8) (maskKey : MaskKey) (rest : List UInt8),
      (sendFrame opcode payload maskKey).map (fun bytes => recvFrame (bytes ++ rest)) =
        if payload.length < 2 ^ 64 then .ok (.ok (⟨opcode, payload, true⟩, rest))
        else .error .overflowError) ∧
    (∀ (text : List Char) (message : Message text) (maskKeys : Nat → MaskKey)
      (sent : List (List UInt8)) (rest : List UInt8),
      ∃ pongs, Answers pongs message.pings ∧
        recvText maskKeys ⟨message.encode ++ rest, sent⟩ = (.ok text, ⟨rest, sent ++ pongs⟩)) :=
  ⟨recvFrame_sendFrame, fun _ => exists_recvText⟩

/-- A letter of two bytes in two fragments, with a ping between them. -/
def splitLetter : Message [Char.ofNat 0xE9] where
  binary := false
  fragments :=
    [⟨[], ⟨[0xC3], .sevenBits, none, by decide⟩⟩,
      ⟨[⟨true, true, ⟨[0x70], .sevenBits, none, by decide⟩⟩],
        ⟨[0xA9], .sixteenBits, none, by decide⟩⟩]
  nonempty := by simp
  carries := by decide

/-- It is received whole, the ping is answered and the next frame is left unread. -/
example :
    let received := recvText (fun _ => ⟨[1, 2, 3, 4], rfl⟩) ⟨splitLetter.encode ++ [0x88, 0], []⟩
    received.1 = .ok [Char.ofNat 0xE9] ∧ received.2.unread = [0x88, 0] ∧
      received.2.sent = [[0x8A, 0x81, 1, 2, 3, 4, 0x71]] := by
  decide +kernel

end TradingPlatform.MarketData

import Mathlib.Data.List.Infix
import TradingPlatform.Foundation.ByteArrivals
import TradingPlatform.Foundation.Text
import TradingPlatform.MarketData.WebSocketFrames

/-! # WebSocket handshake

The client receives the response to its upgrade request in pieces until the end of the
header is among them, and reads frames from what arrives after these pieces. What the
last piece holds beyond the header is part of the response to it.
-/

namespace TradingPlatform.MarketData

open Reading Utf8

section Response

def headerEnd : List UInt8 := [13, 10, 13, 10]

/-- The response is received in pieces until the end of a header is in it. Each piece has
a byte at least, so that there are no more pieces than bytes. -/
def readHttpLoop : (bound : Nat) → (buffer : List UInt8) → List Chunk →
    Except WebSocketError (List UInt8 × List Chunk)
  | 0, buffer, sock => .ok (buffer, sock)
  | bound + 1, buffer, sock =>
      if headerEnd <:+: buffer then .ok (buffer, sock)
      else
        let received := receive 4096 sock
        if received.1.isEmpty then .ok (buffer, received.2)
        else
          let buffer := buffer ++ received.1
          if 65536 < buffer.length then
            .error (.runtimeError "websocket handshake response too large")
          else readHttpLoop bound buffer received.2

/-- The text of the response, and what is not received yet. -/
def readHttpResponse (sock : List Chunk) : Except WebSocketError (List Char × List Chunk) :=
  (readHttpLoop ((bytesOf sock).length + 1) [] sock).map fun result =>
    (decodeReplace result.1, result.2)

/-- The pieces between the line ends of a header, of which the first is begun already. -/
def headerLines (begun : List Char) : List Char → List (List Char)
  | [] => [begun.reverse]
  | '\r' :: '\n' :: rest => begun.reverse :: headerLines [] rest
  | c :: rest => headerLines (c :: begun) rest

/-- The fields of a header, last first, so that a later field hides an earlier one of its
name. -/
def parseHeaders (response : List Char) : List (String × String) :=
  ((headerLines [] response).drop 1).foldl (fun headers line =>
    match Text.partition ':' (String.ofList line) with
    | some (name, value) => (Text.lower (Text.strip name), Text.strip value) :: headers
    | none => headers) []

/-- The characters that end a line. -/
def isLineBreak (c : Char) : Bool :=
  let n := c.toNat
  (10 ≤ n && n ≤ 13) || (28 ≤ n && n ≤ 30) || n == 0x85 || n == 0x2028 || n == 0x2029

/-- The first line of a response, as failures report it. -/
def firstLine (response : List Char) : String :=
  if response.isEmpty then "empty response"
  else String.ofList (response.takeWhile fun c => !isLineBreak c)

/-- Connect on a socket: what is left to read from it once the server has accepted. -/
def connect (expectedAccept : String) (sock : List Chunk) : Except WebSocketError (List Chunk) :=
  (readHttpResponse sock).bind fun result =>
    let response := result.1
    if !Text.startsWith "HTTP/1.1 101" (String.ofList response) &&
        !Text.startsWith "HTTP/1.0 101" (String.ofList response) then
      .error (.runtimeError ("websocket handshake failed: " ++ firstLine response))
    else if ((parseHeaders response).lookup "sec-websocket-accept").getD "" ≠ expectedAccept then
      .error (.runtimeError "websocket handshake accept mismatch")
    else .ok result.2

end Response

section Frames

/-- A frame, read by whatever reads exact counts of bytes. -/
def recvFrameFrom {m : Type → Type} [Monad m] (readExact : Nat → m (List UInt8)) : m Frame :=
  readExact 2 >>= fun header =>
    let bits := (header.getD 1 0 &&& 0x7F).toNat
    let masked := header.getD 1 0 &&& 0x80 != 0
    (if bits = 126 then readExact 2 >>= fun bytes => pure (ofBigEndian bytes)
      else if bits = 127 then readExact 8 >>= fun bytes => pure (ofBigEndian bytes)
      else pure bits) >>= fun length =>
    (if masked then readExact 4 else pure []) >>= fun maskKey =>
    (if length = 0 then pure [] else readExact length) >>= fun payload =>
    pure ⟨(header.getD 0 0 &&& 0x0F).toNat,
      if masked then applyMask maskKey payload else payload, header.getD 0 0 &&& 0x80 != 0⟩

theorem recvFrameFrom_readExact : recvFrameFrom readExact = recvFrame := by
  unfold recvFrameFrom recvFrame
  refine congrArg (fun next : _ → Reader WebSocketError Frame => readExact 2 >>= next)
    (funext fun header => ?_)
  unfold recvRest recvLength recvPayload recvBytes
  refine congrArg (fun next : _ → Reader WebSocketError Frame => _ >>= next)
    (funext fun length => ?_)
  cases header.getD 1 0 &&& 0x80 != 0 with
  | true => simp only [if_true, bind_assoc, pure_bind]
  | false => simp only [Bool.false_eq_true, if_false, pure_bind]

/-- Read from the socket until so many bytes are there. -/
def readExactly (size : Nat) : StateT (List Chunk) (Except WebSocketError) (List UInt8) :=
  receiveExact (.runtimeError "unexpected websocket eof") size

/-- However the stream is cut, the frame that is read from the socket is the next one of
its bytes. -/
theorem mirrors_recvFrameFrom : Mirrors (recvFrameFrom readExactly) recvFrame := by
  have hexact : ∀ size, Mirrors (readExactly size) (readExact size) :=
    fun size => mirrors_receiveExact _ size
  rw [← recvFrameFrom_readExact]
  unfold recvFrameFrom
  refine (hexact 2).bind fun header => Mirrors.bind ?_ fun length => Mirrors.bind ?_ fun maskKey =>
    Mirrors.bind ?_ fun payload => .pure _
  · exact .ite ((hexact 2).bind fun _ => .pure _) (.ite ((hexact 8).bind fun _ => .pure _)
    (.pure _))
  · exact .ite (hexact 4) (.pure _)
  · exact .ite (.pure _) (hexact length)

/-- The frames that are read until the stream ends or a frame is cut short. -/
def recvFrames : (bound : Nat) → List Chunk → List Frame
  | 0, _ => []
  | bound + 1, sock =>
      match recvFrameFrom readExactly sock with
      | .error _ => []
      | .ok (frame, left) => frame :: recvFrames bound left

/-- All of them. A frame has two bytes at least, so that there are no more frames than bytes. -/
def allFrames (sock : List Chunk) : List Frame := recvFrames ((bytesOf sock).length + 1) sock

end Frames

section Server

/-- A frame that the server sends, and how it is written. -/
structure ServerFrame where
  fin : Bool
  opcode : Fin 16
  body : Body

def ServerFrame.bytes (frame : ServerFrame) : List UInt8 :=
  encodeFrame frame.fin frame.opcode frame.body

def ServerFrame.frame (frame : ServerFrame) : Frame :=
  ⟨frame.opcode, frame.body.payload, frame.fin⟩

/-- A frame that is written without a mask and with the shortest length there is. -/
structure ServerFrame.Shortest (frame : ServerFrame) : Prop where
  unmasked : frame.body.maskKey = none
  form : frame.body.form =
    if frame.body.payload.length < 126 then .sevenBits
    else if frame.body.payload.length < 256 ^ 2 then .sixteenBits
    else .sixtyFourBits

/-- A response: its header ends with it, and nowhere before. -/
structure ResponseHeader (header : List UInt8) : Prop where
  ends : headerEnd <:+ header
  first : ∀ front, front <+: header → headerEnd <:+: front → front = header

/-- Some receipts take all but what comes later: a piece ends where the response does. -/
def ArrivesApart (sock : List Chunk) (later : List UInt8) : Prop :=
  ∃ count, bytesOf ((drain 4096)^[count] sock) = later

end Server

section Lengths

variable {input left : List UInt8} {sock : List Chunk} {frame : Frame}

/-- How many bytes the length of a payload takes beyond the header, at the least. -/
def extendedLength (length : Nat) : Nat :=
  if length < 126 then 0 else if length < 256 ^ 2 then 2 else 8

/-- How many bytes a frame takes at the least. -/
def Frame.shortestLength (frame : Frame) : Nat :=
  2 + extendedLength frame.payload.length + frame.payload.length

/-- How many bytes frames take at the least. -/
def shortestLengths : List Frame → Nat
  | [] => 0
  | frame :: rest => frame.shortestLength + shortestLengths rest

theorem length_of_readExact {size : Nat} {bytes : List UInt8}
    (hread : readExact size input = .ok (bytes, left)) :
    bytes.length = size ∧ left.length + size = input.length := by
  unfold readExact takeExact at hread
  split at hread
  next hsize =>
    obtain ⟨rfl, rfl⟩ := Prod.mk.inj (Except.ok.inj hread)
    rw [List.length_take_of_le hsize, List.length_drop]
    omega
  next => cases hread

theorem length_of_recvBytes {size : Nat} {bytes : List UInt8}
    (hread : recvBytes size input = .ok (bytes, left)) :
    bytes.length = size ∧ left.length + size = input.length := by
  unfold recvBytes at hread
  split at hread
  next hzero =>
    obtain ⟨rfl, rfl⟩ := Prod.mk.inj (Except.ok.inj hread)
    rw [hzero]
    exact ⟨rfl, rfl⟩
  next => exact length_of_readExact hread

theorem length_of_recvPayload {masked : Bool} {size : Nat} {payload : List UInt8}
    (hread : recvPayload masked size input = .ok (payload, left)) :
    payload.length = size ∧ left.length + size ≤ input.length := by
  unfold recvPayload at hread
  split at hread
  · obtain ⟨maskKey, middle, hmask, hrest⟩ := bind_eq_ok hread
    obtain ⟨bytes, last, hbytes, hlast⟩ := bind_eq_ok hrest
    obtain ⟨rfl, rfl⟩ := Prod.mk.inj (Except.ok.inj hlast)
    have hfour := length_of_readExact hmask
    have hsize := length_of_recvBytes hbytes
    rw [length_applyMask]
    omega
  · have hsize := length_of_recvBytes hread
    exact ⟨hsize.1, hsize.2.le⟩

theorem ofBigEndian_lt (bytes : List UInt8) : ofBigEndian bytes < 256 ^ bytes.length := by
  induction bytes using List.reverseRecOn with
  | nil => exact Nat.one_pos
  | append_singleton front last ih =>
      have hlast := last.toNat_lt
      unfold ofBigEndian at ih ⊢
      rw [List.foldl_append, List.foldl_cons, List.foldl_nil, List.length_append,
        List.length_singleton, Nat.pow_succ]
      omega

theorem length_of_recvLength {bits length : Nat} (hbits : bits < 128)
    (hread : recvLength bits input = .ok (length, left)) :
    left.length + extendedLength length ≤ input.length := by
  unfold recvLength at hread
  split at hread
  · obtain ⟨bytes, middle, hbytes, hlast⟩ := bind_eq_ok hread
    obtain ⟨rfl, rfl⟩ := Prod.mk.inj (Except.ok.inj hlast)
    obtain ⟨hlength, hleft⟩ := length_of_readExact hbytes
    have hlt := ofBigEndian_lt bytes
    rw [hlength] at hlt
    unfold extendedLength
    rw [if_pos hlt]
    split <;> omega
  · split at hread
    · obtain ⟨bytes, middle, hbytes, hlast⟩ := bind_eq_ok hread
      obtain ⟨rfl, rfl⟩ := Prod.mk.inj (Except.ok.inj hlast)
      obtain ⟨-, hleft⟩ := length_of_readExact hbytes
      unfold extendedLength
      split
      · omega
      · split <;> omega
    · obtain ⟨rfl, rfl⟩ := Prod.mk.inj (Except.ok.inj hread)
      unfold extendedLength
      rw [if_pos (by omega)]
      exact Nat.le_refl _

/-- A frame takes the bytes of its shortest form at the least. -/
theorem shortestLength_le (hread : recvFrame input = .ok (frame, left)) :
    left.length + frame.shortestLength ≤ input.length := by
  obtain ⟨header, middle, hheader, hrest⟩ := bind_eq_ok hread
  obtain ⟨length, later, hlength, hbody⟩ := bind_eq_ok hrest
  obtain ⟨payload, last, hpayload, hlast⟩ := bind_eq_ok hbody
  obtain ⟨rfl, rfl⟩ := Prod.mk.inj (Except.ok.inj hlast)
  have hbits : (header.getD 1 0 &&& 0x7F).toNat < 128 := by
    rw [UInt8.toNat_and]
    exact Nat.lt_succ_of_le Nat.and_le_right
  have htwo := length_of_readExact hheader
  have hextended := length_of_recvLength hbits hlength
  obtain ⟨hsize, hleft⟩ := length_of_recvPayload hpayload
  unfold Frame.shortestLength
  rw [hsize]
  omega

/-- The frames that are read take their bytes from the stream. -/
theorem shortestLengths_le (bound : Nat) (sock : List Chunk) :
    shortestLengths (recvFrames bound sock) ≤ (bytesOf sock).length := by
  induction bound generalizing sock with
  | zero => exact Nat.zero_le _
  | succ bound ih =>
      unfold recvFrames
      split
      · exact Nat.zero_le _
      next frame left hread =>
        have hframe := shortestLength_le (mirrors_recvFrameFrom.eq_ok hread)
        have hrest := ih left
        rw [shortestLengths]
        omega

theorem ServerFrame.Shortest.length_bytes {frame : ServerFrame} (hshortest : frame.Shortest) :
    frame.bytes.length = frame.frame.shortestLength := by
  obtain ⟨hunmasked, hform⟩ := hshortest
  have hextended : (frame.body.form.extended frame.body.payload.length).length =
      extendedLength frame.body.payload.length := by
    rw [hform]
    unfold extendedLength
    split
    · rfl
    · split
      · exact length_bigEndian 2 _
      · exact length_bigEndian 8 _
  unfold ServerFrame.bytes encodeFrame Body.encode Frame.shortestLength ServerFrame.frame
  rw [hunmasked]
  dsimp only [maskBytes, Option.elim_none]
  rw [List.nil_append, List.length_append, List.length_append, hextended, ← Nat.add_assoc]
  rfl

theorem shortestLengths_of_sent {sent : List ServerFrame}
    (hshortest : ∀ frame ∈ sent, frame.Shortest) :
    shortestLengths (sent.map ServerFrame.frame) = (sent.flatMap ServerFrame.bytes).length := by
  induction sent with
  | nil => rfl
  | cons frame rest ih =>
      rw [List.map_cons, shortestLengths, List.flatMap_cons, List.length_append,
        (hshortest frame List.mem_cons_self).length_bytes,
        ih fun other hmem => hshortest other (List.mem_cons_of_mem _ hmem)]

/-- What the server sends is read frame by frame, however it is cut. -/
theorem recvFrames_of_sent {sent : List ServerFrame} {bound : Nat}
    (hsent : bytesOf sock = sent.flatMap ServerFrame.bytes)
    (hbound : (bytesOf sock).length < bound) :
    recvFrames bound sock = sent.map ServerFrame.frame := by
  induction sent generalizing bound sock with
  | nil =>
      cases bound with
      | zero => rfl
      | succ bound =>
          unfold recvFrames
          split
          · rfl
          next frame left hread =>
            have hframe := mirrors_recvFrameFrom.eq_ok hread
            rw [hsent] at hframe
            exact absurd (length_lt_of_recvFrame hframe) (Nat.not_lt_zero _)
  | cons frame rest ih =>
      cases bound with
      | zero => exact absurd hbound (Nat.not_lt_zero _)
      | succ bound =>
          have hnext : recvFrame (bytesOf sock) =
              .ok (frame.frame, rest.flatMap ServerFrame.bytes) := by
            rw [hsent, List.flatMap_cons]
            exact gives_recvFrame frame.fin frame.opcode frame.body _
          unfold recvFrames
          split
          next e hread =>
            rw [mirrors_recvFrameFrom.eq_error hread] at hnext
            cases hnext
          next read left hread =>
            rw [mirrors_recvFrameFrom.eq_ok hread] at hnext
            obtain ⟨rfl, hleft⟩ := Prod.mk.inj (Except.ok.inj hnext)
            have hlt := length_lt_of_recvFrame (mirrors_recvFrameFrom.eq_ok hread)
            rw [List.map_cons, ih hleft (by omega)]

end Lengths

section Unread

variable {expectedAccept : String} {header later : List UInt8} {sock left : List Chunk}

/-- The response that is read is the front of the stream, taken by as many receipts as it
takes to have the end of a header in it. -/
theorem readHttpLoop_eq_ok {bound : Nat} {buffer result : List UInt8}
    (hbound : (bytesOf sock).length < bound)
    (hloop : readHttpLoop bound buffer sock = .ok (result, left)) :
    ∃ count, left = (drain 4096)^[count] sock ∧
      result ++ bytesOf left = buffer ++ bytesOf sock ∧
      (headerEnd <:+: result ∨ bytesOf left = []) ∧
      ∀ earlier < count, ∀ front,
        front ++ bytesOf ((drain 4096)^[earlier] sock) = buffer ++ bytesOf sock →
          ¬headerEnd <:+: front := by
  induction bound generalizing buffer sock with
  | zero => exact absurd hbound (Nat.not_lt_zero _)
  | succ bound ih =>
      unfold readHttpLoop at hloop
      split at hloop
      next hfound =>
        obtain ⟨rfl, rfl⟩ := Prod.mk.inj (Except.ok.inj hloop)
        exact ⟨0, rfl, rfl, Or.inl hfound, fun _ hlt => absurd hlt (Nat.not_lt_zero _)⟩
      next hmissing =>
        have hnow : ∀ front, front ++ bytesOf sock = buffer ++ bytesOf sock →
            ¬headerEnd <:+: front :=
          fun front hfront => List.append_cancel_right hfront ▸ hmissing
        dsimp only at hloop
        split at hloop
        next hnil =>
          obtain ⟨rfl, rfl⟩ := Prod.mk.inj (Except.ok.inj hloop)
          have hempty := receive_eq_nil (by decide) (List.isEmpty_iff.mp hnil)
          have hafter := receive_bytes 4096 sock
          rw [hempty] at hafter ⊢
          rw [(List.append_eq_nil_iff.mp hafter).2]
          refine ⟨1, rfl, rfl, Or.inr rfl, fun earlier hlt front hfront => ?_⟩
          obtain rfl : earlier = 0 := by omega
          refine hnow front ?_
          rw [Function.iterate_zero_apply, hempty] at hfront
          rwa [hempty]
        next hsome =>
          split at hloop
          next => cases hloop
          next hsize =>
            have hpositive := List.length_pos_iff.mpr
              (List.isEmpty_eq_false_iff.mp (Bool.not_eq_true _ ▸ hsome))
            have hdrain := length_drain_add 4096 sock
            have hbytes := receive_bytes 4096 sock
            have hfewer : (bytesOf (receive 4096 sock).2).length < bound := by
              unfold drain at hdrain
              omega
            obtain ⟨count, hleft, hresult, hend, hearlier⟩ := ih hfewer hloop
            rw [List.append_assoc, hbytes] at hresult hearlier
            refine ⟨count + 1, hleft, hresult, hend, fun earlier hlt front hfront => ?_⟩
            cases earlier with
            | zero => exact hnow front hfront
            | succ earlier => exact hearlier earlier (by omega) front hfront

/-- The socket after connecting: what is unread is the end of what the server sent after
its response, and all of it where the response arrives apart. -/
theorem unread_of_connect (hheader : ResponseHeader header)
    (hstream : bytesOf sock = header ++ later) (hconnect : connect expectedAccept sock = .ok left) :
    bytesOf left <:+ later ∧ (bytesOf left = later ↔ ArrivesApart sock later) := by
  obtain ⟨result, hresult⟩ : ∃ result,
      readHttpLoop ((bytesOf sock).length + 1) [] sock = .ok (result, left) := by
    unfold connect readHttpResponse at hconnect
    cases hloop : readHttpLoop ((bytesOf sock).length + 1) [] sock with
    | error e =>
        rw [hloop] at hconnect
        cases hconnect
    | ok pair =>
        rw [hloop] at hconnect
        change (if _ then _ else if _ then _ else _) = _ at hconnect
        split at hconnect
        · cases hconnect
        · split at hconnect
          · cases hconnect
          · exact ⟨pair.1, by rw [← Except.ok.inj hconnect]⟩
  obtain ⟨count, hleft, hbytes, hend, hearlier⟩ := readHttpLoop_eq_ok (Nat.lt_succ_self _) hresult
  rw [List.nil_append, hstream] at hbytes hearlier
  have hprefix : header <+: result := by
    rcases hend with hfound | hnil
    · rcases List.prefix_or_prefix_of_prefix (List.prefix_append header later)
        (hbytes ▸ List.prefix_append result (bytesOf left)) with hle | hle
      · exact hle
      · exact (hheader.first result hle hfound).symm ▸ List.prefix_rfl
    · rw [hnil, List.append_nil] at hbytes
      exact hbytes ▸ List.prefix_append header later
  obtain ⟨lost, rfl⟩ := hprefix
  rw [List.append_assoc] at hbytes
  have hlater : lost ++ bytesOf left = later := List.append_cancel_left hbytes
  refine ⟨⟨lost, hlater⟩, fun hall => ⟨count, hleft ▸ hall⟩, fun ⟨other, hother⟩ => ?_⟩
  have hle : count ≤ other := by
    by_contra hlt
    exact hearlier other (by omega) header (by rw [hother]) hheader.ends.isInfix
  have hlength := length_iterate_drain_le 4096 (other - count) left
  rw [hleft, ← Function.iterate_add_apply, Nat.sub_add_cancel hle, hother, ← hleft, ← hlater,
    List.length_append] at hlength
  have hnil : lost = [] := List.length_eq_zero_iff.mp (by omega)
  rw [← hlater, hnil, List.nil_append]

end Unread

/-- Where the response arrives apart from what comes after it, connecting leaves exactly
the frames that the server sent. Frames of the shortest form are left whole there only:
what is left elsewhere has fewer bytes than they take. -/
theorem allFrames_connect {expectedAccept : String} {header : List UInt8}
    {sent : List ServerFrame} {sock left : List Chunk} (hheader : ResponseHeader header)
    (hstream : bytesOf sock = header ++ sent.flatMap ServerFrame.bytes)
    (hconnect : connect expectedAccept sock = .ok left) :
    (ArrivesApart sock (sent.flatMap ServerFrame.bytes) →
      allFrames left = sent.map ServerFrame.frame) ∧
    ((∀ frame ∈ sent, frame.Shortest) →
      (allFrames left = sent.map ServerFrame.frame ↔
        ArrivesApart sock (sent.flatMap ServerFrame.bytes))) := by
  obtain ⟨hsuffix, hiff⟩ := unread_of_connect hheader hstream hconnect
  have hwhole : ArrivesApart sock (sent.flatMap ServerFrame.bytes) →
      allFrames left = sent.map ServerFrame.frame := fun happart =>
    recvFrames_of_sent (hiff.mpr happart) (Nat.lt_succ_self _)
  refine ⟨hwhole, fun hshortest => ⟨fun hframes => hiff.mp ?_, hwhole⟩⟩
  have hread := shortestLengths_le ((bytesOf left).length + 1) left
  apply hsuffix.eq_of_length_le
  rw [← shortestLengths_of_sent hshortest, ← hframes]
  exact hread

section Response

/-- A response that accepts the upgrade. -/
def switchingProtocols : List UInt8 :=
  "HTTP/1.1 101\r\nSec-WebSocket-Accept: s3pPLMBiTxaQ9kYGzzhZRbK+xOo=\r\n\r\n".toList.map fun c =>
    UInt8.ofNat c.toNat

theorem responseHeader_switchingProtocols : ResponseHeader switchingProtocols := by
  refine ⟨by decide +kernel, fun front hprefix => ?_⟩
  have hall : ∀ front ∈ switchingProtocols.inits, headerEnd <:+: front →
      front = switchingProtocols := by
    decide +kernel
  exact hall front ((List.mem_inits _ _).mpr hprefix)

/-- A frame with the text of a greeting. -/
def greeting : ServerFrame := ⟨true, ⟨1, by decide⟩, ⟨[104, 105], .sevenBits, none, by decide⟩⟩

/-- The frame arrives after the response. -/
def greetingApart : List Chunk :=
  [⟨switchingProtocols, by decide +kernel⟩, ⟨greeting.bytes, by decide +kernel⟩]

/-- The frame arrives with the end of the response. -/
def greetingTogether : List Chunk := [⟨switchingProtocols ++ greeting.bytes, by decide +kernel⟩]

theorem allFrames_connect_apart :
    ∃ left, connect "s3pPLMBiTxaQ9kYGzzhZRbK+xOo=" greetingApart = .ok left ∧
      allFrames left = [greeting].map ServerFrame.frame := by
  have hstream : bytesOf greetingApart =
      switchingProtocols ++ [greeting].flatMap ServerFrame.bytes := by
    decide +kernel
  have hconnect : connect "s3pPLMBiTxaQ9kYGzzhZRbK+xOo=" greetingApart =
      .ok (drain 4096 greetingApart) := by
    decide +kernel
  exact ⟨_, hconnect,
    (allFrames_connect responseHeader_switchingProtocols hstream hconnect).1 ⟨1, by decide +kernel⟩⟩

/-- The client connects and has lost the frame. -/
theorem allFrames_connect_together :
    ResponseHeader switchingProtocols ∧
      bytesOf greetingTogether = switchingProtocols ++ [greeting].flatMap ServerFrame.bytes ∧
      ∃ left, connect "s3pPLMBiTxaQ9kYGzzhZRbK+xOo=" greetingTogether = .ok left ∧
        allFrames left ≠ [greeting].map ServerFrame.frame :=
  ⟨responseHeader_switchingProtocols, by decide +kernel, [], by decide +kernel, by decide +kernel⟩

end Response

end TradingPlatform.MarketData

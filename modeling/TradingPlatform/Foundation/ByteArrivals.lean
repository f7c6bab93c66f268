import Mathlib.Logic.Function.Iterate
import TradingPlatform.Foundation.ByteReaders

/-! # Arriving bytes

A stream arrives in pieces, and one receipt takes from the next piece at most. A reader
that receives until it has what it wants does to the pieces what a reader of bytes does
to their concatenation, however the stream is cut.
-/

namespace Reading

/-- A piece of a stream. -/
abbrev Chunk := {bytes : List UInt8 // bytes ≠ []}

/-- The bytes of the pieces that are there. -/
def bytesOf (chunks : List Chunk) : List UInt8 := chunks.flatMap Subtype.val

section Receipts

/-- Receive so many bytes at most: those of the next piece, and what is not wanted of it
stays. At the end of the stream there is nothing. -/
def receive (size : Nat) : List Chunk → List UInt8 × List Chunk
  | [] => ([], [])
  | chunk :: rest =>
      if hlong : size < chunk.val.length then
        (chunk.val.take size,
          ⟨chunk.val.drop size, fun hnil => by simp [List.drop_eq_nil_iff] at hnil; omega⟩ :: rest)
      else (chunk.val, rest)

variable {size : Nat} {chunks : List Chunk}

theorem receive_bytes (size : Nat) (chunks : List Chunk) :
    (receive size chunks).1 ++ bytesOf (receive size chunks).2 = bytesOf chunks := by
  cases chunks with
  | nil => rfl
  | cons chunk rest =>
      rw [receive]
      split
      · simp only [bytesOf, List.flatMap_cons]
        rw [← List.append_assoc, List.take_append_drop]
      · simp only [bytesOf, List.flatMap_cons]

theorem length_receive_le (size : Nat) (chunks : List Chunk) :
    (receive size chunks).1.length ≤ size := by
  cases chunks with
  | nil => exact Nat.zero_le _
  | cons chunk rest =>
      rw [receive]
      split
      · exact List.length_take_le _ _
      next hshort => exact Nat.not_lt.mp hshort

/-- Nothing is received at the end only. -/
theorem receive_eq_nil (hsize : 0 < size) (hnil : (receive size chunks).1 = []) :
    bytesOf chunks = [] := by
  cases chunks with
  | nil => rfl
  | cons chunk rest =>
      rw [receive] at hnil
      split at hnil
      next hlong =>
        have hlength := congrArg List.length hnil
        rw [List.length_take, List.length_nil] at hlength
        omega
      · exact absurd hnil chunk.property

/-- The pieces left after receipts of one size. -/
def drain (size : Nat) (chunks : List Chunk) : List Chunk := (receive size chunks).2

theorem length_drain_add (size : Nat) (chunks : List Chunk) :
    (receive size chunks).1.length + (bytesOf (drain size chunks)).length =
      (bytesOf chunks).length := by
  rw [← List.length_append]
  exact congrArg List.length (receive_bytes size chunks)

theorem length_iterate_drain_le (size count : Nat) (chunks : List Chunk) :
    (bytesOf ((drain size)^[count] chunks)).length ≤ (bytesOf chunks).length := by
  induction count generalizing chunks with
  | zero => exact Nat.le_refl _
  | succ count ih =>
      rw [Function.iterate_succ_apply]
      have hdrain : (bytesOf (drain size chunks)).length ≤ (bytesOf chunks).length :=
        (length_drain_add size chunks) ▸ Nat.le_add_left _ _
      exact Nat.le_trans (ih (drain size chunks)) hdrain

end Receipts

section Mirroring

variable {ε α β : Type}

/-- A reader of pieces does what a reader of bytes does to their concatenation. -/
def Mirrors (read : StateT (List Chunk) (Except ε) α) (other : Reader ε α) : Prop :=
  ∀ chunks, (read chunks).map (fun result => (result.1, bytesOf result.2)) = other (bytesOf chunks)

variable {read read' : StateT (List Chunk) (Except ε) α} {other other' : Reader ε α}

theorem Mirrors.pure (a : α) :
    Mirrors (pure a : StateT (List Chunk) (Except ε) α) (pure a) := fun _ => rfl

theorem Mirrors.bind {next : α → StateT (List Chunk) (Except ε) β} {next' : α → Reader ε β}
    (hread : Mirrors read other) (hnext : ∀ a, Mirrors (next a) (next' a)) :
    Mirrors (read >>= next) (other >>= next') := by
  intro chunks
  have hfirst := hread chunks
  change ((read chunks).bind fun result => next result.1 result.2).map _ = _
  cases hresult : read chunks with
  | error e =>
      rw [hresult] at hfirst
      exact (bind_of_error hfirst.symm).symm
  | ok result =>
      rw [hresult] at hfirst
      rw [bind_of_ok hfirst.symm]
      exact hnext result.1 result.2

theorem Mirrors.ite {c : Prop} [Decidable c] (hread : Mirrors read other)
    (hread' : Mirrors read' other') :
    Mirrors (if c then read else read') (if c then other else other') := by
  split
  · exact hread
  · exact hread'

theorem Mirrors.eq_ok {chunks left : List Chunk} {a : α} (hread : Mirrors read other)
    (hok : read chunks = .ok (a, left)) : other (bytesOf chunks) = .ok (a, bytesOf left) := by
  rw [← hread chunks, hok]
  rfl

theorem Mirrors.eq_error {chunks : List Chunk} {e : ε} (hread : Mirrors read other)
    (herror : read chunks = .error e) : other (bytesOf chunks) = .error e := by
  rw [← hread chunks, herror]
  rfl

end Mirroring

section Counting

variable {ε : Type} (short : ε)

/-- Receive until so many bytes are there; the end of the stream before that is an error.
A receipt brings one byte at least, so that there are no more receipts than bytes. -/
def receiveLoop (size : Nat) : (bound : Nat) → (payload : List UInt8) →
    StateT (List Chunk) (Except ε) (List UInt8)
  | 0, payload, chunks => .ok (payload, chunks)
  | bound + 1, payload, chunks =>
      if payload.length < size then
        let received := receive (size - payload.length) chunks
        if received.1.isEmpty then .error short
        else receiveLoop size bound (payload ++ received.1) received.2
      else .ok (payload, chunks)

def receiveExact (size : Nat) : StateT (List Chunk) (Except ε) (List UInt8) :=
  receiveLoop short size size []

/-- What is there already and what is received make up the front of the stream. -/
theorem receiveLoop_eq {size bound : Nat} {payload : List UInt8} {chunks : List Chunk}
    (hbound : size ≤ bound + payload.length) (hsize : payload.length ≤ size) :
    (receiveLoop short size bound payload chunks).map (fun result => (result.1, bytesOf result.2)) =
      takeExact short size (payload ++ bytesOf chunks) := by
  have hdone : ∀ chunks, payload.length = size →
      takeExact short size (payload ++ bytesOf chunks) = .ok (payload, bytesOf chunks) :=
    fun chunks hlength => gives_takeExact short hlength (bytesOf chunks)
  induction bound generalizing payload chunks with
  | zero => exact (hdone chunks (by omega)).symm
  | succ bound ih =>
      unfold receiveLoop
      split
      next hmissing =>
        dsimp only
        split
        next hnil =>
          have hempty := receive_eq_nil (Nat.sub_pos_of_lt hmissing) (List.isEmpty_iff.mp hnil)
          unfold takeExact
          rw [hempty, List.append_nil, if_neg (Nat.not_le.mpr hmissing)]
          rfl
        next hsome =>
          have hpositive := List.length_pos_iff.mpr
            (List.isEmpty_eq_false_iff.mp (by simpa using hsome))
          have hlength := length_receive_le (size - payload.length) chunks
          rw [ih (by rw [List.length_append]; omega) (by rw [List.length_append]; omega)
            fun chunks hlength => gives_takeExact short hlength (bytesOf chunks),
            List.append_assoc, receive_bytes]
      next hfull => exact (hdone chunks (by omega)).symm

theorem mirrors_receiveExact (size : Nat) :
    Mirrors (receiveExact short size) (takeExact short size) :=
  fun _ => receiveLoop_eq short (by simp) (Nat.zero_le _)

end Counting

end Reading

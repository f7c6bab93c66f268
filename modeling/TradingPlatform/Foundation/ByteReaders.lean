import Mathlib.Algebra.BigOperators.Group.List.Basic

/-! # Readers of bytes

A reader takes bytes off the front of a stream and gives a value with what is left of
it, or fails. A reader that looks no further than what it takes is not disturbed by
what follows, and fails where its text is cut short.
-/

namespace Reading

/-- A reader that may fail. -/
abbrev Reader (ε α : Type) := StateT (List UInt8) (Except ε) α

/-- What a reader makes of these bytes, whatever follows them: a value for which it takes
exactly them, or a failure. -/
def Gives {ε α : Type} (read : Reader ε α) (bytes : List UInt8) (result : Except ε α) : Prop :=
  ∀ rest, read (bytes ++ rest) = result.map (·, rest)

/-- A reader looks no further than what it takes. -/
def Local {ε α : Type} (read : Reader ε α) : Prop :=
  ∀ input a left, read input = .ok (a, left) →
    ∃ taken, input = taken ++ left ∧ Gives read taken (.ok a)

/-- Two readers do the same to streams up to a length. -/
def AgreeUpTo {ε α : Type} (length : Nat) (read other : Reader ε α) : Prop :=
  ∀ input : List UInt8, input.length ≤ length → read input = other input

section Sequencing

variable {ε α β : Type} {read : Reader ε α} {next : α → Reader ε β} {a : α} {e : ε}
  {bytes more input left : List UInt8} {result : Except ε α}

theorem bind_of_ok (hread : read input = .ok (a, left)) :
    (read >>= next) input = next a left := by
  change (read input).bind _ = _
  rw [hread]
  rfl

theorem bind_of_error (hread : read input = .error e) : (read >>= next) input = .error e := by
  change (read input).bind _ = _
  rw [hread]
  rfl

theorem bind_eq_ok {answer : β × List UInt8} (hboth : (read >>= next) input = .ok answer) :
    ∃ a left, read input = .ok (a, left) ∧ next a left = .ok answer := by
  cases hread : read input with
  | error e =>
      rw [bind_of_error hread] at hboth
      cases hboth
  | ok pair =>
      obtain ⟨a, left⟩ := pair
      rw [bind_of_ok hread] at hboth
      exact ⟨a, left, rfl, hboth⟩

theorem gives_pure : Gives (pure a : Reader ε α) [] (.ok a) := fun _ => rfl

/-- One reader after the other. -/
theorem Gives.bind (hread : Gives read bytes result) {answer : α → Except ε β}
    (hnext : ∀ a, result = .ok a → Gives (next a) more (answer a)) :
    Gives (read >>= next) (bytes ++ more) (result.bind answer) := by
  intro rest
  rw [List.append_assoc]
  cases result with
  | error e => exact bind_of_error (hread _)
  | ok a =>
      rw [bind_of_ok (hread _)]
      exact hnext a rfl rest

theorem local_pure (a : α) : Local (pure a : Reader ε α) := by
  intro input a' left hread
  obtain ⟨rfl, rfl⟩ := Prod.mk.inj (Except.ok.inj hread)
  exact ⟨[], rfl, gives_pure⟩

theorem local_throw (e : ε) : Local (throw e : Reader ε α) :=
  fun _ _ _ hread => nomatch hread

theorem Local.bind (hread : Local read) (hnext : ∀ a, Local (next a)) : Local (read >>= next) := by
  intro input b left hboth
  obtain ⟨a, middle, hfirst, hsecond⟩ := bind_eq_ok hboth
  obtain ⟨taken, rfl, htaken⟩ := hread _ _ _ hfirst
  obtain ⟨more, rfl, hmore⟩ := hnext a _ _ _ hsecond
  refine ⟨taken ++ more, (List.append_assoc ..).symm, ?_⟩
  change Gives _ _ ((Except.ok a : Except ε α).bind fun _ => .ok b)
  refine htaken.bind fun a' ha' => ?_
  rw [← Except.ok.inj ha']
  exact hmore

theorem Local.ite {c : Prop} [Decidable c] {other : Reader ε α} (hread : Local read)
    (hother : Local other) : Local (if c then read else other) := by
  split
  · exact hread
  · exact hother

theorem Local.length_le (hlocal : Local read) (hread : read input = .ok (a, left)) :
    left.length ≤ input.length := by
  obtain ⟨taken, rfl, -⟩ := hlocal _ _ _ hread
  rw [List.length_append]
  exact Nat.le_add_left _ _

end Sequencing

section Agreement

variable {ε α β : Type} {length : Nat} {read other : Reader ε α}

theorem AgreeUpTo.refl (read : Reader ε α) : AgreeUpTo length read read := fun _ _ => rfl

theorem AgreeUpTo.bind {next next' : α → Reader ε β} (hlocal : Local read)
    (hread : AgreeUpTo length read other) (hnext : ∀ a, AgreeUpTo length (next a) (next' a)) :
    AgreeUpTo length (read >>= next) (other >>= next') := by
  intro input hinput
  have hsame := hread input hinput
  cases hresult : read input with
  | error e => rw [bind_of_error hresult, bind_of_error (hsame ▸ hresult)]
  | ok pair =>
      obtain ⟨a, left⟩ := pair
      rw [bind_of_ok hresult, bind_of_ok (hsame ▸ hresult)]
      exact hnext a left (Nat.le_trans (hlocal.length_le hresult) hinput)

theorem AgreeUpTo.ite {c : Prop} [Decidable c] {read' other' : Reader ε α}
    (hread : AgreeUpTo length read other) (hread' : AgreeUpTo length read' other') :
    AgreeUpTo length (if c then read else read') (if c then other else other') := by
  split
  · exact hread
  · exact hread'

end Agreement

section Truncation

variable {ε α : Type} {read : Reader ε α} {result : Except ε α} {bytes cut : List UInt8}

/-- A text that is cut short is not read. -/
theorem Local.error_of_cut (hlocal : Local read) (hread : Gives read bytes result)
    (hcut : cut <+: bytes) (hne : cut ≠ bytes) : ∃ e, read cut = .error e := by
  cases hresult : read cut with
  | error e => exact ⟨e, rfl⟩
  | ok pair =>
      obtain ⟨b, left⟩ := pair
      obtain ⟨taken, rfl, htaken⟩ := hlocal _ _ _ hresult
      obtain ⟨missing, rfl⟩ := hcut
      have hwhole := hread []
      rw [List.append_assoc, List.append_assoc, htaken] at hwhole
      cases result with
      | error e => cases hwhole
      | ok a =>
          obtain ⟨-, hnil⟩ := Prod.mk.inj (Except.ok.inj hwhole)
          rw [List.append_nil] at hnil
          rw [(List.append_eq_nil_iff.mp hnil).2, List.append_nil] at hne
          exact absurd rfl hne

end Truncation

section Counting

variable {ε α : Type} (short : ε)

/-- Take so many bytes; fewer are an error. -/
def takeExact (size : Nat) : Reader ε (List UInt8) := fun input =>
  if size ≤ input.length then .ok (input.take size, input.drop size) else .error short

theorem gives_takeExact {size : Nat} {bytes : List UInt8} (hsize : bytes.length = size) :
    Gives (takeExact short size) bytes (.ok bytes) := by
  intro rest
  unfold takeExact
  rw [← hsize, if_pos (by simp), List.take_left, List.drop_left]
  rfl

theorem local_takeExact (size : Nat) : Local (takeExact short size) := by
  intro input a left hread
  unfold takeExact at hread
  split at hread
  next hsize =>
    obtain ⟨rfl, rfl⟩ := Prod.mk.inj (Except.ok.inj hread)
    refine ⟨input.take size, (List.take_append_drop ..).symm, gives_takeExact short ?_⟩
    exact List.length_take_of_le hsize
  next => cases hread

/-- Read so many values, one after the other. -/
def readMany (read : Reader ε α) : Nat → Reader ε (List α)
  | 0 => pure []
  | count + 1 => read >>= fun first => readMany read count >>= fun rest => pure (first :: rest)

variable {read other : Reader ε α}

theorem local_readMany (hread : Local read) (count : Nat) : Local (readMany read count) := by
  induction count with
  | zero => exact local_pure []
  | succ count ih => exact hread.bind fun _ => ih.bind fun _ => local_pure _

theorem AgreeUpTo.readMany {length : Nat} (hlocal : Local read)
    (hread : AgreeUpTo length read other) (count : Nat) :
    AgreeUpTo length (readMany read count) (readMany other count) := by
  induction count with
  | zero => exact .refl _
  | succ count ih =>
      exact hread.bind hlocal fun _ => ih.bind (local_readMany hlocal count) fun _ => .refl _

end Counting

section BigEndian

/-- The last bytes of a number, the most significant of them first. -/
def bigEndian : (width : Nat) → (n : Nat) → List UInt8
  | 0, _ => []
  | width + 1, n => bigEndian width (n / 256) ++ [UInt8.ofNat (n % 256)]

def ofBigEndian (bytes : List UInt8) : Nat := bytes.foldl (fun n b => n * 256 + b.toNat) 0

theorem length_bigEndian (width n : Nat) : (bigEndian width n).length = width := by
  induction width generalizing n with
  | zero => rfl
  | succ width ih => rw [bigEndian, List.length_append, ih, List.length_singleton]

theorem ofBigEndian_bigEndian {width n : Nat} (hn : n < 256 ^ width) :
    ofBigEndian (bigEndian width n) = n := by
  induction width generalizing n with
  | zero => exact (Nat.lt_one_iff.mp hn).symm
  | succ width ih =>
      have hfront : n / 256 < 256 ^ width := by
        rw [Nat.pow_succ] at hn
        exact Nat.div_lt_of_lt_mul (by rwa [Nat.mul_comm])
      have hlast : (UInt8.ofNat (n % 256)).toNat = n % 256 := by
        rw [UInt8.toNat_ofNat']
        exact Nat.mod_eq_of_lt (Nat.mod_lt _ (by decide))
      have hvalue := ih hfront
      unfold ofBigEndian at hvalue ⊢
      rw [bigEndian, List.foldl_append, hvalue, List.foldl_cons, List.foldl_nil, hlast]
      omega

end BigEndian

end Reading

import TradingPlatform.Recovery.Commands

/-! # A program by itself

A program of the recovery service performed from its first operation to its last.
Each operation finds surroundings of its own, and others may have changed the
state before it.
-/

namespace TradingPlatform.Recovery

open Programs Program TradingPlatform.Runtime RecoveryProgram

/-- What a program meets on its way: the surroundings of its n-th operation, and
what others do to the state just before it. -/
structure Course where
  around : Nat → Surroundings
  meanwhile : Nat → RecoveryState → RecoveryState := fun _ s => s

namespace Course

variable (setup : RecoverySetup) (course : Course)

/-- An operation in its turn. -/
def exec (op : RecoveryOp) (s : RecoveryState × Nat) : op.Reply × RecoveryState × Nat :=
  let performed := op.exec setup (course.around s.2) (course.meanwhile s.2 s.1)
  (performed.1, performed.2, s.2 + 1)

/-- How a program ends that begins at a turn. -/
def run {α : Type} (p : RecoveryProgram α) (s : RecoveryState × Nat) :
    Except String α × RecoveryState × Nat :=
  p.run (course.exec setup) s

/-- Nobody else changes the state. -/
def Undisturbed : Prop := ∀ turn s, course.meanwhile turn s = s

/-- A scan comes upon every key that is there all the time. -/
def ScansAll : Prop := ∀ turn keys, keys ⊆ (course.around turn).scan keys

/-- The keys a scan answers at a turn. -/
def scanned (turn : Nat) (s : RecoveryState) : List String :=
  (course.around turn).scanned s.redis.recoveryTraces.keys

/-- The traces that are read for keys, one turn for each. -/
def readTraces (s : RecoveryState) : Nat → List String → List Dict
  | _, [] => []
  | turn, key :: rest =>
      (if (course.around turn).redisFails then none
        else s.redis.getRecoveryTrace key).toList ++ readTraces s (turn + 1) rest

/-- One of the keys is read, and a trace is found there that is wanted. -/
def Reads (s : RecoveryState) (turn : Nat) (keys : List String) (wanted : Dict → Bool) : Prop :=
  ∃ i key, keys[i]? = some key ∧ (course.around (turn + i)).redisFails = false ∧
    ∃ trace, s.redis.getRecoveryTrace key = some trace ∧ wanted trace

variable {setup course} {s : RecoveryState} {turn : Nat}

theorem reads_cons {key : String} {rest : List String} {wanted : Dict → Bool} :
    course.Reads s turn (key :: rest) wanted ↔
      ((course.around turn).redisFails = false ∧
        ∃ trace, s.redis.getRecoveryTrace key = some trace ∧ wanted trace) ∨
      course.Reads s (turn + 1) rest wanted := by
  constructor
  · rintro ⟨i, found, hkey, hreads⟩
    cases i with
    | zero =>
        obtain rfl : key = found := by simpa using hkey
        exact Or.inl hreads
    | succ i =>
        refine Or.inr ⟨i, found, by simpa using hkey, ?_⟩
        rwa [Nat.add_assoc, Nat.add_comm 1 i]
  · rintro (hreads | ⟨i, found, hkey, hreads⟩)
    · exact ⟨0, key, rfl, hreads⟩
    · refine ⟨i + 1, found, by simpa using hkey, ?_⟩
      rwa [Nat.add_assoc, Nat.add_comm 1 i] at hreads

/-- What is wanted among the traces that are read was read for one of the keys. -/
theorem filter_readTraces_ne_nil {keys : List String} {wanted : Dict → Bool} :
    (course.readTraces s turn keys).filter wanted ≠ [] ↔ course.Reads s turn keys wanted := by
  induction keys generalizing turn with
  | nil => simp [readTraces, Reads]
  | cons key rest ih =>
      rw [reads_cons, ← ih, readTraces, List.filter_append, ne_eq, List.append_eq_nil_iff,
        not_and_or]
      apply or_congr _ Iff.rfl
      cases (course.around turn).redisFails <;>
        cases s.redis.getRecoveryTrace key <;> simp

/-- The next operation, and then the rest. -/
theorem run_ask_bind {α : Type} (op : RecoveryOp) (f : op.Reply → RecoveryProgram α) :
    course.run setup (ask op >>= f) (s, turn) =
      course.run setup (f (op.exec setup (course.around turn) (course.meanwhile turn s)).1)
        ((op.exec setup (course.around turn) (course.meanwhile turn s)).2, turn + 1) := rfl

theorem run_operation_undisturbed (halone : course.Undisturbed) (op : RecoveryOp) :
    course.run setup (ask op) (s, turn) =
      (.ok (op.exec setup (course.around turn) s).1,
        (op.exec setup (course.around turn) s).2, turn + 1) := by
  simp only [run, ask, run_operation, exec, halone turn s]

theorem run_collect (halone : course.Undisturbed) (keys : List String) :
    course.run setup (collect keys getRecoveryTrace) (s, turn) =
      (.ok (course.readTraces s turn keys), s, turn + keys.length) := by
  induction keys generalizing turn with
  | nil => rfl
  | cons key rest ih =>
      have hfirst := @run_operation_undisturbed setup course s turn halone
        (.getTrace key)
      have hrest := @ih (turn + 1)
      unfold run at hfirst hrest ⊢
      rw [collect]
      refine (run_bind_ok hfirst).trans ?_
      refine (run_bind_ok hrest).trans ?_
      rw [List.length_cons, Nat.add_assoc, Nat.add_comm 1]
      rfl

section Completion

variable (setup : RecoverySetup) (course : Course) {α β ι : Type}

/-- Wherever it begins, the program ends without an exception and with what is promised. -/
def Completes (p : RecoveryProgram α) (promise : α → Prop) : Prop :=
  ∀ s turn, ∃ value after, course.run setup p (s, turn) = (.ok value, after) ∧ promise value

variable {setup course}

theorem completes_pure {value : α} {promise : α → Prop} (hvalue : promise value) :
    course.Completes setup (pure value) promise :=
  fun s turn => ⟨value, (s, turn), rfl, hvalue⟩

theorem completes_ask {op : RecoveryOp} {promise : op.Reply → Prop}
    (hreply : ∀ s turn, promise (op.exec setup (course.around turn) s).1) :
    course.Completes setup (ask op) promise :=
  fun _ turn => ⟨_, _, rfl, hreply _ turn⟩

theorem Completes.bind {p : RecoveryProgram β} {f : β → RecoveryProgram α} {middle : β → Prop}
    {promise : α → Prop} (hp : course.Completes setup p middle)
    (hf : ∀ value, middle value → course.Completes setup (f value) promise) :
    course.Completes setup (p >>= f) promise := by
  intro s turn
  obtain ⟨value, after, hrun, hmiddle⟩ := hp s turn
  obtain ⟨last, final, hrest, hpromise⟩ := hf value hmiddle after.1 after.2
  exact ⟨last, final, (run_bind_ok hrun).trans hrest, hpromise⟩

/-- Ask and go on with any answer. -/
theorem completes_ask_bind {op : RecoveryOp} {f : op.Reply → RecoveryProgram α}
    {promise : α → Prop} (hf : ∀ reply, course.Completes setup (f reply) promise) :
    course.Completes setup (ask op >>= f) promise :=
  Completes.bind (completes_ask fun _ _ => trivial : course.Completes setup (ask op) fun _ => True)
    fun reply _ => hf reply

end Completion

end Course

end TradingPlatform.Recovery

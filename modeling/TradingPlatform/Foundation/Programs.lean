import Mathlib.Data.List.Basic
import Mathlib.Logic.Function.Basic

/-! # Programs and the operations they perform

A program performs one operation after another and goes on with the answers. A
contract says which operations a program may perform and which answers it may
count on; a ghost state keeps track of what was done. Programs that share a
state take turns, one operation at a time: each keeps its contract as long as
the others leave the ghost state where it still does.
-/

namespace Programs

inductive Program (Op : Type) (Reply : Op → Type) (α : Type) where
  | done (value : α)
  | raised (text : String)
  | perform (op : Op) (next : Reply op → Program Op Reply α)

variable {Op : Type} {Reply : Op → Type} {α β ι State Ghost : Type}

namespace Program

def bind : Program Op Reply α → (α → Program Op Reply β) → Program Op Reply β
  | done value, f => f value
  | raised text, _ => raised text
  | perform op next, f => perform op fun reply => (next reply).bind f

instance instMonad : Monad (Program Op Reply) where
  pure := done
  bind := bind

/-- Perform a single operation. -/
def operation (op : Op) : Program Op Reply (Reply op) := perform op done

/-- Go on with a handler after an exception. -/
def rescue : Program Op Reply α → (String → Program Op Reply α) → Program Op Reply α
  | done value, _ => done value
  | raised text, handler => handler text
  | perform op next, handler => perform op fun reply => (next reply).rescue handler

def forEach : List ι → (ι → Program Op Reply Unit) → Program Op Reply Unit
  | [], _ => done ()
  | item :: rest, body => body item >>= fun _ => forEach rest body

/-- What is found for the items, in their order. -/
def collect : List ι → (ι → Program Op Reply (Option β)) → Program Op Reply (List β)
  | [], _ => done []
  | item :: rest, body =>
      body item >>= fun found => collect rest body >>= fun others => done (found.toList ++ others)

/-- Every operation of a program, one after the other without interruption. -/
def run (exec : (op : Op) → State → Reply op × State) :
    Program Op Reply α → State → Except String α × State
  | done value, s => (.ok value, s)
  | raised text, s => (.error text, s)
  | perform op next, s => (next (exec op s).1).run exec (exec op s).2

theorem bind_assoc {γ : Type} (p : Program Op Reply α) (f : α → Program Op Reply β)
    (g : β → Program Op Reply γ) : p >>= f >>= g = p >>= fun value => f value >>= g := by
  induction p with
  | done value => rfl
  | raised text => rfl
  | perform op next ih => exact congrArg (perform op) (funext ih)

section Run

variable {exec : (op : Op) → State → Reply op × State} {p : Program Op Reply α} {s after : State}
  {text : String}

@[simp] theorem run_pure (value : α) :
    (pure value : Program Op Reply α).run exec s = (.ok value, s) := rfl

@[simp] theorem run_raised : (raised text : Program Op Reply α).run exec s = (.error text, s) := rfl

@[simp] theorem run_operation (op : Op) :
    (operation op : Program Op Reply (Reply op)).run exec s =
      (.ok (exec op s).1, (exec op s).2) := rfl

/-- A program that ends normally hands its value on. -/
theorem run_bind_ok {f : α → Program Op Reply β} {value : α}
    (hrun : p.run exec s = (.ok value, after)) :
    (p >>= f).run exec s = (f value).run exec after := by
  induction p generalizing s with
  | done found =>
      obtain ⟨hvalue, hafter⟩ := Prod.mk.inj hrun
      rw [← Except.ok.inj hvalue, ← hafter]
      rfl
  | raised text => cases hrun
  | perform op next ih => exact ih _ hrun

/-- An exception ends the whole program. -/
theorem run_bind_error {f : α → Program Op Reply β} (hrun : p.run exec s = (.error text, after)) :
    (p >>= f).run exec s = (.error text, after) := by
  induction p generalizing s with
  | done found => cases hrun
  | raised found =>
      obtain ⟨htext, hafter⟩ := Prod.mk.inj hrun
      rw [← Except.error.inj htext, ← hafter]
      rfl
  | perform op next ih => exact ih _ hrun

theorem run_rescue_ok {handler : String → Program Op Reply α} {value : α}
    (hrun : p.run exec s = (.ok value, after)) :
    (p.rescue handler).run exec s = (.ok value, after) := by
  induction p generalizing s with
  | done found => exact hrun
  | raised found => cases hrun
  | perform op next ih => exact ih _ hrun

theorem run_rescue_error {handler : String → Program Op Reply α}
    (hrun : p.run exec s = (.error text, after)) :
    (p.rescue handler).run exec s = (handler text).run exec after := by
  induction p generalizing s with
  | done found => cases hrun
  | raised found =>
      obtain ⟨htext, hafter⟩ := Prod.mk.inj hrun
      rw [← Except.error.inj htext, ← hafter]
      rfl
  | perform op next ih => exact ih _ hrun

/-- A handler that does nothing leaves what the program left. -/
theorem run_rescue_skip {p : Program Op Reply Unit} :
    ((p.rescue fun _ => pure ()).run exec s).2 = (p.run exec s).2 := by
  cases hrun : p.run exec s with
  | mk outcome after =>
      cases outcome with
      | ok value => rw [run_rescue_ok hrun]
      | error text =>
          rw [run_rescue_error hrun]
          rfl

end Run

section Kinds

/-- Whatever it is answered, the program performs operations of one kind only. -/
def Performs (allowed : Op → Prop) : Program Op Reply α → Prop
  | done _ | raised _ => True
  | perform op next => allowed op ∧ ∀ reply, (next reply).Performs allowed

variable {allowed : Op → Prop}

theorem performs_pure (value : α) : (pure value : Program Op Reply α).Performs allowed := trivial

theorem performs_raised (text : String) : (raised text : Program Op Reply α).Performs allowed :=
  trivial

theorem performs_perform {op : Op} {next : Reply op → Program Op Reply α} :
    (perform op next).Performs allowed ↔ allowed op ∧ ∀ reply, (next reply).Performs allowed :=
  Iff.rfl

theorem performs_operation {op : Op} (hop : allowed op) :
    (operation op : Program Op Reply (Reply op)).Performs allowed :=
  ⟨hop, fun _ => trivial⟩

theorem Performs.bind {p : Program Op Reply β} {f : β → Program Op Reply α}
    (hp : p.Performs allowed) (hf : ∀ value, (f value).Performs allowed) :
    (p >>= f).Performs allowed := by
  induction p with
  | done value => exact hf value
  | raised text => trivial
  | perform op next ih => exact ⟨hp.1, fun reply => ih reply (hp.2 reply)⟩

/-- What every operation of the kind does to the state, a run of them does. -/
theorem Performs.run {exec : (op : Op) → State → Reply op × State} {p : Program Op Reply α}
    {related : State → State → Prop} (hp : p.Performs allowed) (hrefl : ∀ s, related s s)
    (htrans : ∀ s middle after, related s middle → related middle after → related s after)
    (hexec : ∀ op s, allowed op → related s (exec op s).2) (s : State) :
    related s (p.run exec s).2 := by
  induction p generalizing s with
  | done value => exact hrefl s
  | raised text => exact hrefl s
  | perform op next ih =>
      apply htrans s (exec op s).2
      · exact hexec op s hp.1
      · exact ih _ (hp.2 _) _

-- The rules above are all a proof needs; unfolding would run the program.
attribute [irreducible] Performs

end Kinds

end Program

section Contracts

structure Contract (Op : Type) (Reply : Op → Type) (Ghost : Type) where
  permits : Ghost → Op → Prop
  answers : Ghost → (op : Op) → Reply op → Prop
  advance : Ghost → (op : Op) → Reply op → Ghost

namespace Program

/-- Whatever it is answered, the program performs what the contract permits and
ends with what is promised. -/
def Keeps (c : Contract Op Reply Ghost) (promise : α → Ghost → Prop) :
    Program Op Reply α → Ghost → Prop
  | done value, ghost => promise value ghost
  | raised _, _ => True
  | perform op next, ghost => c.permits ghost op ∧
      ∀ reply, c.answers ghost op reply → (next reply).Keeps c promise (c.advance ghost op reply)

variable {c : Contract Op Reply Ghost} {promise weaker : α → Ghost → Prop} {ghost : Ghost}

@[simp] theorem keeps_pure {value : α} :
    (pure value : Program Op Reply α).Keeps c promise ghost ↔ promise value ghost := Iff.rfl

@[simp] theorem keeps_done {value : α} :
    (done value : Program Op Reply α).Keeps c promise ghost ↔ promise value ghost := Iff.rfl

@[simp] theorem keeps_raised {text : String} :
    (raised text : Program Op Reply α).Keeps c promise ghost := trivial

theorem keeps_perform {op : Op} {next : Reply op → Program Op Reply α} :
    (perform op next).Keeps c promise ghost ↔ c.permits ghost op ∧
      ∀ reply, c.answers ghost op reply →
        (next reply).Keeps c promise (c.advance ghost op reply) := Iff.rfl

theorem keeps_operation {op : Op} {promise : Reply op → Ghost → Prop} :
    (operation op).Keeps c promise ghost ↔ c.permits ghost op ∧
      ∀ reply, c.answers ghost op reply → promise reply (c.advance ghost op reply) := Iff.rfl

theorem Keeps.mono {p : Program Op Reply α} (hkeeps : p.Keeps c promise ghost)
    (hweaker : ∀ value ghost, promise value ghost → weaker value ghost) :
    p.Keeps c weaker ghost := by
  induction p generalizing ghost with
  | done value => exact hweaker value ghost hkeeps
  | raised text => trivial
  | perform op next ih =>
      exact ⟨hkeeps.1, fun reply hreply => ih reply (hkeeps.2 reply hreply)⟩

/-- The rule of sequencing. -/
theorem keeps_bind {p : Program Op Reply β} {f : β → Program Op Reply α} :
    (p >>= f).Keeps c promise ghost ↔
      p.Keeps c (fun value after => (f value).Keeps c promise after) ghost := by
  induction p generalizing ghost with
  | done value => exact Iff.rfl
  | raised text => exact Iff.rfl
  | perform op next ih =>
      apply and_congr Iff.rfl
      exact forall₂_congr fun reply _ => ih reply

theorem Keeps.bind {p : Program Op Reply β} {f : β → Program Op Reply α}
    {middle : β → Ghost → Prop} (hfirst : p.Keeps c middle ghost)
    (hrest : ∀ value after, middle value after → (f value).Keeps c promise after) :
    (p >>= f).Keeps c promise ghost :=
  keeps_bind.mpr (hfirst.mono hrest)

theorem Keeps.rescue {p : Program Op Reply α} {handler : String → Program Op Reply α}
    (hkeeps : p.Keeps c promise ghost)
    (hhandler : ∀ text after, (handler text).Keeps c promise after) :
    (p.rescue handler).Keeps c promise ghost := by
  induction p generalizing ghost with
  | done value => exact hkeeps
  | raised text => exact hhandler text ghost
  | perform op next ih =>
      exact ⟨hkeeps.1, fun reply hreply => ih reply (hkeeps.2 reply hreply)⟩

/-- The rule of loops, with an invariant of the ghost state. -/
theorem keeps_forEach (invariant : Ghost → Prop) {items : List ι}
    {body : ι → Program Op Reply Unit} (hstart : invariant ghost)
    (hbody : ∀ item ∈ items, ∀ before, invariant before →
      (body item).Keeps c (fun _ after => invariant after) before) :
    (forEach items body).Keeps c (fun _ after => invariant after) ghost := by
  induction items generalizing ghost with
  | nil => exact hstart
  | cons item rest ih =>
      apply Keeps.bind (hbody item List.mem_cons_self ghost hstart)
      intro _ after hafter
      exact ih hafter fun other hother => hbody other (List.mem_cons_of_mem _ hother)

/-- The rule of searches: what is collected was found for some of the items, in
their order. -/
theorem keeps_collect (invariant : Ghost → Prop) (finds : ι → β → Prop) {items : List ι}
    {body : ι → Program Op Reply (Option β)} (hstart : invariant ghost)
    (hbody : ∀ item ∈ items, ∀ before, invariant before →
      (body item).Keeps c (fun found after =>
        invariant after ∧ ∀ b ∈ found, finds item b) before) :
    (collect items body).Keeps c (fun found after =>
      invariant after ∧ ∃ met, met.Sublist items ∧ List.Forall₂ finds met found) ghost := by
  induction items generalizing ghost with
  | nil => exact ⟨hstart, [], List.Sublist.slnil, List.Forall₂.nil⟩
  | cons item rest ih =>
      apply Keeps.bind (hbody item List.mem_cons_self ghost hstart)
      intro found after hfound
      apply Keeps.bind
        (ih hfound.1 fun other hother => hbody other (List.mem_cons_of_mem _ hother))
      intro others last hothers
      obtain ⟨hlast, met, hmet, hfinds⟩ := hothers
      cases found with
      | none => exact ⟨hlast, met, hmet.cons item, hfinds⟩
      | some b =>
          exact ⟨hlast, item :: met, hmet.cons_cons item, hfinds.cons (hfound.2 b rfl)⟩

/-- By itself, the program only performs operations where a condition allows them. -/
def Meets (exec : (op : Op) → State → Reply op × State) (condition : Op → State → Prop) :
    Program Op Reply α → State → Prop
  | done _, _ | raised _, _ => True
  | perform op next, s => condition op s ∧ (next (exec op s).1).Meets exec condition (exec op s).2

/-- What is promised holds where a program ends that was answered as the contract has it. -/
theorem Keeps.run {p : Program Op Reply α} {s after : State} {value : α} {g : State → Ghost}
    {exec : (op : Op) → State → Reply op × State} {condition : Op → State → Prop}
    (hkeeps : p.Keeps c promise (g s)) (hmeets : p.Meets exec condition s)
    (hexec : ∀ op s, condition op s → c.answers (g s) op (exec op s).1 ∧
      g (exec op s).2 = c.advance (g s) op (exec op s).1)
    (hrun : p.run exec s = (.ok value, after)) : promise value (g after) := by
  induction p generalizing s with
  | done found =>
      obtain ⟨hvalue, hafter⟩ := Prod.mk.inj hrun
      rw [← Except.ok.inj hvalue, ← hafter]
      exact hkeeps
  | raised text => cases hrun
  | perform op next ih =>
      obtain ⟨hanswers, hghost⟩ := hexec op s hmeets.1
      apply ih _ _ hmeets.2 hrun
      rw [hghost]
      exact hkeeps.2 _ hanswers

-- A contract is kept by the rules above as well.
attribute [irreducible] Keeps

end Program

end Contracts

section Pools

/-- Programs that share a state. -/
structure Pool (State Op : Type) (Reply : Op → Type) (α : Type) where
  state : State
  client : Nat → Program Op Reply α

namespace Pool

/-- A client performs the next operation of its program. -/
def perform (exec : (op : Op) → State → Reply op × State) (i : Nat)
    (pool : Pool State Op Reply α) : Pool State Op Reply α :=
  match pool.client i with
  | .perform op next =>
      ⟨(exec op pool.state).2, Function.update pool.client i (next (exec op pool.state).1)⟩
  | .done _ | .raised _ => pool

/-- A client that is through with its program begins another. -/
def start (i : Nat) (program : Program Op Reply α) (pool : Pool State Op Reply α) :
    Pool State Op Reply α :=
  match pool.client i with
  | .perform _ _ => pool
  | .done _ | .raised _ => { pool with client := Function.update pool.client i program }

/-- What is left of every program keeps the contract. -/
def Sound (c : Contract Op Reply Ghost) (ghost : State → Ghost) (pool : Pool State Op Reply α) :
    Prop :=
  ∀ i, (pool.client i).Keeps c (fun _ _ => True) (ghost pool.state)

variable {exec : (op : Op) → State → Reply op × State} {pool : Pool State Op Reply α} {i j : Nat}

theorem perform_eq {op : Op} {next : Reply op → Program Op Reply α}
    (hclient : pool.client i = .perform op next) :
    pool.perform exec i = ⟨(exec op pool.state).2,
      Function.update pool.client i (next (exec op pool.state).1)⟩ := by
  simp only [perform, hclient]

theorem perform_client_of_ne (hne : j ≠ i) : (pool.perform exec i).client j = pool.client j := by
  unfold perform
  split
  · exact Function.update_of_ne hne _ _
  · rfl
  · rfl

theorem perform_eq_self (hclient : ∀ op next, pool.client i ≠ .perform op next) :
    pool.perform exec i = pool := by
  unfold perform
  split
  next op next hnext => exact absurd hnext (hclient op next)
  next => rfl
  next => rfl

@[simp] theorem start_state {program : Program Op Reply α} :
    (pool.start i program).state = pool.state := by
  unfold start
  split <;> rfl

theorem start_client_of_ne {program : Program Op Reply α} (hne : j ≠ i) :
    (pool.start i program).client j = pool.client j := by
  unfold start
  split
  · rfl
  · exact Function.update_of_ne hne _ _
  · exact Function.update_of_ne hne _ _

/-- A client that is through with its program is at the start of the one it begins. -/
theorem start_client_self {program : Program Op Reply α}
    (hfree : ∀ op next, pool.client i ≠ .perform op next) :
    (pool.start i program).client i = program := by
  unfold start
  split
  next op next hnext => exact absurd hnext (hfree op next)
  next => exact Function.update_self _ _ _
  next => exact Function.update_self _ _ _

/-- A client is at what it was at, or begins the program. -/
theorem start_client_cases (program : Program Op Reply α) (j : Nat) :
    (pool.start i program).client j = pool.client j ∨
      (pool.start i program).client j = program := by
  by_cases hne : j = i
  · subst hne
    unfold start
    split
    · exact Or.inl rfl
    · exact Or.inr (Function.update_self _ _ _)
    · exact Or.inr (Function.update_self _ _ _)
  · exact Or.inl (start_client_of_ne hne)

variable {c : Contract Op Reply Ghost} {ghost : State → Ghost}

/-- The rule of interference: a client keeps the contract when its operation is
answered as the contract has it, and the others do when they still keep it in
the ghost state that is reached. -/
theorem Sound.perform (hsound : pool.Sound c ghost)
    (hexec : ∀ op next, pool.client i = .perform op next → c.permits (ghost pool.state) op →
      c.answers (ghost pool.state) op (exec op pool.state).1 ∧
        ghost (exec op pool.state).2 =
          c.advance (ghost pool.state) op (exec op pool.state).1)
    (hothers : ∀ j ≠ i, (pool.client j).Keeps c (fun _ _ => True)
      (ghost (pool.perform exec i).state)) :
    (pool.perform exec i).Sound c ghost := by
  intro j
  by_cases hne : j = i
  · subst hne
    have hown := hsound j
    cases hclient : pool.client j with
    | done value => rw [perform_eq_self (by simp [hclient])]; exact hown
    | raised text => rw [perform_eq_self (by simp [hclient])]; exact hown
    | perform op next =>
        rw [hclient] at hown
        obtain ⟨hanswers, hghost⟩ := hexec op next hclient (Program.keeps_perform.mp hown).1
        rw [perform_eq hclient]
        simp only [Function.update_self, hghost]
        exact (Program.keeps_perform.mp hown).2 _ hanswers
  · rw [perform_client_of_ne hne]
    exact hothers j hne

theorem Sound.start (hsound : pool.Sound c ghost) {program : Program Op Reply α}
    (hprogram : program.Keeps c (fun _ _ => True) (ghost pool.state)) :
    (pool.start i program).Sound c ghost := by
  intro j
  rw [start_state]
  by_cases hne : j = i
  · subst hne
    unfold Pool.start
    split
    · exact hsound j
    · simpa using hprogram
    · simpa using hprogram
  · rw [start_client_of_ne hne]
    exact hsound j

end Pool

end Pools

end Programs

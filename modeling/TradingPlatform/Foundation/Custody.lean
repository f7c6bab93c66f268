import Mathlib.Data.Set.Insert
import TradingPlatform.Foundation.Programs

/-! # Keys in the custody of programs

Programs that share a state take keys and give them back. A key that is marked in the state
is not granted to another program; a program uses a key only while it has it, and has given
all of them back when it ends. Whatever the order of their operations, no key is with two
programs, and a key is marked exactly as long as a program owes it.
-/

namespace Programs

variable {Op Key State α β : Type} {Reply : Op → Type}

/-- What an operation has to do with keys. -/
inductive Custody (Key : Type) where
  | free
  | takes (key : Key)
  | needs (key : Key)
  | gives (key : Key)

/-- The operations of a program, with the replies that grant a key and those that are given
at all. -/
structure Custodian (Op : Type) (Reply : Op → Type) (Key : Type) where
  custody : Op → Custody Key
  granted : (op : Op) → Reply op → Prop
  answers : (op : Op) → Reply op → Prop

namespace Program

/-- Whatever it is answered, the program ends with a value. -/
def NeverRaises : Program Op Reply α → Prop
  | done _ => True
  | raised _ => False
  | perform _ next => ∀ reply, (next reply).NeverRaises

@[simp] theorem neverRaises_pure {value : α} :
    (pure value : Program Op Reply α).NeverRaises := trivial

@[simp] theorem neverRaises_operation {op : Op} :
    (operation op : Program Op Reply (Reply op)).NeverRaises := fun _ => trivial

theorem NeverRaises.bind {p : Program Op Reply β} {f : β → Program Op Reply α}
    (hp : p.NeverRaises) (hf : ∀ value, (f value).NeverRaises) : (p >>= f).NeverRaises := by
  induction p with
  | done value => exact hf value
  | raised text => exact hp.elim
  | perform op next ih => exact fun reply => ih reply (hp reply)

/-- The program gives the key back before it takes it, and before it ends. -/
def Owes (c : Custodian Op Reply Key) (key : Key) : Program Op Reply α → Prop
  | done _ | raised _ => False
  | perform op next => c.custody op = .gives key ∨
      c.custody op ≠ .takes key ∧ ∀ reply, c.answers op reply → (next reply).Owes c key

end Program

namespace Custodian

variable (c : Custodian Op Reply Key)

/-- A program with these keys takes one that it has not, and needs or gives one that it has. -/
def contract : Contract Op Reply (Set Key) where
  permits held op :=
    match c.custody op with
    | .free => True
    | .takes key => key ∉ held
    | .needs key | .gives key => key ∈ held
  answers _ op reply := c.answers op reply
  advance held op reply :=
    match c.custody op with
    | .free | .needs _ => held
    | .takes key => {other | other ∈ held ∨ c.granted op reply ∧ other = key}
    | .gives key => {other | other ∈ held ∧ other ≠ key}

variable {c} {held : Set Key} {key : Key} {p : Program Op Reply α} {promise : α → Prop}

/-- The keys that a program has are those that it owes. -/
theorem owes_iff_mem (hreplies : ∀ op, ∃ reply, c.answers op reply) (hnever : p.NeverRaises)
    (hkeeps : p.Keeps c.contract (fun value after => promise value ∧ after = ∅) held) :
    p.Owes c key ↔ key ∈ held := by
  induction p generalizing held with
  | done value =>
      obtain ⟨-, rfl⟩ := Program.keeps_done.mp hkeeps
      exact iff_of_false id (Set.notMem_empty key)
  | raised text => exact hnever.elim
  | perform op next ih =>
      obtain ⟨hpermits, hnext⟩ := Program.keeps_perform.mp hkeeps
      obtain ⟨reply, hreply⟩ := hreplies op
      have hafter : ∀ reply, c.answers op reply →
          ((next reply).Owes c key ↔ key ∈ c.contract.advance held op reply) :=
        fun reply hreply => ih reply (hnever reply) (hnext reply hreply)
      rw [Program.Owes]
      cases hcustody : c.custody op with
      | free =>
          have hsame : ∀ reply, c.contract.advance held op reply = held := by
            simp [contract, hcustody]
          simp only [reduceCtorEq, false_or, ne_eq, not_false_eq_true, true_and]
          constructor
          · exact fun howes => hsame reply ▸ (hafter reply hreply).mp (howes reply hreply)
          · exact fun hmem other hother => (hafter other hother).mpr ((hsame other).symm ▸ hmem)
      | needs used =>
          have hsame : ∀ reply, c.contract.advance held op reply = held := by
            simp [contract, hcustody]
          simp only [reduceCtorEq, false_or, ne_eq, not_false_eq_true, true_and]
          constructor
          · exact fun howes => hsame reply ▸ (hafter reply hreply).mp (howes reply hreply)
          · exact fun hmem other hother => (hafter other hother).mpr ((hsame other).symm ▸ hmem)
      | takes taken =>
          have hfresh : taken ∉ held := by simpa [contract, hcustody] using hpermits
          simp only [reduceCtorEq, false_or, ne_eq, Custody.takes.injEq]
          constructor
          · rintro ⟨hne, howes⟩
            have hmem := (hafter reply hreply).mp (howes reply hreply)
            simp only [contract, hcustody, Set.mem_ofPred_eq] at hmem
            exact hmem.resolve_right fun hgranted => hne hgranted.2.symm
          · intro hmem
            refine ⟨fun heq => hfresh (heq ▸ hmem), fun other hother => ?_⟩
            apply (hafter other hother).mpr
            simp only [contract, hcustody, Set.mem_ofPred_eq]
            exact Or.inl hmem
      | gives given =>
          have hheld : given ∈ held := by simpa [contract, hcustody] using hpermits
          simp only [Custody.gives.injEq, reduceCtorEq, ne_eq, not_false_eq_true, true_and]
          constructor
          · rintro (rfl | howes)
            · exact hheld
            · have hmem := (hafter reply hreply).mp (howes reply hreply)
              simp only [contract, hcustody, Set.mem_ofPred_eq] at hmem
              exact hmem.1
          · intro hmem
            by_cases heq : given = key
            · exact Or.inl heq
            · refine Or.inr fun other hother => (hafter other hother).mpr ?_
              simp only [contract, hcustody, Set.mem_ofPred_eq]
              exact ⟨hmem, Ne.symm heq⟩

end Custodian

section Pools

/-- A state that marks the keys that are taken: one that is marked is not granted. -/
structure Custodian.Marks (c : Custodian Op Reply Key) (marks : State → Set Key)
    (exec : (op : Op) → State → Reply op × State) (s : State) : Prop where
  answers : ∀ op, c.answers op (exec op s).1
  free : ∀ op, c.custody op = .free → marks (exec op s).2 = marks s
  needs : ∀ op key, c.custody op = .needs key → marks (exec op s).2 = marks s
  takes : ∀ op key, c.custody op = .takes key → (c.granted op (exec op s).1 ↔ key ∉ marks s) ∧
    marks (exec op s).2 = insert key (marks s)
  gives : ∀ op key, c.custody op = .gives key → marks (exec op s).2 = marks s \ {key}

namespace Pool

variable (c : Custodian Op Reply Key) (marks : State → Set Key) (promise : Nat → α → Prop)

/-- Every marked key is with one program, and with no other. -/
structure Accounted (pool : Pool State Op Reply α) (held : Nat → Set Key) : Prop where
  never : ∀ i, (pool.client i).NeverRaises
  keeps : ∀ i, (pool.client i).Keeps c.contract
    (fun value after => promise i value ∧ after = ∅) (held i)
  alone : ∀ i j key, key ∈ held i → key ∈ held j → i = j
  marked : ∀ key, key ∈ marks pool.state ↔ ∃ i, key ∈ held i

variable {c marks promise} {pool : Pool State Op Reply α} {held : Nat → Set Key} {i j : Nat}
  {key : Key} {exec : (op : Op) → State → Reply op × State}

/-- What one operation does to the keys of its program, and to the marked ones. -/
theorem Accounted.advance {op : Op} {next : Reply op → Program Op Reply α}
    (hpool : pool.Accounted c marks promise held) (hclient : pool.client i = .perform op next)
    (hexec : c.Marks marks exec pool.state) :
    (∀ key, key ∈ c.contract.advance (held i) op (exec op pool.state).1 →
        ∀ j ≠ i, key ∉ held j) ∧
      ∀ key, key ∈ marks (exec op pool.state).2 ↔
        key ∈ c.contract.advance (held i) op (exec op pool.state).1 ∨ ∃ j ≠ i, key ∈ held j := by
  have hkeeps := hpool.keeps i
  rw [hclient] at hkeeps
  have hpermits := (Program.keeps_perform.mp hkeeps).1
  have hown : ∀ key ∈ held i, ∀ j ≠ i, key ∉ held j :=
    fun key hmem j hne hother => hne (hpool.alone j i key hother hmem)
  have hsplit : ∀ key, key ∈ marks pool.state ↔ key ∈ held i ∨ ∃ j ≠ i, key ∈ held j := by
    intro key
    rw [hpool.marked]
    constructor
    · rintro ⟨j, hmem⟩
      by_cases hne : j = i
      · exact Or.inl (hne ▸ hmem)
      · exact Or.inr ⟨j, hne, hmem⟩
    · rintro (hmem | ⟨j, -, hmem⟩)
      · exact ⟨i, hmem⟩
      · exact ⟨j, hmem⟩
  cases hcustody : c.custody op with
  | free =>
      rw [hexec.free op hcustody]
      simp only [Custodian.contract, hcustody]
      exact ⟨hown, hsplit⟩
  | needs used =>
      rw [hexec.needs op used hcustody]
      simp only [Custodian.contract, hcustody]
      exact ⟨hown, hsplit⟩
  | takes taken =>
      obtain ⟨hgranted, hmarks⟩ := hexec.takes op taken hcustody
      rw [hmarks]
      simp only [Custodian.contract, hcustody, Set.mem_ofPred_eq, Set.mem_insert_iff, hgranted]
      constructor
      · -- a key is granted only while nobody has it
        rintro key (hmem | ⟨hfree, rfl⟩) j hne hother
        · exact hown key hmem j hne hother
        · exact hfree ((hpool.marked key).mpr ⟨j, hother⟩)
      · intro key
        rw [or_right_comm, ← hsplit key]
        constructor
        · rintro (rfl | hmem)
          · exact (em (key ∈ marks pool.state)).imp_right fun hfree => ⟨hfree, rfl⟩
          · exact Or.inl hmem
        · rintro (hmem | ⟨-, rfl⟩)
          · exact Or.inr hmem
          · exact Or.inl rfl
  | gives given =>
      rw [hexec.gives op given hcustody]
      simp only [Custodian.contract, hcustody, Set.mem_ofPred_eq, Set.mem_sdiff,
        Set.mem_singleton_iff]
      have hheld : given ∈ held i := by simpa [Custodian.contract, hcustody] using hpermits
      constructor
      · exact fun key hmem => hown key hmem.1
      · intro key
        rw [hsplit key]
        constructor
        · rintro ⟨hmem | hother, hne⟩
          · exact Or.inl ⟨hmem, hne⟩
          · exact Or.inr hother
        · rintro (⟨hmem, hne⟩ | ⟨j, hne, hmem⟩)
          · exact ⟨Or.inl hmem, hne⟩
          · refine ⟨Or.inr ⟨j, hne, hmem⟩, ?_⟩
            rintro rfl
            exact hown key hheld j hne hmem

/-- **The rule of custody.** An operation of one program leaves every key with one program at
most, and marked as long as it is with one. -/
theorem Accounted.perform (hpool : pool.Accounted c marks promise held)
    (hexec : c.Marks marks exec pool.state) (i : Nat) :
    ∃ held, (pool.perform exec i).Accounted c marks promise held := by
  cases hclient : pool.client i with
  | done value => exact ⟨held, by rwa [perform_eq_self (by simp [hclient])]⟩
  | raised text => exact ⟨held, by rwa [perform_eq_self (by simp [hclient])]⟩
  | perform op next =>
      have hkeeps := hpool.keeps i
      have hnever := hpool.never i
      rw [hclient] at hkeeps hnever
      have hnext := (Program.keeps_perform.mp hkeeps).2 _ (hexec.answers op)
      obtain ⟨hown, hmarks⟩ := hpool.advance hclient hexec
      rw [perform_eq hclient]
      refine ⟨Function.update held i (c.contract.advance (held i) op (exec op pool.state).1),
        fun j => ?_, fun j => ?_, fun j k key hj hk => ?_, fun key => ?_⟩
      · by_cases hne : j = i
        · subst hne
          dsimp only
          rw [Function.update_self]
          exact hnever _
        · dsimp only
          rw [Function.update_of_ne hne]
          exact hpool.never j
      · by_cases hne : j = i
        · subst hne
          dsimp only
          rw [Function.update_self, Function.update_self]
          exact hnext
        · dsimp only
          rw [Function.update_of_ne hne, Function.update_of_ne hne]
          exact hpool.keeps j
      · by_cases hji : j = i <;> by_cases hki : k = i
        · rw [hji, hki]
        · subst hji
          rw [Function.update_self] at hj
          rw [Function.update_of_ne hki] at hk
          exact absurd hk (hown key hj k hki)
        · subst hki
          rw [Function.update_self] at hk
          rw [Function.update_of_ne hji] at hj
          exact absurd hj (hown key hk j hji)
        · rw [Function.update_of_ne hji] at hj
          rw [Function.update_of_ne hki] at hk
          exact hpool.alone j k key hj hk
      · rw [hmarks key]
        constructor
        · rintro (hmem | ⟨j, hne, hmem⟩)
          · exact ⟨i, by rwa [Function.update_self]⟩
          · exact ⟨j, by rwa [Function.update_of_ne hne]⟩
        · rintro ⟨j, hmem⟩
          by_cases hne : j = i
          · subst hne
            rw [Function.update_self] at hmem
            exact Or.inl hmem
          · rw [Function.update_of_ne hne] at hmem
            exact Or.inr ⟨j, hne, hmem⟩

section Consequences

/-- A program that owes a key is the one that has it. -/
theorem Accounted.owes_iff_mem (hpool : pool.Accounted c marks promise held)
    (hreplies : ∀ op, ∃ reply, c.answers op reply) :
    (pool.client i).Owes c key ↔ key ∈ held i :=
  Custodian.owes_iff_mem hreplies (hpool.never i) (hpool.keeps i)

/-- A key is marked exactly as long as a program owes it. -/
theorem Accounted.mem_marks_iff (hpool : pool.Accounted c marks promise held)
    (hreplies : ∀ op, ∃ reply, c.answers op reply) :
    key ∈ marks pool.state ↔ ∃ i, (pool.client i).Owes c key := by
  rw [hpool.marked]
  exact exists_congr fun i => (hpool.owes_iff_mem hreplies).symm

theorem Accounted.eq_of_owes (hpool : pool.Accounted c marks promise held)
    (hreplies : ∀ op, ∃ reply, c.answers op reply) (hi : (pool.client i).Owes c key)
    (hj : (pool.client j).Owes c key) : i = j :=
  hpool.alone i j key ((hpool.owes_iff_mem hreplies).mp hi) ((hpool.owes_iff_mem hreplies).mp hj)

variable {op : Op} {next : Reply op → Program Op Reply α}

/-- Whoever needs a key owes it. -/
theorem Accounted.owes_of_needs (hpool : pool.Accounted c marks promise held)
    (hreplies : ∀ op, ∃ reply, c.answers op reply) (hclient : pool.client i = .perform op next)
    (hneeds : c.custody op = .needs key) : (pool.client i).Owes c key := by
  rw [hpool.owes_iff_mem hreplies]
  have hkeeps := hpool.keeps i
  rw [hclient] at hkeeps
  simpa [Custodian.contract, hneeds] using (Program.keeps_perform.mp hkeeps).1

/-- What is taken is not owed by the same program. -/
theorem Accounted.not_owes_of_takes (hpool : pool.Accounted c marks promise held)
    (hreplies : ∀ op, ∃ reply, c.answers op reply) (hclient : pool.client i = .perform op next)
    (htakes : c.custody op = .takes key) : ¬ (pool.client i).Owes c key := by
  rw [hpool.owes_iff_mem hreplies]
  have hkeeps := hpool.keeps i
  rw [hclient] at hkeeps
  simpa [Custodian.contract, htakes] using (Program.keeps_perform.mp hkeeps).1

end Consequences

/-- A program that has ended promises what it promised to. -/
theorem Accounted.promised {value : α} (hpool : pool.Accounted c marks promise held)
    (hclient : pool.client i = .done value) : promise i value := by
  have hkeeps := hpool.keeps i
  rw [hclient] at hkeeps
  exact (Program.keeps_done.mp hkeeps).1

end Pool

end Pools

end Programs

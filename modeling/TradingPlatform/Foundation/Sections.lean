import TradingPlatform.Foundation.Programs

/-! # Sections that exclude each other

Programs that share a state are grouped by what they work on. A program is within
its section from its first operation until all it has left to do is read. Where no
two programs of a group are within their sections at once, each of them keeps its
contract as if the others of its group were not there.
-/

namespace Programs

variable {Op Key State Ghost α : Type} {Reply : Op → Type}

/-- All that is left of a program is reading, up to its end. -/
def Program.OnlyReads (reads : Op → Prop) : Program Op Reply α → Prop
  | done _ => True
  | raised _ => False
  | perform op next => reads op ∧ ∀ reply, (next reply).OnlyReads reads

/-- A pool, and the clients that have begun with their programs. -/
structure Sections (State Op : Type) (Reply : Op → Type) (α : Type) where
  pool : Pool State Op Reply α
  begun : List Nat

namespace Sections

/-- A client performs its next operation. -/
def perform (exec : (op : Op) → State → Reply op × State) (i : Nat)
    (s : Sections State Op Reply α) : Sections State Op Reply α :=
  ⟨s.pool.perform exec i, i :: s.begun⟩

/-- When a client performs an operation that may do more than read, nobody else of its
group is within the section. -/
def Admits (group : Nat → Key) (reads : Op → Prop) (s : Sections State Op Reply α) (i : Nat) :
    Prop :=
  ¬ (s.pool.client i).OnlyReads reads →
    ∀ j ∈ s.begun, j ≠ i → group j = group i → (s.pool.client j).OnlyReads reads

section Exclusion

variable (group : Nat → Key) (whole : Nat → Program Op Reply α)
  (contract : Key → Contract Op Reply Ghost) (ghost : Key → State → Ghost)
  (settled safe : Ghost → Prop) (reads : Op → Prop)

/-- Whoever is within its section is alone there and keeps its contract, and where
nobody is, the ghost state is settled. -/
structure Exclusive (s : Sections State Op Reply α) : Prop where
  fresh : ∀ i, i ∉ s.begun → s.pool.client i = whole i
  within : ∀ i ∈ s.begun, (s.pool.client i).OnlyReads reads ∨
    ((s.pool.client i).Keeps (contract (group i)) (fun _ g => settled g)
        (ghost (group i) s.pool.state) ∧
      ∀ j ∈ s.begun, j ≠ i → group j = group i → (s.pool.client j).OnlyReads reads)
  settled : ∀ key, (∀ i ∈ s.begun, group i = key → (s.pool.client i).OnlyReads reads) →
    settled (ghost key s.pool.state)
  safe : ∀ key, safe (ghost key s.pool.state)

variable {group whole contract ghost settled safe reads}

theorem exclusive_start {state : State} (hsettled : ∀ key, settled (ghost key state))
    (hsafe : ∀ key, safe (ghost key state)) :
    Exclusive group whole contract ghost settled safe reads ⟨⟨state, whole⟩, []⟩ :=
  ⟨fun _ _ => rfl, fun _ hi => absurd hi List.not_mem_nil, fun key _ => hsettled key, hsafe⟩

/-- What a program promises that only reads on holds already. -/
theorem settled_of_onlyReads {key : Key} {state : State} {p : Program Op Reply α}
    (hsilent : ∀ op, reads op → ∃ reply, (contract key).answers (ghost key state) op reply ∧
      (contract key).advance (ghost key state) op reply = ghost key state)
    (hreads : p.OnlyReads reads)
    (hkeeps : p.Keeps (contract key) (fun _ g => settled g) (ghost key state)) :
    settled (ghost key state) := by
  induction p with
  | done value => exact Program.keeps_done.mp hkeeps
  | raised text => exact False.elim hreads
  | perform op next ih =>
      obtain ⟨reply, hanswers, hadvance⟩ := hsilent op hreads.1
      have hnext := (Program.keeps_perform.mp hkeeps).2 reply hanswers
      rw [hadvance] at hnext
      exact ih reply (hreads.2 reply) hnext

variable {s : Sections State Op Reply α} {i : Nat} {exec : (op : Op) → State → Reply op × State}

/-- The invariant is kept when a client only reads on and changes no ghost state. -/
theorem Exclusive.perform_of_onlyReads
    (hs : Exclusive group whole contract ghost settled safe reads s)
    (hbefore : (s.pool.client i).OnlyReads reads)
    (hreads : ∀ op, reads op → ∀ key, ghost key (exec op s.pool.state).2 = ghost key s.pool.state) :
    Exclusive group whole contract ghost settled safe reads (s.perform exec i) := by
  have hother : ∀ j ≠ i, (s.perform exec i).pool.client j = s.pool.client j :=
    fun j hne => Pool.perform_client_of_ne hne
  obtain ⟨hown, hghost⟩ : ((s.perform exec i).pool.client i).OnlyReads reads ∧
      ∀ key, ghost key (s.perform exec i).pool.state = ghost key s.pool.state := by
    cases hclient : s.pool.client i with
    | done value =>
        have hsame : (s.perform exec i).pool = s.pool := Pool.perform_eq_self (by simp [hclient])
        rw [hsame]
        exact ⟨hbefore, fun _ => rfl⟩
    | raised text =>
        rw [hclient] at hbefore
        exact False.elim hbefore
    | perform op next =>
        rw [hclient] at hbefore
        have hnext : (s.perform exec i).pool = _ := Pool.perform_eq hclient
        rw [hnext]
        refine ⟨?_, hreads op hbefore.1⟩
        dsimp only
        rw [Function.update_self]
        exact hbefore.2 _
  refine ⟨fun j hj => ?_, fun j hj => ?_, fun key hall => ?_, fun key => ?_⟩
  · rw [hother j (List.ne_of_not_mem_cons hj)]
    exact hs.fresh j (List.not_mem_of_not_mem_cons hj)
  · by_cases hne : j = i
    · exact Or.inl (hne ▸ hown)
    · have hold := (List.mem_cons.mp hj).resolve_left hne
      rw [hother j hne, hghost]
      apply (hs.within j hold).imp_right
      intro ⟨hkeeps, halone⟩
      refine ⟨hkeeps, fun k hk hkj hgroup => ?_⟩
      by_cases hki : k = i
      · exact hki ▸ hown
      · rw [hother k hki]
        exact halone k ((List.mem_cons.mp hk).resolve_left hki) hkj hgroup
  · rw [hghost]
    apply hs.settled
    intro j hj hgroup
    by_cases hne : j = i
    · exact hne ▸ hbefore
    · rw [← hother j hne]
      exact hall j (List.mem_cons_of_mem _ hj) hgroup
  · rw [hghost]
    exact hs.safe key

/-- A client that may do more than read keeps its contract where it is admitted. -/
theorem Exclusive.keeps (hs : Exclusive group whole contract ghost settled safe reads s)
    (hwhole : ∀ g, settled g → (whole i).Keeps (contract (group i)) (fun _ g => settled g) g)
    (hmore : ¬ (s.pool.client i).OnlyReads reads) (hadmits : s.Admits group reads i) :
    (s.pool.client i).Keeps (contract (group i)) (fun _ g => settled g)
      (ghost (group i) s.pool.state) := by
  by_cases hbegun : i ∈ s.begun
  · exact ((hs.within i hbegun).resolve_left hmore).1
  · rw [hs.fresh i hbegun]
    apply hwhole
    apply hs.settled
    intro j hj hgroup
    exact hadmits hmore j hj (fun hji => hbegun (hji ▸ hj)) hgroup

/-- **The rule of exclusive sections.** A client that is admitted to its section, and
whose operation is answered as its contract has it, keeps the invariant. -/
theorem Exclusive.perform (hs : Exclusive group whole contract ghost settled safe reads s)
    (hwhole : ∀ g, settled g → (whole i).Keeps (contract (group i)) (fun _ g => settled g) g)
    (hsafe : ∀ g op reply, (contract (group i)).permits g op →
      (contract (group i)).answers g op reply → safe g →
        safe ((contract (group i)).advance g op reply))
    (hsilent : ∀ state op, reads op → ∃ reply,
      (contract (group i)).answers (ghost (group i) state) op reply ∧
        (contract (group i)).advance (ghost (group i) state) op reply = ghost (group i) state)
    (hadmits : s.Admits group reads i)
    (hreads : ∀ op, reads op → ∀ key, ghost key (exec op s.pool.state).2 = ghost key s.pool.state)
    (hexec : ¬ (s.pool.client i).OnlyReads reads →
      ∀ op next, s.pool.client i = .perform op next →
        (contract (group i)).permits (ghost (group i) s.pool.state) op →
        (contract (group i)).answers (ghost (group i) s.pool.state) op (exec op s.pool.state).1 ∧
          ghost (group i) (exec op s.pool.state).2 = (contract (group i)).advance
            (ghost (group i) s.pool.state) op (exec op s.pool.state).1)
    (hframe : ∀ op, (contract (group i)).permits (ghost (group i) s.pool.state) op →
      ∀ key ≠ group i, ghost key (exec op s.pool.state).2 = ghost key s.pool.state) :
    Exclusive group whole contract ghost settled safe reads (s.perform exec i) := by
  -- a client that only reads from here on changes no ghost
  by_cases hmore : (s.pool.client i).OnlyReads reads
  · exact hs.perform_of_onlyReads hmore hreads
  have hkeeps := hs.keeps hwhole hmore hadmits
  have halone := hadmits hmore
  have hother : ∀ j ≠ i, (s.perform exec i).pool.client j = s.pool.client j :=
    fun j hne => Pool.perform_client_of_ne hne
  -- the step keeps the client's own contract and touches the ghost of its group alone
  obtain ⟨hown, hghost, hsafeOwn⟩ : ((s.perform exec i).pool.client i).Keeps (contract (group i))
        (fun _ g => settled g) (ghost (group i) (s.perform exec i).pool.state) ∧
      (∀ key ≠ group i, ghost key (s.perform exec i).pool.state = ghost key s.pool.state) ∧
      safe (ghost (group i) (s.perform exec i).pool.state) := by
    cases hclient : s.pool.client i with
    | done value =>
        rw [hclient] at hmore
        exact absurd trivial hmore
    | raised text =>
        have hsame : (s.perform exec i).pool = s.pool := Pool.perform_eq_self (by simp [hclient])
        rw [hsame]
        exact ⟨hkeeps, fun _ _ => rfl, hs.safe _⟩
    | perform op next =>
        rw [hclient] at hkeeps
        obtain ⟨hpermits, hnext⟩ := Program.keeps_perform.mp hkeeps
        obtain ⟨hanswers, hadvance⟩ := hexec hmore op next hclient hpermits
        have hperformed : (s.perform exec i).pool = _ := Pool.perform_eq hclient
        rw [hperformed]
        refine ⟨?_, hframe op hpermits, ?_⟩
        · dsimp only
          rw [Function.update_self, hadvance]
          exact hnext _ hanswers
        · rw [hadvance]
          exact hsafe _ _ _ hpermits hanswers (hs.safe _)
  refine ⟨fun j hj => ?_, fun j hj => ?_, fun key hall => ?_, fun key => ?_⟩
  · rw [hother j (List.ne_of_not_mem_cons hj)]
    exact hs.fresh j (List.not_mem_of_not_mem_cons hj)
  · -- whoever is inside its section: the client that moved, one of its group, or another
    by_cases hne : j = i
    · subst hne
      refine Or.inr ⟨hown, fun k hk hkj hgroup => ?_⟩
      rw [hother k hkj]
      exact halone k ((List.mem_cons.mp hk).resolve_left hkj) hkj hgroup
    · have hold := (List.mem_cons.mp hj).resolve_left hne
      rw [hother j hne]
      by_cases hgroup : group j = group i
      · exact Or.inl (halone j hold hne hgroup)
      · rw [hghost _ hgroup]
        refine (hs.within j hold).imp_right fun ⟨hj, hothers⟩ => ⟨hj, fun k hk hkj hsame => ?_⟩
        have hki : k ≠ i := fun hki => hgroup (hki ▸ hsame.symm)
        rw [hother k hki]
        exact hothers k ((List.mem_cons.mp hk).resolve_left hki) hkj hsame
  · by_cases hkey : key = group i
    · subst hkey
      exact settled_of_onlyReads (hsilent _) (hall i List.mem_cons_self rfl) hown
    · rw [hghost key hkey]
      apply hs.settled
      intro j hj hgroup
      have hne : j ≠ i := fun hji => hkey (hji ▸ hgroup.symm)
      rw [← hother j hne]
      exact hall j (List.mem_cons_of_mem _ hj) hgroup
  · by_cases hkey : key = group i
    · exact hkey ▸ hsafeOwn
    · rw [hghost key hkey]
      exact hs.safe key

end Exclusion

end Sections

end Programs

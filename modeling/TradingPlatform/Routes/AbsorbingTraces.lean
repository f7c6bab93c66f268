import TradingPlatform.Routes.TerminalTraces

/-! # Finished traces stay finished

A run is followed operation by operation. A trace that is finished can only be
reopened by a client that was already at work on an older copy of it; where no
trace is finished over such a copy, finished traces stay finished. A tick that
lists a trace before an operator resolves it does work on such a copy.
-/

namespace TradingPlatform.Routes

open Programs Program Storage TradingPlatform.Runtime Recovery RecoveryProgram

section Condition

/-- The client works on an older copy of a finished trace: even if it finds the
trace finished from now on, it may write it back as not finished. -/
inductive MayReopen {α : Type} (id : String) : RecoveryProgram α → Prop where
  | write {document : Dict} {next : Bool → RecoveryProgram α}
      (hopen : isTerminalTrace document = false) :
      MayReopen id (perform (.setTrace id document) next)
  | later {op : RecoveryOp} {next : op.Reply → RecoveryProgram α} {reply : op.Reply}
      (hreply : (traceContract id).answers true op reply) (hnext : MayReopen id (next reply)) :
      MayReopen id (perform op next)

/-- No trace is finished while another client works on an older copy of it, and
identifiers are drawn that no trace has yet. -/
structure Admissible (s : RecoverySystem) (step : RecoveryStep) : Prop where
  exclusive : ∀ client around id document next, step = .perform client around →
    s.client client = .perform (.setTrace id document) next → isTerminalTrace document →
      ∀ other ≠ client, ¬ MayReopen id (s.client other)
  fresh : ∀ client around next, step = .perform client around →
    s.client client = .perform .drawId next →
      s.state.redis.getRecoveryTrace ("rt_" ++ hexText around.drawn) = none

variable {id : String} {finished : Bool} {α : Type}

/-- Whoever works on no older copy keeps the contract from the moment the trace is finished. -/
theorem keeps_of_not_mayReopen {p : RecoveryProgram α}
    (hkeeps : p.Keeps (traceContract id) (fun _ _ => True) false) (hno : ¬ MayReopen id p) :
    p.Keeps (traceContract id) (fun _ _ => True) true := by
  induction p with
  | done value => exact keeps_done.mpr trivial
  | raised text => exact keeps_raised
  | perform op next ih =>
      obtain ⟨hpermits, hrest⟩ := keeps_perform.mp hkeeps
      have hfinished : (traceContract id).permits true op := by
        cases op with
        | setTrace key document =>
            refine ⟨hpermits.1, fun _ hkey => ?_⟩
            subst hkey
            by_contra hopen
            exact hno (.write (Bool.eq_false_of_not_eq_true hopen))
        | _ => trivial
      refine keeps_perform.mpr ⟨hfinished, fun reply hreply => ?_⟩
      have hnext : ¬ MayReopen id (next reply) := fun h => hno (.later hreply h)
      have hearlier : (traceContract id).answers false op reply := by
        cases op with
        | getTrace key => exact fun trace htrace => ⟨(hreply trace htrace).1, by simp⟩
        | drawId => exact ⟨hreply.1, by simp⟩
        | _ => exact hreply
      have hkept := hrest reply hearlier
      cases op with
      | setTrace key document =>
          -- What is written under the name of the trace is finished.
          by_cases hwritten : reply = true ∧ key = id
          · have hterminal := hfinished.2 rfl hwritten.2
            simpa [traceContract, hwritten, hterminal] using hkept
          · simp only [traceContract, hwritten, if_false] at hkept ⊢
            exact ih reply hkept hnext
      | _ => exact ih reply hkept hnext

end Condition

section Steps

variable {id : String} {setup : RecoverySetup} {around : Surroundings} {s : RecoveryState}
  {op : RecoveryOp}

theorem isFinished_congr {other : RecoveryState}
    (hsame : other.redis.recoveryTraces = s.redis.recoveryTraces) :
    isFinished id other = isFinished id s := by
  simp only [isFinished, RedisRuntime.getRecoveryTrace, hsame]

theorem isUnfinished_of_isFinished (hfinished : isFinished id s = true) :
    isUnfinished id s = false := by
  unfold isFinished at hfinished
  unfold isUnfinished
  cases htrace : s.redis.getRecoveryTrace id with
  | none => rfl
  | some trace =>
      simp only [htrace, Option.any_some, isTerminalTrace, decide_eq_true_eq,
        List.mem_cons, List.not_mem_nil, or_false] at hfinished
      simp only [Option.any_some, decide_eq_false_iff_not, List.mem_cons, List.not_mem_nil,
        or_false]
      obtain hstatus | hstatus := hfinished
      · rw [hstatus]
        decide
      · rw [hstatus]
        decide

/-- Only writing a trace changes the traces. -/
theorem exec_recoveryTraces (hop : ∀ key document, op ≠ .setTrace key document) :
    (op.exec setup around s).2.redis.recoveryTraces = s.redis.recoveryTraces := by
  cases op with
  | setTrace key document => exact absurd rfl (hop key document)
  | setEvaluation runId document =>
      rw [RecoveryOp.exec]
      split_ifs <;> rfl
  | _ => rfl

/-- A trace that is written is the one its name leads to. -/
theorem getRecoveryTrace_exec_setTrace (key document other) :
    ((RecoveryOp.setTrace key document).exec setup around s).2.redis.getRecoveryTrace other =
      if around.redisFails = false ∧ other = key then some document
      else s.redis.getRecoveryTrace other := by
  cases hfails : around.redisFails with
  | true => simp [RecoveryOp.exec, hfails]
  | false =>
      by_cases hkey : other = key
      · subst hkey
        simp [RecoveryOp.exec, hfails, RedisRuntime.getRecoveryTrace]
      · simp [RecoveryOp.exec, hfails, RedisRuntime.getRecoveryTrace, hkey]

theorem exec_wellKept (hkept : WellKept s.redis)
    (hnames : ∀ key document, op = .setTrace key document → Names key document) :
    WellKept (op.exec setup around s).2.redis := by
  intro other trace htrace
  cases op with
  | setTrace key document =>
      rw [getRecoveryTrace_exec_setTrace] at htrace
      split_ifs at htrace with hwritten
      · rw [hwritten.2, ← Option.some.inj htrace]
        exact hnames key document rfl
      · exact hkept other trace htrace
  | _ =>
      rw [RedisRuntime.getRecoveryTrace, exec_recoveryTraces (by simp)] at htrace
      exact hkept other trace htrace

theorem isSpace_hexDigit (digit : Fin 16) : Text.isSpace (hexDigit digit) = false := by
  revert digit
  decide +kernel

theorem strip_drawnId (digits : List (Fin 16)) :
    Text.strip ("rt_" ++ hexText digits) = "rt_" ++ hexText digits := by
  apply Text.strip_of_noSpace
  intro c hc
  simp only [hexText, String.toList_append, String.toList_ofList, List.mem_append,
    List.mem_map] at hc
  obtain hc | ⟨digit, -, rfl⟩ := hc
  · have hplain : (['r', 't', '_'].all fun c => !Text.isSpace c) = true := by decide
    simpa using List.all_eq_true.mp hplain c hc
  · exact isSpace_hexDigit digit

/-- Redis, the store and the outside answer as the contract about a trace has it. -/
theorem exec_answers (hkept : WellKept s.redis)
    (hfresh : op = .drawId →
      s.redis.getRecoveryTrace ("rt_" ++ hexText around.drawn) = none) :
    (traceContract id).answers (isFinished id s) op (op.exec setup around s).1 := by
  cases op with
  | getTrace key =>
      intro trace htrace
      simp only [RecoveryOp.exec] at htrace
      split_ifs at htrace
      · simp at htrace
      · refine ⟨hkept key trace htrace, fun hfinished hkey => ?_⟩
        subst hkey
        simp only [isFinished, Option.mem_def.mp htrace, Option.any_some] at hfinished
        exact hfinished
  | scanTraces =>
      intro keys hkeys
      simp only [RecoveryOp.exec] at hkeys
      split_ifs at hkeys
      · simp at hkeys
      · rw [← Option.some.inj hkeys]
        exact List.nodup_dedup _
  | drawId =>
      refine And.intro (strip_drawnId around.drawn) fun hfinished hsame => ?_
      have hnone := hfresh rfl
      simp only [RecoveryOp.exec] at hsame
      rw [hsame] at hnone
      simp [isFinished, hnone] at hfinished
  | _ => trivial

theorem isFinished_exec :
    isFinished id (op.exec setup around s).2 =
      (traceContract id).advance (isFinished id s) op (op.exec setup around s).1 := by
  cases op with
  | setTrace key document =>
      simp only [isFinished, getRecoveryTrace_exec_setTrace, traceContract]
      cases hfails : around.redisFails with
      | true => simp [RecoveryOp.exec, hfails]
      | false =>
          by_cases hkey : id = key
          · simp [RecoveryOp.exec, hfails, hkey]
          · simp [RecoveryOp.exec, hfails, hkey, Ne.symm hkey]
  | _ => exact isFinished_congr (exec_recoveryTraces (by simp))

end Steps

section Runs

variable {setup : RecoverySetup} {s : RecoverySystem} {step : RecoveryStep}

/-- Traces are kept under their names and every client keeps the contract about each of them. -/
structure WellRun (s : RecoverySystem) : Prop where
  wellKept : WellKept s.state.redis
  sound : ∀ id, s.Sound (traceContract id) (isFinished id)

theorem wellRun_atRest (kept : KeptTraces) (store : MemoryStore) :
    WellRun (RecoverySystem.atRest kept store) :=
  ⟨kept.wellKept, fun _ _ => keeps_done.mpr trivial⟩

/-- What a client is about to do is permitted to it. -/
theorem WellRun.permits (hrun : WellRun s) (id : String) {client : Nat} {op : RecoveryOp}
    {next : op.Reply → RecoveryProgram TaskAnswer} (hclient : s.client client = .perform op next) :
    (traceContract id).permits (isFinished id s.state) op := by
  have hkeeps := hrun.sound id client
  rw [hclient] at hkeeps
  exact (keeps_perform.mp hkeeps).1

/-- An operation that is permitted leaves a finished trace finished. -/
theorem isFinished_exec_of_permits {id : String} {around : Surroundings} {op : RecoveryOp}
    {r : RecoveryState} (hpermits : (traceContract id).permits (isFinished id r) op)
    (hfinished : isFinished id r = true) : isFinished id (op.exec setup around r).2 = true := by
  rw [isFinished_exec]
  cases op with
  | setTrace key document =>
      dsimp only [traceContract]
      split_ifs with hwritten
      · exact hpermits.2 hfinished hwritten.2
      · exact hfinished
  | _ => exact hfinished

theorem isFinished_step {id : String} (hrun : WellRun s)
    (hfinished : isFinished id s.state = true) :
    isFinished id (RecoverySystem.step setup s step).state = true := by
  cases step with
  | begin client task => simpa [RecoverySystem.step] using hfinished
  | store call => exact hfinished
  | perform client around =>
      cases hclient : s.client client with
      | perform op next =>
          rw [RecoverySystem.step, Pool.perform_eq hclient]
          exact isFinished_exec_of_permits (hrun.permits id hclient) hfinished
      | _ =>
          rw [RecoverySystem.step, Pool.perform_eq_self (by simp [hclient])]
          exact hfinished

/-- A trace is finished by whoever writes it as finished. -/
theorem setTrace_of_isFinished_exec {id : String} {around : Surroundings} {op : RecoveryOp}
    {r : RecoveryState} (hbefore : isFinished id r = false)
    (hafter : isFinished id (op.exec setup around r).2 = true) :
    ∃ document, op = .setTrace id document ∧ isTerminalTrace document := by
  rw [isFinished_exec] at hafter
  cases op with
  | setTrace key document =>
      dsimp only [traceContract] at hafter
      split_ifs at hafter with hwritten
      · exact ⟨document, by rw [hwritten.2], hafter⟩
      · simp [hbefore] at hafter
  | _ => exact absurd (hbefore.symm.trans hafter) (by simp)

/-- The clients that wait keep the contract while another one performs an operation. -/
theorem WellRun.others (hrun : WellRun s) {client other : Nat} {around : Surroundings}
    (hadmissible : Admissible s (.perform client around)) (hne : other ≠ client) (id : String) :
    (s.client other).Keeps (traceContract id) (fun _ _ => True)
      (isFinished id (s.perform (fun op => op.exec setup around) client).state) := by
  have hkeeps := hrun.sound id other
  cases hclient : s.client client with
  | perform op next =>
      rw [Pool.perform_eq hclient]
      cases hbefore : isFinished id s.state with
      | true =>
          rw [hbefore] at hkeeps
          rwa [isFinished_exec_of_permits (hrun.permits id hclient) hbefore]
      | false =>
          rw [hbefore] at hkeeps
          cases hafter : isFinished id (op.exec setup around s.state).2 with
          | false => exact hkeeps
          | true =>
              -- The trace is finished here, and the others work on no older copy of it.
              obtain ⟨document, rfl, hterminal⟩ := setTrace_of_isFinished_exec hbefore hafter
              apply keeps_of_not_mayReopen hkeeps
              exact hadmissible.exclusive client around id document next rfl hclient hterminal
                other hne
  | _ =>
      rw [Pool.perform_eq_self (by simp [hclient])]
      exact hkeeps

theorem wellRun_step (hrun : WellRun s) (hadmissible : Admissible s step) :
    WellRun (RecoverySystem.step setup s step) := by
  cases step with
  | begin client task =>
      refine ⟨by simpa [RecoverySystem.step] using hrun.wellKept, fun id => ?_⟩
      exact (hrun.sound id).start (careful_program task _)
  | store call => exact ⟨hrun.wellKept, hrun.sound⟩
  | perform client around =>
      constructor
      · cases hclient : s.client client with
        | perform op next =>
            rw [RecoverySystem.step, Pool.perform_eq hclient]
            apply exec_wellKept hrun.wellKept
            intro key document hop
            subst hop
            exact (hrun.permits key hclient).1
        | _ =>
            rw [RecoverySystem.step, Pool.perform_eq_self (by simp [hclient])]
            exact hrun.wellKept
      · intro id
        apply (hrun.sound id).perform
        · intro op next hclient hpermits
          refine ⟨exec_answers hrun.wellKept ?_, isFinished_exec⟩
          intro hop
          subst hop
          exact hadmissible.fresh client around next rfl hclient
        · exact fun other hne => hrun.others hadmissible hne id

end Runs

section Alone

/-- The client that takes a step. -/
def RecoveryStep.client : RecoveryStep → Option Nat
  | .begin client _ | .perform client _ => some client
  | .store _ => none

/-- A step draws an identifier. -/
def RecoveryStep.draws (s : RecoverySystem) : RecoveryStep → Bool
  | .perform client _ =>
      match s.client client with
      | .perform .drawId _ => true
      | _ => false
  | .begin _ _ | .store _ => false

variable {setup : RecoverySetup} {s : RecoverySystem}

theorem not_mayReopen_done {id : String} {α : Type} (value : α) :
    ¬ MayReopen id (done value : RecoveryProgram α) := by
  intro hreopen
  cases hreopen

theorem step_client_of_ne {step : RecoveryStep} {other : Nat}
    (hne : ∀ i, step.client = some i → other ≠ i) :
    (RecoverySystem.step setup s step).client other = s.client other := by
  cases step with
  | begin i task => exact Pool.start_client_of_ne (hne i rfl)
  | perform i around => exact Pool.perform_client_of_ne (hne i rfl)
  | store call => rfl

/-- A client that works alone finishes no trace over the copy of another. -/
theorem along_admissible_of_alone (client : Nat) {steps : List RecoveryStep}
    (hidle : ∀ other ≠ client, s.client other = .done none)
    (hclient : ∀ step ∈ steps, ∀ i, step.client = some i → i = client)
    (hdraws : Runs.Along (RecoverySystem.step setup) (fun s step => step.draws s = false) s steps) :
    Runs.Along (RecoverySystem.step setup) Admissible s steps := by
  induction steps generalizing s with
  | nil => exact Runs.along_nil
  | cons step rest ih =>
      obtain ⟨hdraw, hrest⟩ := Runs.along_cons.mp hdraws
      refine Runs.along_cons.mpr ⟨⟨?_, ?_⟩, ?_⟩
      · intro i around id document next hstep _ _ other hne
        subst hstep
        rw [hclient _ List.mem_cons_self i rfl] at hne
        rw [hidle other hne]
        exact not_mayReopen_done none
      · intro i around next hstep hnext
        subst hstep
        simp [RecoveryStep.draws, hnext] at hdraw
      · apply ih _ (fun later hlater => hclient later (List.mem_cons_of_mem _ hlater)) hrest
        intro other hne
        rw [step_client_of_ne, hidle other hne]
        intro i hi heq
        exact hne (heq.trans (hclient step List.mem_cons_self i hi))

end Alone

section Absorbing

theorem WellKept.sync {redis : RedisRuntime} (hkept : WellKept redis) {recoveryTraceId : String}
    (hplain : Text.strip recoveryTraceId = recoveryTraceId) (payload : Dict) (isoNow : String) :
    WellKept (redis.syncRecoveryTrace recoveryTraceId payload isoNow) := by
  intro other trace htrace
  by_cases hsame : other = recoveryTraceId
  · subst hsame
    rw [RedisRuntime.getRecoveryTrace_syncRecoveryTrace] at htrace
    rw [← Option.some.inj htrace]
    exact names_stamped hplain payload _
  · rw [RedisRuntime.getRecoveryTrace_syncRecoveryTrace_of_ne _ hsame] at htrace
    exact hkept other trace htrace

/-- An active trace whose residual is not known, opened at the start of 2024. -/
def KeptTraces.hung : KeptTraces where
  redis := RedisRuntime.empty.syncRecoveryTrace "rt_1"
    [("status", .str "active"), ("opened_at", .str "2024-01-01T00:00:00Z")] "2024-01-01T00:00:00Z"
  wellKept := WellKept.sync (by simp [WellKept, RedisRuntime.getRecoveryTrace, RedisRuntime.empty])
    (by decide +kernel) _ _

def standardSetup : RecoverySetup := ⟨.ofConfig 30 15 3 15, .default, .counting, true⟩

def minuteLater : Surroundings where
  now := 63839750460 * Datetime.microsPerSecond
  isoNow := "2024-01-01T00:01:00Z"

/-- A client works on a task for a number of operations. -/
def worksOn (client : Nat) (task : RecoveryTask) (operations : Nat) : List RecoveryStep :=
  .begin client task :: List.replicate operations (.perform client minuteLater)

/-- An operator finds that nothing is left of the exposure of the trace. -/
def RecoveryTask.resolveHung : RecoveryTask :=
  .operate .resolve "rt_1" [("residual_exposure_quote", .int 0)]

/-- In a run in which no trace is finished over an older copy that another client
works on, a finished trace is never active nor waiting for its handoff again. -/
theorem runs_finished_absorbing (setup : RecoverySetup) (kept : KeptTraces) (store : MemoryStore)
    (steps : List RecoveryStep)
    (halong : Runs.Along (RecoverySystem.step setup) Admissible
      (RecoverySystem.atRest kept store) steps)
    (id : String) (first second : List RecoveryStep) (hsteps : first ++ second <+: steps)
    (hfinished : isFinished id
      (Runs.after (RecoverySystem.step setup) (RecoverySystem.atRest kept store) first).state) :
    isUnfinished id (Runs.after (RecoverySystem.step setup) (RecoverySystem.atRest kept store)
      (first ++ second)).state = false := by
  have hpersists : Runs.Persists (RecoverySystem.step setup)
      (fun s => isFinished id s.state = true) (RecoverySystem.atRest kept store) steps :=
    halong.persists (wellRun_atRest kept store) (fun _ _ => wellRun_step)
      fun _ _ hrun _ => isFinished_step hrun
  apply isUnfinished_of_isFinished
  exact hpersists first second hsteps hfinished

/-- An operator who resolves the trace, and then asks for its handoff. -/
theorem runs_finished_absorbing_resolved :
    isUnfinished "rt_1" (Runs.after (RecoverySystem.step standardSetup)
      (RecoverySystem.atRest .hung (MemoryStore.empty ["bot"]))
      (worksOn 0 .resolveHung 6 ++ worksOn 0 (.operate .handoff "rt_1" []) 1)).state = false := by
  apply runs_finished_absorbing standardSetup .hung (MemoryStore.empty ["bot"])
    (worksOn 0 .resolveHung 6 ++ worksOn 0 (.operate .handoff "rt_1" []) 1)
  · apply along_admissible_of_alone 0
    · exact fun other _ => rfl
    · decide +kernel
    · decide +kernel
  · exact List.prefix_refl _
  · decide +kernel

/-- The tick hands the trace over after the operator has resolved it. -/
theorem not_runs_finished_absorbing : ¬ ∀ (setup : RecoverySetup) (kept : KeptTraces)
    (store : MemoryStore) (id : String) (first second : List RecoveryStep),
      isFinished id (Runs.after (RecoverySystem.step setup)
        (RecoverySystem.atRest kept store) first).state →
      isUnfinished id (Runs.after (RecoverySystem.step setup)
        (RecoverySystem.atRest kept store) (first ++ second)).state = false := by
  intro hall
  have hstays := hall standardSetup .hung (MemoryStore.empty ["bot"]) "rt_1"
    (worksOn 0 .tick 4 ++ worksOn 1 .resolveHung 6)
    (List.replicate 13 (.perform 0 minuteLater))
  revert hstays
  decide +kernel

end Absorbing

end TradingPlatform.Routes

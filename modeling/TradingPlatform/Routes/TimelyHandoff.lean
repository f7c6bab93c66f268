import TradingPlatform.Execution.Reporting
import TradingPlatform.Recovery.TickCoverage
import TradingPlatform.Routes.HandoffFlags

/-! # Active traces come to their handoff

An active trace without the flag leaves its status once it is processed late. As
long as nobody makes a flagged trace active again, this holds of every active
trace that is ever stored.
-/

namespace TradingPlatform.Routes

open Programs Program Storage TradingPlatform.Runtime Recovery RecoveryProgram

section Leaving

/-- What a program counts on that works on one trace alone and late: it reads what is
stored, and what it writes is stored. -/
def leaveContract (id : String) (isLate : Int → Prop) :
    Contract RecoveryOp RecoveryOp.Reply (Option Dict) where
  permits _ _ := True
  answers stored op :=
    match op with
    | .getTrace key => fun found => key = id → ∀ trace ∈ found, stored = some trace
    | .setTrace _ _ => fun written => written = true
    | .now => fun now => isLate now
    | _ => fun _ => True
  advance stored op :=
    match op with
    | .setTrace key document => fun _ => if key = id then some document else stored
    | _ => fun _ => stored

variable {α : Type} {id : String} {isLate : Int → Prop} {stored : Option Dict}
  {setup : RecoverySetup}

/-- Operations that leave the traces alone and may answer anything. -/
def Idle : RecoveryOp → Prop
  | .getTrace _ | .setTrace _ _ | .now => False
  | _ => True

theorem leaves_ask_bind {op : RecoveryOp} {f : op.Reply → RecoveryProgram α}
    {promise : α → Option Dict → Prop} (hop : Idle op)
    (hf : ∀ reply, (f reply).Keeps (leaveContract id isLate) promise stored) :
    (ask op >>= f).Keeps (leaveContract id isLate) promise stored := by
  refine keeps_bind.mpr (keeps_operation.mpr ⟨trivial, fun reply _ => ?_⟩)
  cases op with
  | getTrace | setTrace | now => exact False.elim hop
  | _ => exact hf reply

theorem leaves_now_bind {f : Int → RecoveryProgram α} {promise : α → Option Dict → Prop}
    (hf : ∀ now, isLate now → (f now).Keeps (leaveContract id isLate) promise stored) :
    (ask .now >>= f).Keeps (leaveContract id isLate) promise stored :=
  keeps_bind.mpr (keeps_perform.mpr ⟨trivial, fun now hnow => keeps_done.mpr (hf now hnow)⟩)

/-- The document that is stored when a trace is written. -/
theorem leaves_syncRecoveryTrace (payload : Dict) :
    (syncRecoveryTrace id payload).Keeps (leaveContract id isLate)
      (fun _ after => ∃ updatedAt, after = some (payload.merge
        [("recovery_trace_id", .str id), ("updated_at", updatedAt)])) stored := by
  refine leaves_ask_bind trivial fun updatedAt => ?_
  refine keeps_bind.mpr (keeps_perform.mpr ⟨trivial, fun written _ => keeps_done.mpr ?_⟩)
  exact keeps_pure.mpr ⟨.str updatedAt, if_pos rfl⟩

theorem leaves_carryOver (runId : String) :
    (carryOver id runId).Keeps (leaveContract id isLate)
      (fun latest after => after = stored ∧ ∀ trace ∈ latest, stored = some trace) stored := by
  unfold carryOver
  split
  · exact keeps_pure.mpr ⟨rfl, by simp⟩
  · refine keeps_bind.mpr (keeps_perform.mpr ⟨trivial, fun found hfound => keeps_done.mpr ?_⟩)
    cases found with
    | none => exact keeps_pure.mpr ⟨rfl, by simp⟩
    | some latest =>
        have hcarried : (syncArbitrageEvaluationRecoveryState runId latest).Keeps
            (leaveContract id isLate) (fun _ after => after = stored) stored := by
          refine leaves_ask_bind trivial fun evaluation => ?_
          cases evaluation with
          | none => exact keeps_pure.mpr rfl
          | some current =>
              refine leaves_ask_bind trivial fun cachedAt => ?_
              exact leaves_ask_bind trivial fun _ => keeps_pure.mpr rfl
        apply hcarried.bind
        intro _ after hafter
        exact keeps_pure.mpr ⟨hafter, hfound rfl⟩

/-- The fields that decide whether a trace times out are those of an earlier copy. -/
structure SameTerms (trace later : Dict) : Prop where
  flag : later.get "manual_handoff_required" = trace.get "manual_handoff_required"
  openedAt : later.get "opened_at" = trace.get "opened_at"
  createdAt : later.get "created_at" = trace.get "created_at"

theorem SameTerms.refl (trace : Dict) : SameTerms trace trace := ⟨rfl, rfl, rfl⟩

theorem SameTerms.merge {trace later patch : Dict} (hsame : SameTerms trace later)
    (hkeys : ∀ field ∈ ["manual_handoff_required", "opened_at", "created_at"],
      field ∉ patch.map Prod.fst) : SameTerms trace (later.merge patch) := by
  refine ⟨?_, ?_, ?_⟩
  · rw [Dict.get_merge_of_notMem _ _ (hkeys _ (by simp)), hsame.flag]
  · rw [Dict.get_merge_of_notMem _ _ (hkeys _ (by simp)), hsame.openedAt]
  · rw [Dict.get_merge_of_notMem _ _ (hkeys _ (by simp)), hsame.createdAt]

theorem leaves_autoRecordReconciliation {trace : Dict} (hnames : Names id trace)
    (listing : ReadStore) :
    (RecoveryProgram.autoRecordReconciliation setup trace listing).Keeps (leaveContract id isLate)
      (fun reconciled _ => Names id reconciled ∧ SameTerms trace reconciled) stored := by
  refine leaves_ask_bind trivial fun connectors => ?_
  split
  · exact keeps_pure.mpr ⟨hnames, .refl trace⟩
  · refine leaves_ask_bind trivial fun later => ?_
    refine leaves_ask_bind trivial fun observedAt => ?_
    split
    next => exact keeps_raised
    next => exact keeps_pure.mpr ⟨hnames, .refl trace⟩
    next snapshot hsnapshot =>
      refine leaves_ask_bind trivial fun recordedAt => ?_
      have hfields := @map_fst_reconciliationPatch trace snapshot recordedAt
        (map_fst_snapshot hsnapshot)
      have hsame :
          SameTerms trace (trace.merge (reconciliationPatch trace snapshot recordedAt)) := by
        apply (SameTerms.refl trace).merge
        rw [hfields]
        decide
      have hupdated : Names id (trace.merge (reconciliationPatch trace snapshot recordedAt)) := by
        refine ⟨?_, hnames.plain⟩
        rw [traceText, Dict.get_merge_of_notMem _ _ (by rw [hfields]; decide)]
        exact hnames.named
      rw [show Text.strip (traceText trace "recovery_trace_id") = id by
        rw [hnames.named, hnames.plain]]
      apply (leaves_syncRecoveryTrace _).bind
      intro _ after hafter
      obtain ⟨updatedAt, hafter⟩ := hafter
      apply (leaves_carryOver _).bind
      intro latest last hlatest
      refine keeps_pure.mpr ?_
      cases latest with
      | none => exact ⟨hupdated, hsame⟩
      | some latest =>
          have hstored := hlatest.2 latest rfl
          rw [hafter, Option.some.injEq] at hstored
          rw [Option.getD_some, ← hstored]
          exact ⟨names_stamped hnames.plain _ _, hsame.merge (by simp)⟩

/-- A late trace without the flag is not left as it is. -/
theorem leaves_judgeTrace (orders : List Order) {trace : Dict} (hunflagged : unflagged trace)
    (hlate : ∀ now, isLate now →
      (traceAgeSeconds trace now).any (setup.settings.handoffAfterSeconds < ·)) :
    (judgeTrace setup orders trace).Keeps (leaveContract id isLate)
      (fun verdict _ => (∃ handoff, verdict = .handedOff handoff) ∨
        ∃ reason, verdict = .resolved reason) stored := by
  refine leaves_now_bind fun resultChecked _ => ?_
  refine leaves_now_bind fun stalenessChecked _ => ?_
  refine leaves_ask_bind trivial fun intents => ?_
  by_cases hobserved : observationOverflows trace = true
  · rw [if_pos hobserved]
    exact keeps_raised
  rw [if_neg hobserved]
  split
  next handoff _ => exact keeps_pure.mpr (Or.inl ⟨handoff, rfl⟩)
  next =>
    split
    next reason _ => exact keeps_pure.mpr (Or.inr ⟨reason, rfl⟩)
    next =>
      refine leaves_ask_bind trivial fun failing => ?_
      refine leaves_ask_bind trivial fun hanging => ?_
      refine leaves_now_bind fun unwindChecked _ => ?_
      split
      next handoff _ => exact keeps_pure.mpr (Or.inl ⟨handoff, rfl⟩)
      next =>
        by_cases hdated : unwindDateOverflows hanging trace = true
        · rw [if_pos hdated]
          exact keeps_raised
        rw [if_neg hdated]
        split
        next handoff _ => exact keeps_pure.mpr (Or.inl ⟨handoff, rfl⟩)
        next =>
          by_cases hflat : (!hasActiveOrders orders) = true ∧
              (residualExposureQuote trace).map Decimal.value = some 0
          · rw [if_pos hflat]
            exact keeps_pure.mpr (Or.inr ⟨_, rfl⟩)
          · rw [if_neg hflat]
            refine leaves_now_bind fun ageChecked hchecked => ?_
            have hflag : (!(trace.get "manual_handoff_required").truthy) = true := by
              rw [show trace.get "manual_handoff_required" = .bool false from hunflagged]
              rfl
            split_ifs
            · exact keeps_raised
            · exact keeps_pure.mpr (Or.inl ⟨_, rfl⟩)
            next hkept => exact absurd ⟨hlate ageChecked hchecked, hflag⟩ hkept

theorem leaves_applyVerdict {trace : Dict} (hnames : Names id trace) {verdict : TraceVerdict}
    (hverdict : (∃ handoff, verdict = .handedOff handoff) ∨ ∃ reason, verdict = .resolved reason) :
    (applyVerdict trace verdict).Keeps (leaveContract id isLate)
      (fun _ after => ∃ last, after = some last ∧ ¬ isActive last) stored := by
  have hwrite : ∀ payload runId status, payload.get "status" = .str status →
      normalizedText (.str status) ≠ "active" → (do
        syncRecoveryTrace (traceText trace "recovery_trace_id") payload
        let _ ← carryOver (traceText trace "recovery_trace_id") runId).Keeps
          (leaveContract id isLate) (fun _ after => ∃ last, after = some last ∧ ¬ isActive last)
            stored := by
    intro payload runId status hstatus hother
    rw [hnames.named]
    apply (leaves_syncRecoveryTrace payload).bind
    intro _ after hafter
    obtain ⟨updatedAt, rfl⟩ := hafter
    apply (leaves_carryOver runId).bind
    intro _ last hlast
    refine keeps_pure.mpr ⟨_, hlast.1, ?_⟩
    rw [isActive_merge (by simp), isActive, hstatus]
    exact hother
  rcases hverdict with ⟨handoff, rfl⟩ | ⟨reason, rfl⟩
  · refine leaves_ask_bind trivial fun alertId => ?_
    exact hwrite _ _ _ (status_handedOffTrace _ _ _) normalizedText_handoff
  · refine leaves_ask_bind trivial fun closedAt => ?_
    exact hwrite _ _ _ (status_resolvedTrace _ _ _) normalizedText_resolved

theorem leaves_processTrace {trace : Dict} (hnames : Names id trace) (hnonempty : id ≠ "")
    (hunflagged : unflagged trace)
    (hlate : ∀ now, isLate now →
      (traceAgeSeconds trace now).any (setup.settings.handoffAfterSeconds < ·)) :
    (RecoveryProgram.processTrace setup trace).Keeps (leaveContract id isLate)
      (fun _ after => ∃ last, after = some last ∧ ¬ isActive last) stored := by
  unfold RecoveryProgram.processTrace
  rw [if_neg (by rw [hnames.named]; exact hnonempty)]
  refine leaves_ask_bind trivial fun listing => ?_
  apply (leaves_autoRecordReconciliation hnames listing).bind
  intro reconciled after hreconciled
  obtain ⟨hnamed, hsame⟩ := hreconciled
  have hflag : unflagged reconciled := hsame.flag.trans hunflagged
  have hage : ∀ now, isLate now →
      (traceAgeSeconds reconciled now).any (setup.settings.handoffAfterSeconds < ·) := by
    intro now hnow
    rw [traceAgeSeconds, hsame.openedAt, hsame.createdAt]
    exact hlate now hnow
  apply (leaves_judgeTrace _ hflag hage).bind
  intro verdict last hverdict
  exact leaves_applyVerdict hnamed hverdict

end Leaving

section Handoff

variable (setup : RecoverySetup) (course : Course)

/-- Redis takes every trace that a program writes. -/
def TakesTraces {α : Type} (p : RecoveryProgram α) (s : RecoveryState × Nat) : Prop :=
  p.Meets (course.exec setup)
    (fun op now => ∀ key document, op = .setTrace key document →
      (course.around now.2).redisFails = false) s

/-- A trace is older than traces may become before they are handed over. -/
def isOverdue (trace : Dict) (now : Int) : Prop :=
  (traceAgeSeconds trace now).any (setup.settings.handoffAfterSeconds < ·)

/-- Processing the stored trace once, at a time when it is overdue, makes it inactive,
provided that Redis takes what is written, that what the exchanges say can be read, and
that no date is outside the calendar. -/
def TimesOut (id : String) (trace : Dict) (s : RecoveryState) : Prop :=
  ∀ course : Course, course.Undisturbed →
    TakesTraces setup course (RecoveryProgram.processTrace setup trace) (s, 0) →
    ¬ ProcessingFails setup course trace s 0 →
    (∀ turn, isOverdue setup trace (course.around turn).now) →
    ∃ last, ((course.run setup (RecoveryProgram.processTrace setup trace)
      (s, 0)).2.1.redis.getRecoveryTrace id) = some last ∧ ¬ isActive last

variable {setup course}

/-- A program by itself is answered as the contract about leaving has it. -/
theorem exec_leaves {id : String} {trace : Dict} (halone : course.Undisturbed)
    (hlate : ∀ turn, isOverdue setup trace (course.around turn).now) (op : RecoveryOp)
    (s : RecoveryState × Nat)
    (htaken : ∀ key document, op = .setTrace key document →
      (course.around s.2).redisFails = false) :
    (leaveContract id (isOverdue setup trace)).answers (s.1.redis.getRecoveryTrace id) op
        (course.exec setup op s).1 ∧
      (course.exec setup op s).2.1.redis.getRecoveryTrace id =
        (leaveContract id (isOverdue setup trace)).advance (s.1.redis.getRecoveryTrace id) op
          (course.exec setup op s).1 := by
  simp only [Course.exec, halone s.2 s.1]
  cases op with
  | setTrace key document =>
      have hanswers := htaken key document rfl
      refine ⟨by simp [leaveContract, RecoveryOp.exec, hanswers], ?_⟩
      rw [getRecoveryTrace_exec_setTrace]
      simp only [hanswers, true_and, leaveContract]
      exact if_congr eq_comm rfl rfl
  | getTrace key =>
      refine ⟨fun hkey found hfound => ?_, rfl⟩
      subst hkey
      simp only [RecoveryOp.exec] at hfound
      split at hfound
      · cases hfound
      · exact hfound
  | now => exact ⟨hlate s.2, rfl⟩
  | _ =>
      refine ⟨trivial, ?_⟩
      rw [RedisRuntime.getRecoveryTrace, exec_recoveryTraces (by simp)]
      rfl

theorem timesOut_of_unflagged {id : String} {trace : Dict} {s : RecoveryState}
    (hpunctual : Punctual id trace) (hflag : unflagged trace) : TimesOut setup id trace s := by
  intro course halone htakes hfails hlate
  have hraises := (raises_processTrace_iff halone trace s 0).not.mpr hfails
  cases hrun : course.run setup (RecoveryProgram.processTrace setup trace) (s, 0) with
  | mk outcome after =>
      cases outcome with
      | error text => exact absurd ⟨text, after, hrun⟩ hraises
      | ok value =>
          have hleaves : (RecoveryProgram.processTrace setup trace).Keeps
              (leaveContract id (isOverdue setup trace))
              (fun _ after => ∃ last, after = some last ∧ ¬ isActive last)
              (s.redis.getRecoveryTrace id) :=
            leaves_processTrace hpunctual.names hpunctual.nonempty hflag fun _ h => h
          exact Keeps.run (g := fun s => s.1.redis.getRecoveryTrace id) hleaves htakes
            (fun op s htaken => exec_leaves halone hlate op s htaken) hrun

end Handoff

section Runs

variable {setup : RecoverySetup} {s : RecoverySystem} {step : ServiceStep}

/-- Traces as the service keeps them, the active ones without the flag. -/
structure TimedTraces where
  redis : RedisRuntime
  punctual : ∀ key trace, redis.getRecoveryTrace key = some trace → Punctual key trace

/-- No client is at work. -/
def RecoverySystem.idle (timed : TimedTraces) (store : MemoryStore) : RecoverySystem :=
  ⟨⟨timed.redis, store⟩, fun _ => .done none⟩

/-- Nobody makes a trace active whose flag is set, without taking the flag back. -/
def TakesFlagsBack (s : RecoverySystem) (step : ServiceStep) : Prop :=
  ∀ client around id, step = .perform client around → Overlooks id (s.client client) →
    ∀ trace, s.state.redis.getRecoveryTrace id = some trace →
      isTerminalTrace trace ∨ unflagged trace

/-- Active traces carry no flag, and every client is heedful. -/
structure Timely (s : RecoverySystem) : Prop where
  punctual : ∀ key trace, s.state.redis.getRecoveryTrace key = some trace → Punctual key trace
  heedful : ∀ client, Heedful (s.client client)

theorem timely_idle (timed : TimedTraces) (store : MemoryStore) :
    Timely (RecoverySystem.idle timed store) :=
  ⟨timed.punctual, fun _ => heedful_pure none⟩

/-- What an operation answers a client while active traces carry no flag. -/
theorem exec_flagContract {r : RecoveryState} {around : Surroundings}
    (hpunctual : ∀ key trace, r.redis.getRecoveryTrace key = some trace → Punctual key trace)
    (op : RecoveryOp) : flagContract.answers () op (op.exec setup around r).1 := by
  cases op with
  | getTrace key =>
      intro trace htrace
      simp only [RecoveryOp.exec] at htrace
      split at htrace
      · cases htrace
      · exact hpunctual key trace htrace
  | drawId => exact strip_drawnId around.drawn
  | _ => trivial

theorem punctual_exec {r : RecoveryState} {around : Surroundings} {op : RecoveryOp}
    (hpunctual : ∀ key trace, r.redis.getRecoveryTrace key = some trace → Punctual key trace)
    (hpermits : flagContract.permits () op) (other : String) (trace : Dict)
    (htrace : (op.exec setup around r).2.redis.getRecoveryTrace other = some trace) :
    Punctual other trace := by
  cases op with
  | setTrace key document =>
      rw [getRecoveryTrace_exec_setTrace] at htrace
      split_ifs at htrace with hwritten
      · rw [hwritten.2, ← Option.some.inj htrace]
        exact hpermits
      · exact hpunctual other trace htrace
  | _ =>
      rw [RedisRuntime.getRecoveryTrace, exec_recoveryTraces (by simp)] at htrace
      exact hpunctual other trace htrace

theorem timely_step (htimely : Timely s) (htakes : TakesFlagsBack s step) :
    Timely (s.serve setup step) := by
  cases step with
  | begin client task =>
      refine ⟨by simpa [RecoverySystem.serve] using htimely.punctual, fun other => ?_⟩
      rcases @Pool.start_client_cases _ _ _ _ s client (task.program setup) other with
        hsame | hbegun
      · rw [RecoverySystem.serve, hsame]
        exact htimely.heedful other
      · rw [RecoverySystem.serve, hbegun]
        exact heedful_program task
  | store call => exact ⟨htimely.punctual, htimely.heedful⟩
  | evaluate runId document => exact ⟨htimely.punctual, htimely.heedful⟩
  | perform client around =>
      cases hclient : s.client client with
      | perform op next =>
          have hheedful := htimely.heedful client
          rw [hclient] at hheedful
          obtain ⟨hpermits, hrest⟩ := heedful_perform.mp hheedful
          rw [RecoverySystem.serve, Pool.perform_eq hclient]
          refine ⟨punctual_exec htimely.punctual hpermits, fun other => ?_⟩
          dsimp only
          by_cases hne : other = client
          · subst hne
            rw [Function.update_self]
            apply hrest _ (exec_flagContract htimely.punctual op)
            cases op with
            | getTrace id =>
                intro hoverlooks trace htrace
                simp only [RecoveryOp.exec] at htrace
                split at htrace
                · cases htrace
                · exact htakes other around id rfl (hclient ▸ hoverlooks) trace htrace
            | _ => trivial
          · rw [Function.update_of_ne hne]
            exact htimely.heedful other
      | _ =>
          rw [RecoverySystem.serve, Pool.perform_eq_self (by simp [hclient])]
          exact htimely

/-- In a run in which nobody makes a flagged trace active without taking its flag back,
no active trace ever carries the flag, and each of them times out. -/
theorem runs_active_timesOut (setup : RecoverySetup) (timed : TimedTraces) (store : MemoryStore)
    (steps : List ServiceStep)
    (halong : Runs.Along (RecoverySystem.serve setup) TakesFlagsBack
      (RecoverySystem.idle timed store) steps) :
    Runs.Throughout (RecoverySystem.serve setup)
      (fun s => ∀ id trace, s.state.redis.getRecoveryTrace id = some trace → isActive trace →
        trace.get "manual_handoff_required" = .bool false ∧ TimesOut setup id trace s.state)
      (RecoverySystem.idle timed store) steps := by
  have htimely := halong.throughout (timely_idle timed store) fun _ _ hs hstep =>
    timely_step hs hstep
  refine htimely.mono fun s hs id trace htrace hactive => ?_
  have hpunctual := hs.punctual id trace htrace
  have hflag := hpunctual.mayTimeOut hactive
  exact ⟨hflag, timesOut_of_unflagged hpunctual hflag⟩

/-- Whether every stored trace is unflagged can be computed. -/
def allUnflagged (s : RecoverySystem) : Bool :=
  s.state.redis.recoveryTraces.entries.all fun entry =>
    match entry.2.get "manual_handoff_required" with
    | .bool flag => !flag
    | _ => false

theorem takesFlagsBack_of_allUnflagged (hall : allUnflagged s = true) : TakesFlagsBack s step := by
  intro client around id _ _ trace htrace
  have hentry := List.all_eq_true.mp hall ⟨id, trace⟩ (AList.mem_lookup_iff.mp htrace)
  refine Or.inr ?_
  unfold unflagged
  cases hflag : trace.get "manual_handoff_required" with
  | bool flag => simpa [hflag] using hentry
  | _ => simp [hflag] at hentry

/-- A trace whose unwind has been started for an intent. -/
def unwindStartedTrace (intentId : String) : Dict :=
  [("status", .str "active"), ("lifecycle_state", .str "unwind_in_progress"),
    ("manual_handoff_required", .bool false), ("linked_unwind_action_id", .str intentId)]

def unwindIntentId : String := Platform.counting.uuid 1

def unwindingRedis : RedisRuntime :=
  RedisRuntime.empty.syncRecoveryTrace "rt_1" (unwindStartedTrace unwindIntentId)
    "2024-01-01T00:00:00Z"

theorem punctual_unwindingRedis (key : String) (trace : Dict)
    (htrace : unwindingRedis.getRecoveryTrace key = some trace) : Punctual key trace := by
  unfold unwindingRedis at htrace
  by_cases hkey : key = "rt_1"
  · subst hkey
    rw [RedisRuntime.getRecoveryTrace_syncRecoveryTrace] at htrace
    rw [← Option.some.inj htrace]
    refine ⟨names_stamped (by decide +kernel) _ _, by decide, MayTimeOut.stamped ?_ _ _⟩
    intro _
    simp [unflagged, unwindStartedTrace, Dict.get, Dict.get?_cons]
  · rw [RedisRuntime.getRecoveryTrace_syncRecoveryTrace_of_ne _ hkey] at htrace
    simp [RedisRuntime.getRecoveryTrace, RedisRuntime.empty] at htrace

/-- A single trace whose unwind has been started. -/
def TimedTraces.unwinding : TimedTraces := ⟨unwindingRedis, punctual_unwindingRedis⟩

/-- A client works on an operator's request for a number of operations. -/
def operates (client : Nat) (action : OperatorAction) (body : Dict) (operations : Nat) :
    List ServiceStep :=
  .begin client (.recover (.operate action "rt_1" body)) ::
    List.replicate operations (.perform client minuteLater)

def unwindOrderBody : Dict :=
  [("exchange_name", .str "upbit"), ("market", .str "XRP-KRW"), ("side", .str "sell"),
    ("requested_qty", .int 1)]

def unwindingSystem : RecoverySystem :=
  .idle .unwinding (.withIntent .counting (Execution.oneUnitIntent "upbit" "bithumb"))

/-- Where the unwind order is submitted while the trace is active, it goes on timing out. -/
theorem runs_active_timesOut_submitted :
    ∃ trace, (Runs.after (RecoverySystem.serve standardSetup) unwindingSystem
        (operates 0 .submitUnwindOrder unwindOrderBody 7)).state.redis.getRecoveryTrace "rt_1" =
          some trace ∧
      isActive trace ∧ unflagged trace ∧ TimesOut standardSetup "rt_1" trace
        (Runs.after (RecoverySystem.serve standardSetup) unwindingSystem
          (operates 0 .submitUnwindOrder unwindOrderBody 7)).state := by
  have halong : Runs.Along (RecoverySystem.serve standardSetup) (fun s _ => allUnflagged s = true)
      unwindingSystem (operates 0 .submitUnwindOrder unwindOrderBody 7) := by
    decide +kernel
  have hthroughout := runs_active_timesOut standardSetup .unwinding
    (.withIntent .counting (Execution.oneUnitIntent "upbit" "bithumb"))
    (operates 0 .submitUnwindOrder unwindOrderBody 7)
    (halong.mono fun _ _ hall => takesFlagsBack_of_allUnflagged hall)
  have hlast := hthroughout.last
  have hstored : ((Runs.after (RecoverySystem.serve standardSetup) unwindingSystem
      (operates 0 .submitUnwindOrder unwindOrderBody 7)).state.redis.getRecoveryTrace "rt_1").any
        (fun trace => normalizedText (trace.get "status") = "active") = true := by
    decide +kernel
  obtain ⟨trace, htrace, hactive⟩ := (Option.any_eq_true _ _).mp hstored
  have hactive : normalizedText (trace.get "status") = "active" := by simpa using hactive
  exact ⟨trace, htrace, hactive, hlast "rt_1" trace htrace hactive⟩

/-- An operator asks for the handoff of the trace, and another one then submits the
unwind order: the trace is active again, with the flag. -/
theorem not_runs_active_timesOut : ¬ ∀ (setup : RecoverySetup) (timed : TimedTraces)
    (store : MemoryStore) (steps : List ServiceStep),
      Runs.Throughout (RecoverySystem.serve setup)
        (fun s => ∀ id trace, s.state.redis.getRecoveryTrace id = some trace → isActive trace →
          trace.get "manual_handoff_required" = .bool false ∧ TimesOut setup id trace s.state)
        (RecoverySystem.idle timed store) steps := by
  intro hall
  have hlast := (hall standardSetup .unwinding
    (.withIntent .counting (Execution.oneUnitIntent "upbit" "bithumb"))
    (operates 0 .handoff [] 4 ++ operates 1 .submitUnwindOrder unwindOrderBody 7)).last
  have hstored : ((Runs.after (RecoverySystem.serve standardSetup) unwindingSystem
      (operates 0 .handoff [] 4 ++
        operates 1 .submitUnwindOrder unwindOrderBody 7)).state.redis.getRecoveryTrace "rt_1").any
          (fun trace => normalizedText (trace.get "status") = "active" ∧
            (trace.get "manual_handoff_required").truthy) = true := by
    decide +kernel
  obtain ⟨trace, htrace, hflagged⟩ := (Option.any_eq_true _ _).mp hstored
  simp only [decide_eq_true_eq] at hflagged
  have hflag := (hlast "rt_1" trace htrace hflagged.1).1
  rw [hflag] at hflagged
  exact absurd hflagged.2 Bool.false_ne_true

end Runs

end TradingPlatform.Routes

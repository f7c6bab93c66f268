import TradingPlatform.Routes.AbsorbingTraces
import TradingPlatform.Runtime.ExecuteIntent

/-! # The whole service

Everything that works on recovery traces: ticks, operators, and executions whose
submit fails and that open a trace of their own. What else happens to the store
and to the latest evaluations happens between their operations.
-/

namespace TradingPlatform.Routes

open Programs Program Storage TradingPlatform.Runtime Recovery RecoveryProgram Execution

section Alone

variable {setup : RecoverySetup} {around : Surroundings} (s : RecoveryState)

/-- By itself and answered by Redis, a command does what the Redis runtime does. -/
theorem run_syncRecoveryTrace (hanswers : around.redisFails = false) (id : String)
    (payload : Dict) :
    (syncRecoveryTrace id payload).run (fun op => op.exec setup around) s =
      (.ok (), ⟨s.redis.syncRecoveryTrace id payload around.isoNow, s.store⟩) := by
  change (Except.ok (), ((RecoveryOp.setTrace id (payload.merge [("recovery_trace_id", .str id),
    ("updated_at", .str around.isoNow)])).exec setup around s).2) = _
  simp only [RecoveryOp.exec, hanswers, Bool.false_eq_true, if_false]
  rfl

theorem run_syncArbitrageEvaluation (hanswers : around.redisFails = false) (runId : String)
    (payload : Dict) :
    (syncArbitrageEvaluation runId payload).run (fun op => op.exec setup around) s =
      (.ok (), ⟨s.redis.syncArbitrageEvaluation runId payload around.isoNow, s.store⟩) := by
  change (Except.ok (), ((RecoveryOp.setEvaluation runId (payload.merge
    [("strategy_run_id", .str runId), ("cached_at", .str around.isoNow)])).exec setup
      around s).2) = _
  simp only [RecoveryOp.exec, hanswers, Bool.false_eq_true, if_false]
  rfl

theorem run_syncArbitrageEvaluationRecoveryState (hanswers : around.redisFails = false)
    (runId : String) (trace : Dict) :
    (syncArbitrageEvaluationRecoveryState runId trace).run (fun op => op.exec setup around) s =
      (.ok (), ⟨s.redis.syncArbitrageEvaluationRecoveryState runId trace around.isoNow,
        s.store⟩) := by
  have hread : (getArbitrageEvaluation runId).run (fun op => op.exec setup around) s =
      (.ok (s.redis.getArbitrageEvaluation runId), s) := by
    change (Except.ok ((RecoveryOp.getEvaluation runId).exec setup around s).1, s) = _
    simp only [RecoveryOp.exec, hanswers, Bool.false_eq_true, if_false]
  unfold syncArbitrageEvaluationRecoveryState
  rw [run_bind_ok hread, RedisRuntime.syncArbitrageEvaluationRecoveryState]
  cases s.redis.getArbitrageEvaluation runId with
  | none => rfl
  | some current => exact run_syncArbitrageEvaluation s hanswers runId _

end Alone

section Transitions

variable {key : String} {patch : Dict}

/-- What a transition does once it has found the trace open. -/
def writeTransition (key : String) (payload : Dict) : RecoveryProgram Transition := do
  syncRecoveryTrace key payload
  let _ ← carryOver key (Text.strip (traceText payload "run_id"))
  let latest ← getRecoveryTrace key
  pure (.written latest)

/-- The document a transition writes. -/
def transitioned (current : Dict) (status lifecycleState : String) (patch : Dict) : Dict :=
  (current.merge [("status", .str status), ("lifecycle_state", .str lifecycleState)]).merge patch

theorem transitionRecoveryTrace_eq (status lifecycleState : String) :
    transitionRecoveryTrace key status lifecycleState patch = (getRecoveryTrace key >>= fun found =>
      match found with
      | none => pure .missing
      | some current =>
          if isTerminalTrace current then pure (.terminal current)
          else writeTransition key (transitioned current status lifecycleState patch)) := rfl

end Transitions

section FailedSubmits

/-- Carry a trace that has just been opened over to the evaluation of its run. -/
def carryOverOpened (recoveryTraceId runId : String) : RecoveryProgram Unit := do
  match ← getRecoveryTrace recoveryTraceId with
  | none => pure ()
  | some latest => syncArbitrageEvaluationRecoveryState runId latest

/-- Open the trace of a failed submit; the pair lock has keys of its own. -/
def openFailedSubmit (e : IntentExecution) (result : ArbitrageSubmitResult) :
    RecoveryProgram Unit := do
  let alertId ← ask .emitAlert
  let digits ← ask .drawId
  let createdAt ← ask .isoNow
  let stamps : ExecutionStamps :=
    { isoNow := fun _ => createdAt, recoveryTraceHex := digits, alertId := alertId }
  syncRecoveryTrace (recoveryTraceId stamps) (submitFailureTrace e stamps result)
  carryOverOpened (recoveryTraceId stamps) e.runId

/-- What an execution tells Redis once its submit has failed. -/
def reportFailedSubmit (e : IntentExecution) (result : ArbitrageSubmitResult) :
    RecoveryProgram Unit := do
  let reads ← ask .readStore
  syncArbitrageEvaluation e.runId (maybeCloseAfterTerminalFill reads e.intent
    (e.payloadBuilder result.lifecyclePreview (submitResultPayload result)))
  openFailedSubmit e result

/-- The instants and identifiers an execution draws from unchanging surroundings. -/
def stampsOf (around : Surroundings) : ExecutionStamps where
  isoNow := fun _ => around.isoNow
  recoveryTraceHex := hexText around.drawn
  alertId := around.alertId

theorem run_openFailedSubmit {setup : RecoverySetup} {around : Surroundings}
    (hanswers : around.redisFails = false) (e : IntentExecution) (result : ArbitrageSubmitResult)
    (s : RecoveryState) :
    let stamps := stampsOf around
    let opened := s.redis.syncRecoveryTrace (recoveryTraceId stamps)
      (submitFailureTrace e stamps result) around.isoNow
    ∃ trace, opened.getRecoveryTrace (recoveryTraceId stamps) = some trace ∧
      (openFailedSubmit e result).run (fun op => op.exec setup around) s = (.ok (),
        ⟨opened.syncArbitrageEvaluationRecoveryState e.runId trace around.isoNow, s.store⟩) := by
  intro stamps opened
  obtain ⟨trace, htrace⟩ : ∃ trace, opened.getRecoveryTrace (recoveryTraceId stamps) = some trace :=
    ⟨_, RedisRuntime.getRecoveryTrace_syncRecoveryTrace _ _ _ _⟩
  refine ⟨trace, htrace, ?_⟩
  have hread : (getRecoveryTrace (recoveryTraceId stamps)).run
      (fun op => op.exec setup around) ⟨opened, s.store⟩ =
        (.ok (some trace), ⟨opened, s.store⟩) := by
    change (Except.ok ((RecoveryOp.getTrace (recoveryTraceId stamps)).exec setup around
      ⟨opened, s.store⟩).1, _) = _
    simp only [RecoveryOp.exec, hanswers, Bool.false_eq_true, if_false, htrace]
  change (syncRecoveryTrace (recoveryTraceId stamps) (submitFailureTrace e stamps result) >>=
    fun _ => carryOverOpened (recoveryTraceId stamps) e.runId).run _ s = _
  rw [run_bind_ok (run_syncRecoveryTrace s hanswers _ _), carryOverOpened, run_bind_ok hread]
  exact run_syncArbitrageEvaluationRecoveryState ⟨opened, s.store⟩ hanswers e.runId trace

/-- Opening a trace leaves Redis as its commands do, but for the pair lock. -/
theorem exists_openRecoveryTrace_eq (e : IntentExecution) (stamps : ExecutionStamps)
    (result : ArbitrageSubmitResult) (payload trace : Dict) (redis : RedisRuntime)
    (htrace : (redis.syncRecoveryTrace (recoveryTraceId stamps) (submitFailureTrace e stamps result)
      (stamps.isoNow 3)).getRecoveryTrace (recoveryTraceId stamps) = some trace) :
    ∃ locks, (openRecoveryTrace e stamps result payload redis).2 =
      { (redis.syncRecoveryTrace (recoveryTraceId stamps) (submitFailureTrace e stamps result)
        (stamps.isoNow 3)).syncArbitrageEvaluationRecoveryState e.runId trace (stamps.isoNow 4) with
          pairLocks := locks } := by
  unfold openRecoveryTrace
  simp only [htrace]
  exact exists_syncPairLock_eq _ _ _ _ _ _ _ _

theorem syncArbitrageEvaluationRecoveryState_pairLocks (redis : RedisRuntime)
    (locks : AList fun _ : String × String => Dict) (runId : String) (trace : Dict)
    (isoNow : String) :
    ({ redis with pairLocks := locks } : RedisRuntime).syncArbitrageEvaluationRecoveryState runId
        trace isoNow =
      { redis.syncArbitrageEvaluationRecoveryState runId trace isoNow with
        pairLocks := locks } := by
  unfold RedisRuntime.syncArbitrageEvaluationRecoveryState
  rw [RedisRuntime.getArbitrageEvaluation, RedisRuntime.getArbitrageEvaluation]
  cases redis.latestEvaluations.lookup runId with
  | none => rfl
  | some current => rfl

/-- By itself the program leaves Redis as the execution leaves it, but for the pair lock. -/
theorem run_reportFailedSubmit (setup : RecoverySetup) (around : Surroundings)
    (hanswers : around.redisFails = false) (e : IntentExecution) (result : ArbitrageSubmitResult)
    (s : RecoveryState) (payload : Dict) (reported : RedisRuntime)
    (hreport : reportSubmit e (stampsOf around) (s.store.reads setup.decimals) result s.redis =
      (payload, reported)) :
    ∃ locks, (openRecoveryTrace e (stampsOf around) result payload reported).2 =
      { ((reportFailedSubmit e result).run (fun op => op.exec setup around) s).2.redis with
        pairLocks := locks } := by
  obtain ⟨hpayload, hreported⟩ := Prod.mk.inj hreport
  obtain ⟨first, hlocks⟩ : ∃ locks, reported =
      { s.redis.syncArbitrageEvaluation e.runId payload around.isoNow with
        pairLocks := locks } := by
    rw [← hreported, ← hpayload]
    exact exists_syncPairLock_eq _ _ _ _ _ _ _ _
  obtain ⟨trace, htrace, hopened⟩ := @run_openFailedSubmit setup around hanswers e result
    ⟨s.redis.syncArbitrageEvaluation e.runId payload around.isoNow, s.store⟩
  have hrun : (reportFailedSubmit e result).run (fun op => op.exec setup around) s =
      (syncArbitrageEvaluation e.runId payload >>= fun _ =>
        openFailedSubmit e result).run (fun op => op.exec setup around) s := by
    rw [← hpayload]
    rfl
  rw [hrun, run_bind_ok (run_syncArbitrageEvaluation s hanswers _ _), hopened]
  obtain ⟨last, hleft⟩ := exists_openRecoveryTrace_eq e (stampsOf around) result payload trace
    reported (by rw [hlocks]; exact htrace)
  refine ⟨last, ?_⟩
  rw [hleft, hlocks]
  change ({ (({ (s.redis.syncArbitrageEvaluation e.runId payload around.isoNow).syncRecoveryTrace
    (recoveryTraceId (stampsOf around)) (submitFailureTrace e (stampsOf around) result)
      around.isoNow with pairLocks := first } : RedisRuntime).syncArbitrageEvaluationRecoveryState
        e.runId trace around.isoNow) with pairLocks := last } : RedisRuntime) = _
  rw [syncArbitrageEvaluationRecoveryState_pairLocks]

end FailedSubmits

section Serving

/-- What a client of the whole service may be at. -/
inductive ServiceTask where
  | recover (task : RecoveryTask)
  | failSubmit (e : IntentExecution) (result : ArbitrageSubmitResult)

/-- A client begins a task or performs its next operation, or someone else changes the
store or writes the latest evaluation of a run. -/
inductive ServiceStep where
  | begin (client : Nat) (task : ServiceTask)
  | perform (client : Nat) (around : Surroundings)
  | store (call : Call)
  | evaluate (runId : String) (document : Dict)

variable (setup : RecoverySetup)

def ServiceTask.program : ServiceTask → RecoveryProgram TaskAnswer
  | recover task => task.program setup
  | failSubmit e result => do
      reportFailedSubmit e result
      pure none

def RecoverySystem.serve (s : RecoverySystem) : ServiceStep → RecoverySystem
  | .begin client task => s.start client (task.program setup)
  | .perform client around => s.perform (fun op => op.exec setup around) client
  | .store call =>
      { s with state.store := call.apply setup.platform setup.decimals s.state.store }
  | .evaluate runId document =>
      { s with
        state.redis.latestEvaluations := s.state.redis.latestEvaluations.insert runId document }

end Serving

end TradingPlatform.Routes

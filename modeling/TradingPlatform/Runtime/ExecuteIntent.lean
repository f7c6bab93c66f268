import TradingPlatform.Execution.Adapter
import TradingPlatform.Runtime.Redis
import TradingPlatform.Storage.Reads

/-! # Executing a persisted intent

Submits an intent through an adapter and tells Redis what came of it: the
evaluation of the run, its pair lock and, when the submit failed, a recovery
trace. An exception of the adapter goes through before Redis hears of it.
-/

namespace TradingPlatform.Runtime

open Storage Exchange Execution

/-- What one execution works on. The payload builder is given the lifecycle and
the submit result; the rest of its arguments is fixed by the caller. -/
structure IntentExecution where
  decision : SubmitDecision
  reasonCode : String
  intent : OrderIntent
  runId : String
  botId : String
  adapter : SubmitAdapter
  autoUnwindOnFailure : Bool
  payloadBuilder : (lifecyclePreviewOverride : String) → (submitResult : Dict) → Dict

/-- Instants and identifiers drawn during one execution. -/
structure ExecutionStamps where
  isoNow : Nat → String
  recoveryTraceHex : String
  alertId : String

structure ExecutionOutcome where
  status : String
  latestPayload : Dict
  recoveryTraceId : Option String := none
  errorMessage : Option String := none

/-- An execution that returns an outcome or lets an exception through. -/
structure ExecutionRun (σ : Type) where
  outcome : Except String ExecutionOutcome
  calls : List PlaceOrderCall
  store : σ
  redis : RedisRuntime

section Payloads

def submitResultPayload (result : ArbitrageSubmitResult) : Dict :=
  let order (item : Order) : Json := .obj [("order_id", .str item.orderId),
    ("exchange_name", .str item.exchangeName), ("side", .str item.side),
    ("status", .str item.status)]
  let fill (item : Fill) : Json := .obj [("fill_id", .str item.fillId),
    ("order_id", .str item.orderId), ("exchange_name", .str item.exchangeName),
    ("fill_qty", .str item.fillQty.text), ("order_status", .str item.orderStatus)]
  [("outcome", .str result.outcome.text), ("lifecycle_preview", .str result.lifecyclePreview),
    ("recovery_required", .bool result.recoveryRequired),
    ("unwind_in_progress", .bool result.unwindInProgress),
    ("created_orders", .arr (result.createdOrders.map order)),
    ("created_fills", .arr (result.createdFills.map fill)), ("details", .obj result.details)]

def submitFailureMessage (result : ArbitrageSubmitResult) : String :=
  let reason := Text.strip (Dict.get result.details "reason").textOrEmpty
  if reason = "" then "arbitrage runtime submit failed" else reason

/-- Intent statuses a balanced hedge is closed in. -/
def terminalIntentStatuses : List String := ["filled", "closed", "simulated"]

/-- A balanced hedge is closed when its intent is done and all its orders are terminal. -/
def maybeCloseAfterTerminalFill (reads : ReadStore) (intent : OrderIntent) (payload : Dict) :
    Dict :=
  if (payload.get "lifecycle_preview").textOrEmpty ≠ "hedge_balanced" ∨ intent.intentId = "" then
    payload
  else
    match reads.getOrderIntent intent.intentId with
    | none => payload
    | some latest =>
        let related := (reads.listOrders "" latest.strategyRunId).filter
          (·.orderIntentId = intent.intentId)
        if Text.lower (Text.strip latest.status) ∈ terminalIntentStatuses ∧ related ≠ [] ∧
            ∀ order ∈ related, Text.lower (Text.strip order.status) ∈ terminalStatuses then
          payload.set "lifecycle_preview" (.str "closed")
        else payload

end Payloads

section PairLocks

def activePairLockLifecycleStates : List String :=
  ["manual_handoff", "unwind_in_progress", "recovery_required", "entry_open", "entry_submitting",
    "hedge_balanced", "intent_created"]

def pairLockOwnerId (botId strategyRunId : String) : String := botId ++ ":" ++ strategyRunId

def dictOrNone : Json → Option Dict
  | .obj fields => some fields
  | _ => none

/-- Market, quote pair and selected pair a decision context names. -/
def pairLockIdentity (context : Dict) : Option (String × String × Option Dict) :=
  let quotePairId := Text.strip (context.get "quote_pair_id").textOrEmpty
  let selectedPair := dictOrNone (context.get "selected_pair")
  let market := (selectedPair.map fun pair => Text.strip (pair.get "market").textOrEmpty).getD ""
  if quotePairId = "" ∨ market = "" then none else some (market, quotePairId, selectedPair)

def pairLockAcquiredAt (context : Dict) : Option String :=
  (dictOrNone (context.get "pair_lock")).bind fun lock =>
    nonBlank (lock.get "acquired_at").textOrEmpty

/-- Hold the pair lock of a decision while its lifecycle is active, else release it. -/
def syncPairLock (botId runId lifecycleState : String) (intentId recoveryTraceId : Option String)
    (isoNow : String) (payload : Dict) (redis : RedisRuntime) : RedisRuntime :=
  let context := (dictOrNone (payload.get "decision_context")).getD []
  let text (value : Option String) : Json := (value.map Json.str).getD .null
  match pairLockIdentity context with
  | none => redis
  | some (market, quotePairId, selectedPair) =>
      let ownerId := pairLockOwnerId botId runId
      if Text.strip lifecycleState ∈ activePairLockLifecycleStates then
        (redis.acquirePairLock market quotePairId
          [("owner_id", .str ownerId), ("bot_id", .str botId), ("strategy_run_id", .str runId),
            ("market", .str market), ("quote_pair_id", .str quotePairId),
            ("selected_pair", (selectedPair.map Json.obj).getD .null),
            ("lifecycle_state", .str lifecycleState), ("intent_id", text intentId),
            ("recovery_trace_id", text recoveryTraceId),
            ("acquired_at", .str ((pairLockAcquiredAt context).getD isoNow))] isoNow).2
      else (redis.releasePairLock market quotePairId ownerId).2

/-- Keeping up a pair lock changes no traces and no evaluations. -/
theorem exists_syncPairLock_eq (botId runId lifecycleState : String)
    (intentId recoveryTraceId : Option String) (isoNow : String) (payload : Dict)
    (redis : RedisRuntime) :
    ∃ locks, syncPairLock botId runId lifecycleState intentId recoveryTraceId isoNow payload
      redis = { redis with pairLocks := locks } := by
  unfold syncPairLock
  dsimp only
  split
  · exact ⟨_, rfl⟩
  · split_ifs
    · unfold RedisRuntime.acquirePairLock
      dsimp only
      split
      · exact ⟨_, rfl⟩
      · split_ifs <;> exact ⟨_, rfl⟩
    · unfold RedisRuntime.releasePairLock
      split
      · exact ⟨_, rfl⟩
      · split_ifs <;> exact ⟨_, rfl⟩

@[simp] theorem syncPairLock_recoveryTraces (botId runId lifecycleState : String)
    (intentId recoveryTraceId : Option String) (isoNow : String) (payload : Dict)
    (redis : RedisRuntime) :
    (syncPairLock botId runId lifecycleState intentId recoveryTraceId isoNow payload
      redis).recoveryTraces = redis.recoveryTraces := by
  obtain ⟨locks, hlocks⟩ := exists_syncPairLock_eq botId runId lifecycleState intentId
    recoveryTraceId isoNow payload redis
  rw [hlocks]

@[simp] theorem syncPairLock_latestEvaluations (botId runId lifecycleState : String)
    (intentId recoveryTraceId : Option String) (isoNow : String) (payload : Dict)
    (redis : RedisRuntime) :
    (syncPairLock botId runId lifecycleState intentId recoveryTraceId isoNow payload
      redis).latestEvaluations = redis.latestEvaluations := by
  obtain ⟨locks, hlocks⟩ := exists_syncPairLock_eq botId runId lifecycleState intentId
    recoveryTraceId isoNow payload redis
  rw [hlocks]

end PairLocks

section Execution

variable (e : IntentExecution) (stamps : ExecutionStamps)

/-- What is told to Redis whatever a submit returned. -/
def reportSubmit (reads : ReadStore) (result : ArbitrageSubmitResult) (redis : RedisRuntime) :
    Dict × RedisRuntime :=
  let payload := maybeCloseAfterTerminalFill reads e.intent
    (e.payloadBuilder result.lifecyclePreview (submitResultPayload result))
  let reported := redis.syncArbitrageEvaluation e.runId payload (stamps.isoNow 0)
  (payload, syncPairLock e.botId e.runId (payload.get "lifecycle_preview").textOrEmpty
    (if e.intent.intentId = "" then none else some e.intent.intentId) none (stamps.isoNow 1)
    payload reported)

def recoveryTraceId : String := "rt_" ++ stamps.recoveryTraceHex

/-- The recovery trace of a failed submit. -/
def submitFailureTrace (result : ArbitrageSubmitResult) : Dict :=
  [("recovery_trace_id", .str (recoveryTraceId stamps)), ("run_id", .str e.runId),
    ("bot_id", .str e.botId), ("intent_id", .str e.intent.intentId), ("status", .str "active"),
    ("lifecycle_state", .str result.lifecyclePreview),
    ("incident_code", .str "ARB-201 HEDGE_TIMEOUT"), ("reason_code", .str e.reasonCode),
    ("manual_handoff_required", .bool false),
    ("auto_unwind_allowed", .bool e.autoUnwindOnFailure), ("created_at", .str (stamps.isoNow 2)),
    ("alert_id", .str stamps.alertId), ("submit_result", .obj (submitResultPayload result))]

/-- Open a recovery trace and carry it over to the evaluation and the pair lock. -/
def openRecoveryTrace (result : ArbitrageSubmitResult) (payload : Dict) (redis : RedisRuntime) :
    Dict × RedisRuntime :=
  let traceId := recoveryTraceId stamps
  let opened := redis.syncRecoveryTrace traceId (submitFailureTrace e stamps result)
    (stamps.isoNow 3)
  let synced :=
    match opened.getRecoveryTrace traceId with
    | none => opened
    | some trace =>
        opened.syncArbitrageEvaluationRecoveryState e.runId trace (stamps.isoNow 4)
  let latest :=
    if (opened.getRecoveryTrace traceId).isSome then
      (synced.getArbitrageEvaluation e.runId).getD payload
    else payload
  let lifecycle := ((latest.get "lifecycle_preview").orElse (.str result.lifecyclePreview)).toText
  (latest, syncPairLock e.botId e.runId lifecycle
    (if e.intent.intentId = "" then none else some e.intent.intentId) (some traceId)
    (stamps.isoNow 5) latest synced)

def executePersistedArbitrageIntent {σ : Type} (P : StoreProtocol σ) (reads : σ → ReadStore)
    (ctx : DecimalContext) (redis : RedisRuntime) (s : σ) : ExecutionRun σ :=
  let run := e.adapter.submit P ctx e.decision e.intent e.autoUnwindOnFailure s
  match run.result with
  | .error text => ⟨.error text, run.calls, run.store, redis⟩
  | .ok result =>
      let (payload, reported) := reportSubmit e stamps (reads run.store) result redis
      if result.outcome = .submitFailed then
        let (latest, recovered) := openRecoveryTrace e stamps result payload reported
        ⟨.ok
          { status := "submit_failed"
            latestPayload := latest
            recoveryTraceId := some (recoveryTraceId stamps)
            errorMessage := some (submitFailureMessage result) },
          run.calls, run.store, recovered⟩
      else ⟨.ok { status := "submitted", latestPayload := payload }, run.calls, run.store, reported⟩

end Execution

end TradingPlatform.Runtime

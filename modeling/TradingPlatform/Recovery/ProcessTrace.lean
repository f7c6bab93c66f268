import TradingPlatform.Recovery.Polling
import TradingPlatform.Runtime.Redis

/-! # Processing a recovery trace

One step of the recovery runtime on one trace: reconcile it automatically when
it may be, then hand it over, resolve it or leave it as it is.
-/

namespace TradingPlatform.Recovery

open Storage Exchange

/-- The readings of the clock during one step. -/
structure TraceClock where
  resultChecked : Int
  stalenessChecked : Int
  unwindChecked : Int
  ageChecked : Int
  isoNow : Nat → String

/-- A clock that stands still during the step. -/
def TraceClock.still (now : Int) (isoNow : Nat → String) : TraceClock :=
  ⟨now, now, now, now, isoNow⟩

inductive TraceVerdict where
  | skipped (reason : String)
  | handedOff (handoff : Handoff)
  | resolved (reason : String)
  | raised (text : String)
deriving DecidableEq, Repr

structure TraceStep where
  verdict : TraceVerdict
  redis : Runtime.RedisRuntime

/-- Everything around the trace that a step works with. -/
structure TraceContext where
  settings : RecoverySettings
  connectors : List (String × StatusConnector)
  reads : ReadStore
  decimals : DecimalContext
  clock : TraceClock
  alertId : String

def traceText (trace : Dict) (key : String) : String := (trace.get key).textOrEmpty

section Writing

variable (c : TraceContext)

/-- Write a trace and carry it over to the evaluation of its run. -/
def syncTrace (recoveryTraceId : String) (payload : Dict) (isoNow : Nat → String)
    (redis : Runtime.RedisRuntime) : Runtime.RedisRuntime :=
  let synced := redis.syncRecoveryTrace recoveryTraceId payload (isoNow 0)
  let runId := Text.strip (traceText payload "run_id")
  if runId = "" then synced
  else
    match synced.getRecoveryTrace recoveryTraceId with
    | none => synced
    | some latest => synced.syncArbitrageEvaluationRecoveryState runId latest (isoNow 1)

def resolvedTrace (trace : Dict) (resolutionReason closedAt : String) : Dict :=
  let residual :=
    if resolutionReason = "reconciliation_matched_zero_residual" then
      match trace.get "reconciliation_residual_exposure_quote" with
      | .null => .str "0"
      | value => .str value.toText
    else trace.get "residual_exposure_quote"
  trace.merge [("status", .str "resolved"), ("lifecycle_state", .str "closed"),
    ("manual_handoff_required", .bool false), ("residual_exposure_quote", residual),
    ("closed_at", .str closedAt), ("resolution_reason", .str resolutionReason)]

def resolveTrace (trace : Dict) (resolutionReason : String) (redis : Runtime.RedisRuntime) :
    Runtime.RedisRuntime :=
  syncTrace (traceText trace "recovery_trace_id")
    (resolvedTrace trace resolutionReason (c.clock.isoNow 2))
    (fun n => c.clock.isoNow (n + 3)) redis

def handedOffTrace (trace : Dict) (handoff : Handoff) (alertId : String) : Dict :=
  trace.merge [("status", .str "handoff_required"), ("lifecycle_state", .str "manual_handoff"),
    ("manual_handoff_required", .bool true),
    ("incident_code", .str "ARB-302 MANUAL_HANDOFF_REQUIRED"), ("alert_id", .str alertId),
    ("handoff_reason", .str handoff.reason),
    ("summary", .str (handoff.summary.getD (traceText trace "summary")))]

def markHandoffRequired (trace : Dict) (handoff : Handoff) (redis : Runtime.RedisRuntime) :
    Runtime.RedisRuntime :=
  syncTrace (traceText trace "recovery_trace_id") (handedOffTrace trace handoff c.alertId)
    (fun n => c.clock.isoNow (n + 3)) redis

end Writing

section Reconciling

variable (c : TraceContext)

/-- Orders of the trace's bot and run, those of its intent when it names one. -/
def relatedOrders (reads : ReadStore) (trace : Dict) : List Order :=
  let orders := reads.listOrders (traceText trace "bot_id") (traceText trace "run_id")
  let intentId := traceIntentId trace
  if intentId = "" then orders else orders.filter (·.orderIntentId = intentId)

/-- The fills of the intent of a trace. -/
def relatedFills (reads : ReadStore) (trace : Dict) : List Fill :=
  (reads.listFills (traceText trace "bot_id") (traceText trace "run_id")).filter
    fun fill => Text.strip fill.orderIntentId = traceIntentId trace

def countOf (trace : Dict) (key : String) : Int := (parseInt (trace.get key)).getD 0

/-- A snapshot with the counts of reconciliations brought forward. -/
def reconciliationPatch (trace snapshot : Dict) (isoNow : String) : Dict :=
  let matched := (snapshot.get "reconciliation_result").textOrEmpty = "matched"
  snapshot ++ [
    ("reconciliation_attempt_count", .int (countOf trace "reconciliation_attempt_count" + 1)),
    ("reconciliation_matched_count",
      .int (countOf trace "reconciliation_matched_count" + if matched then 1 else 0)),
    ("reconciliation_mismatch_count",
      .int (countOf trace "reconciliation_mismatch_count" + if matched then 0 else 1)),
    ("reconciliation_mismatch_streak",
      .int (if matched then 0 else countOf trace "reconciliation_mismatch_streak" + 1)),
    ("reconciliation_updated_at", .str isoNow)]

/-- The fields a snapshot sets. -/
def snapshotFields : List String :=
  ["reconciliation_result", "reconciliation_open_order_count",
    "reconciliation_residual_exposure_quote", "reconciliation_observed_at", "reconciliation_source",
    "reconciliation_summary", "reconciliation_reason", "reconciliation_observed_order_ids",
    "reconciliation_observed_fill_ids", "reconciliation_observed_order_statuses",
    "reconciliation_observed_balances"]

/-- The fields a reconciliation sets: none that says whose trace it is, or whether it is open. -/
def reconciliationFields : List String := snapshotFields ++ ["reconciliation_attempt_count",
  "reconciliation_matched_count", "reconciliation_mismatch_count",
  "reconciliation_mismatch_streak", "reconciliation_updated_at"]

theorem map_fst_snapshot {ctx : DecimalContext} {connectors : List (String × StatusConnector)}
    {reads : ReadStore} {trace snapshot : Dict} {orders : List Order} {fills : List Fill}
    {isoNow : String} (hsnapshot : buildAutoReconciliationSnapshot ctx connectors reads trace
      orders fills isoNow = .ok (some snapshot)) : snapshot.map Prod.fst = snapshotFields := by
  obtain ⟨poll, balances, residual, residualText, -, -, -, -, -, -, rfl⟩ :=
    exists_of_snapshot hsnapshot
  rfl

theorem map_fst_reconciliationPatch {trace snapshot : Dict} {isoNow : String}
    (hsnapshot : snapshot.map Prod.fst = snapshotFields) :
    (reconciliationPatch trace snapshot isoNow).map Prod.fst = reconciliationFields := by
  rw [reconciliationPatch, List.map_append, hsnapshot]
  rfl

/-- The trace after automatic reconciliation. A trace reconciled by someone else,
or without orders, connectors or an intent, is left alone. -/
def autoRecordReconciliation (trace : Dict) (redis : Runtime.RedisRuntime) :
    Except String (Dict × Runtime.RedisRuntime) :=
  let orders := relatedOrders c.reads trace
  let source := normalizedText (trace.get "reconciliation_source")
  if (reconciliationResult trace ≠ "" ∧ source ≠ "" ∧ source ≠ "auto_private_connectors") ∨
      orders = [] ∨ c.connectors = [] ∨ traceIntentId trace = "" then
    .ok (trace, redis)
  else
    match buildAutoReconciliationSnapshot c.decimals c.connectors c.reads trace orders
      (relatedFills c.reads trace) (c.clock.isoNow 5) with
    | .error text => .error text
    | .ok none => .ok (trace, redis)
    | .ok (some snapshot) =>
        let recoveryTraceId := Text.strip (traceText trace "recovery_trace_id")
        let updated := trace.merge (reconciliationPatch trace snapshot (c.clock.isoNow 6))
        let synced := syncTrace recoveryTraceId updated (fun n => c.clock.isoNow (n + 7)) redis
        let latest :=
          if Text.strip (traceText updated "run_id") = "" then updated
          else (synced.getRecoveryTrace recoveryTraceId).getD updated
        .ok (latest, synced)

/-- A trace is left as operators recorded it, or has nothing to ask the exchanges about. -/
def keepsReconciliation (trace : Dict) (orders : List Order)
    (connectors : List (String × StatusConnector)) : Prop :=
  let source := normalizedText (trace.get "reconciliation_source")
  (reconciliationResult trace ≠ "" ∧ source ≠ "" ∧ source ≠ "auto_private_connectors") ∨
    orders = [] ∨ connectors = [] ∨ traceIntentId trace = ""

end Reconciling

section Deciding

variable (c : TraceContext)

/-- The checks made before a trace may be resolved on its reconciliation, in order. -/
def reconciliationHandoff (trace : Dict) : Option Handoff :=
  (invalidResultHandoffReason trace c.clock.resultChecked).or <|
  (staleHandoffReason trace c.settings c.clock.stalenessChecked).or <|
  (invalidEvidenceHandoffReason trace).or <|
  (evidenceHandoffReason trace).or <|
  (statusHandoffReason trace).or <|
  balanceHandoffReason c.reads trace

/-- The first checks made before a trace may be resolved without a match, in order. -/
def unwindFailureHandoff (trace : Dict) : Option Handoff :=
  (mismatchHandoffReason trace c.settings).or (unwindTerminalFailureHandoff c.reads trace)

def hasActiveOrders (orders : List Order) : Bool :=
  orders.any fun order => normalizedStatus order.status ∉ terminalOrderStatuses

def residualExposureQuote (trace : Dict) : Option Decimal :=
  parseDecimal (trace.get "residual_exposure_quote")

def traceAgeSeconds (trace : Dict) (now : Int) : Option Int :=
  ((parseIsoDatetime (trace.get "opened_at")).or (parseIsoDatetime (trace.get "created_at"))).map
    (ageSeconds now)

/-- Dating a trace leaves the calendar. -/
def traceDateOverflows (trace : Dict) : Bool :=
  datesOverflow [trace.get "opened_at", trace.get "created_at"]

/-- What becomes of a trace once it is reconciled; the orders are those found before.
A date is read where it is needed, and raises there when it is outside the calendar. -/
def traceVerdict (orders : List Order) (trace : Dict) : TraceVerdict :=
  if observationOverflows trace then .raised dateOverflow
  else
    match reconciliationHandoff c trace with
    | some handoff => .handedOff handoff
    | none =>
        match resolutionReason trace with
        | some reason => .resolved reason
        | none =>
            match unwindFailureHandoff c trace with
            | some handoff => .handedOff handoff
            | none =>
                if unwindDateOverflows c.reads trace then .raised dateOverflow
                else
                  match unwindStaleHandoff c.reads trace c.settings c.clock.unwindChecked with
                  | some handoff => .handedOff handoff
                  | none =>
                      if !hasActiveOrders orders ∧
                          (residualExposureQuote trace).map Decimal.value = some 0 then
                        .resolved "no_active_orders_and_zero_residual"
                      else if traceDateOverflows trace then .raised dateOverflow
                      else if (traceAgeSeconds trace c.clock.ageChecked).any
                          (c.settings.handoffAfterSeconds < ·) ∧
                          !(trace.get "manual_handoff_required").truthy then
                        .handedOff ⟨"recovery_timeout_exceeded", none⟩
                      else .skipped "NO_STATE_CHANGE"

/-- Write what a verdict says about a trace. -/
def TraceVerdict.apply (trace : Dict) (redis : Runtime.RedisRuntime) :
    TraceVerdict → Runtime.RedisRuntime
  | .handedOff handoff => markHandoffRequired c trace handoff redis
  | .resolved reason => resolveTrace c trace reason redis
  | .skipped _ | .raised _ => redis

def processTrace (trace : Dict) (redis : Runtime.RedisRuntime) : TraceStep :=
  if traceText trace "recovery_trace_id" = "" then ⟨.skipped "TRACE_ID_MISSING", redis⟩
  else
    match autoRecordReconciliation c trace redis with
    | .error text => ⟨.raised text, redis⟩
    | .ok (reconciled, synced) =>
        let verdict := traceVerdict c (relatedOrders c.reads trace) reconciled
        ⟨verdict, verdict.apply c reconciled synced⟩

end Deciding

end TradingPlatform.Recovery

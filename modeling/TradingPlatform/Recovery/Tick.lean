import TradingPlatform.Recovery.Commands
import TradingPlatform.Recovery.EvaluationSync

/-! # The tick of the recovery runtime

What the recovery runtime does again and again: close evaluations whose orders
are done, open traces for entries that hang, and process the active traces one
after another, each on the copy that was listed.
-/

namespace TradingPlatform.Recovery.RecoveryProgram

open Programs Program Storage TradingPlatform.Runtime

variable (setup : RecoverySetup)

section Evaluations

/-- Close an evaluation none of whose orders can trade any more. -/
def syncTerminalEvaluation (item : Dict) : RecoveryProgram Unit :=
  let runId := strippedText item "strategy_run_id"
  let botId := strippedText item "bot_id"
  let intentId := persistedIntentId item
  if Text.lower (strippedText item "lifecycle_preview") ∉ terminalSyncCandidateStates ∨
      runId = "" ∨ botId = "" ∨ intentId = "" then pure ()
  else do
    match ← getBlockingRecoveryTrace botId runId with
    | some _ => pure ()
    | none =>
        let intents ← ask .readStore
        if !intentIsTerminal intents intentId then pure ()
        else
          let listing ← ask .readStore
          let orders := listedOrders listing botId runId intentId
          if orders.isEmpty ∨ hasActiveOrders orders then pure ()
          else syncArbitrageEvaluation runId (item.set "lifecycle_preview" (.str "closed"))

def syncTerminalLatestEvaluations : RecoveryProgram Unit := do
  match ← listArbitrageEvaluations 100 with
  | none => raised "failed to list arbitrage evaluations"
  | some evaluations => forEach evaluations syncTerminalEvaluation

end Evaluations

section SubmitTimeout

def openOrders (reads : ReadStore) (botId runId : String) : List Order :=
  (reads.listOrders botId runId).filter fun order =>
    normalizedStatus order.status ∉ terminalOrderStatuses

/-- The instant the oldest open order of a bot and a run was submitted. -/
def oldestOpenOrderTimestamp (reads : ReadStore) (botId runId : String) : Option Int :=
  ((openOrders reads botId runId).filterMap fun order =>
    ((parseIsoDatetime (.str order.submittedAt)).or (parseIsoDatetime (.str order.createdAt))).or
      (parseIsoDatetime (.str order.updatedAt))).min?

/-- Dating one of the open orders leaves the calendar. -/
def openOrderDateOverflows (reads : ReadStore) (botId runId : String) : Bool :=
  (openOrders reads botId runId).any fun order =>
    datesOverflow [.str order.submittedAt, .str order.createdAt, .str order.updatedAt]

def submitTimeoutTrace (recoveryTraceId runId botId isoNow : String)
    (oldestSubmittedAt age : Int) : Dict :=
  [("recovery_trace_id", .str recoveryTraceId), ("run_id", .str runId), ("bot_id", .str botId),
    ("intent_id", .null), ("status", .str "active"), ("lifecycle_state", .str "recovery_required"),
    ("incident_code", .str "ARB-201 HEDGE_TIMEOUT"), ("reason_code", .str "ORDER_SUBMIT_FAILED"),
    ("manual_handoff_required", .bool false), ("auto_unwind_allowed", .bool false),
    ("opened_at", .str isoNow), ("created_at", .str isoNow),
    ("oldest_submitted_at", .str (Datetime.isoText oldestSubmittedAt)),
    ("submit_timeout_seconds", .int setup.settings.submitTimeoutSeconds),
    ("submit_timeout_age_seconds", .int age),
    ("summary", .str "entry_submitting exceeded submit timeout window")]

def createSubmitTimeoutTrace (botId runId : String) (oldestSubmittedAt age : Int) :
    RecoveryProgram Unit := do
  let digits ← ask .drawId
  let recoveryTraceId := "rt_" ++ digits
  let isoNow ← ask .isoNow
  syncRecoveryTrace recoveryTraceId
    (submitTimeoutTrace setup recoveryTraceId runId botId isoNow oldestSubmittedAt age)
  let _ ← carryOver recoveryTraceId runId
  let _ ← ask .emitAlert

/-- Open a trace for an entry that is still submitting and whose oldest open order
is older than the timeout. -/
def openSubmitTimeoutTrace (item : Dict) : RecoveryProgram Unit :=
  let runId := strippedText item "strategy_run_id"
  let botId := strippedText item "bot_id"
  if Text.lower (strippedText item "lifecycle_preview") ≠ "entry_submitting" ∨
      runId = "" ∨ botId = "" then pure ()
  else do
    match ← getBlockingRecoveryTrace botId runId with
    | some _ => pure ()
    | none =>
        let listing ← ask .readStore
        if openOrderDateOverflows listing botId runId then raised dateOverflow
        else
          match oldestOpenOrderTimestamp listing botId runId with
          | none => pure ()
          | some oldestSubmittedAt =>
              let age := ageSeconds (← ask .now) oldestSubmittedAt
              if age < setup.settings.submitTimeoutSeconds then pure ()
              else createSubmitTimeoutTrace setup botId runId oldestSubmittedAt age

def openSubmitTimeoutTraces : RecoveryProgram Unit := do
  match ← listArbitrageEvaluations 100 with
  | none => raised "failed to list arbitrage evaluations"
  | some evaluations => forEach evaluations (openSubmitTimeoutTrace setup)

end SubmitTimeout

section Processing

def resolveTrace (trace : Dict) (resolutionReason : String) : RecoveryProgram Unit := do
  let recoveryTraceId := traceText trace "recovery_trace_id"
  let closedAt ← ask .isoNow
  let payload := resolvedTrace trace resolutionReason closedAt
  syncRecoveryTrace recoveryTraceId payload
  let _ ← carryOver recoveryTraceId (Text.strip (traceText payload "run_id"))

def markHandoffRequired (trace : Dict) (handoff : Handoff) : RecoveryProgram Unit := do
  let recoveryTraceId := traceText trace "recovery_trace_id"
  let alertId ← ask .emitAlert
  let payload := handedOffTrace trace handoff alertId
  syncRecoveryTrace recoveryTraceId payload
  let _ ← carryOver recoveryTraceId (Text.strip (traceText payload "run_id"))

/-- Reconcile a trace with what the exchanges report; the orders and their filled
quantities are those listed before. -/
def autoRecordReconciliation (trace : Dict) (listing : ReadStore) : RecoveryProgram Dict := do
  let orders := relatedOrders listing trace
  let source := normalizedText (trace.get "reconciliation_source")
  let connectors ← ask .pollConnectors
  if (reconciliationResult trace ≠ "" ∧ source ≠ "" ∧ source ≠ "auto_private_connectors") ∨
      orders = [] ∨ connectors = [] ∨ traceIntentId trace = "" then
    pure trace
  else
    let later ← ask .readStore
    let observedAt ← ask .isoNow
    match buildAutoReconciliationSnapshot setup.decimals connectors listing trace orders
      (relatedFills later trace) observedAt with
    | .error text => raised text
    | .ok none => pure trace
    | .ok (some snapshot) =>
        let recordedAt ← ask .isoNow
        let recoveryTraceId := Text.strip (traceText trace "recovery_trace_id")
        let updated := trace.merge (reconciliationPatch trace snapshot recordedAt)
        syncRecoveryTrace recoveryTraceId updated
        let latest ← carryOver recoveryTraceId (Text.strip (traceText updated "run_id"))
        pure (latest.getD updated)

/-- What becomes of a trace once it is reconciled. The store is looked at again for
each check that needs it; the intent's exchanges and market never change, so one
look does for both. -/
def judgeTrace (orders : List Order) (trace : Dict) : RecoveryProgram TraceVerdict := do
  let resultChecked ← ask .now
  let stalenessChecked ← ask .now
  let intents ← ask .readStore
  if observationOverflows trace then raised dateOverflow
  else
    match (invalidResultHandoffReason trace resultChecked).or <|
        (staleHandoffReason trace setup.settings stalenessChecked).or <|
        (invalidEvidenceHandoffReason trace).or <| (evidenceHandoffReason trace).or <|
        (statusHandoffReason trace).or <| balanceHandoffReason intents trace with
    | some handoff => pure (.handedOff handoff)
    | none =>
        match resolutionReason trace with
        | some reason => pure (.resolved reason)
        | none =>
            let failing ← ask .readStore
            let hanging ← ask .readStore
            let unwindChecked ← ask .now
            match (mismatchHandoffReason trace setup.settings).or
                (unwindTerminalFailureHandoff failing trace) with
            | some handoff => pure (.handedOff handoff)
            | none =>
                if unwindDateOverflows hanging trace then raised dateOverflow
                else
                  match unwindStaleHandoff hanging trace setup.settings unwindChecked with
                  | some handoff => pure (.handedOff handoff)
                  | none =>
                      if !hasActiveOrders orders ∧
                          (residualExposureQuote trace).map Decimal.value = some 0 then
                        pure (.resolved "no_active_orders_and_zero_residual")
                      else
                        let ageChecked ← ask .now
                        if traceDateOverflows trace then raised dateOverflow
                        else if (traceAgeSeconds trace ageChecked).any
                            (setup.settings.handoffAfterSeconds < ·) ∧
                            !(trace.get "manual_handoff_required").truthy then
                          pure (.handedOff ⟨"recovery_timeout_exceeded", none⟩)
                        else pure (.skipped "NO_STATE_CHANGE")

def applyVerdict (trace : Dict) : TraceVerdict → RecoveryProgram Unit
  | .handedOff handoff => markHandoffRequired trace handoff
  | .resolved reason => resolveTrace trace reason
  | .skipped _ | .raised _ => pure ()

def processTrace (trace : Dict) : RecoveryProgram Unit :=
  if traceText trace "recovery_trace_id" = "" then pure ()
  else do
    let listing ← ask .readStore
    let reconciled ← autoRecordReconciliation setup trace listing
    let verdict ← judgeTrace setup (relatedOrders listing trace) reconciled
    applyVerdict reconciled verdict

/-- Process the listed traces until the runtime is told to stop. -/
def processTraces : List Dict → RecoveryProgram Unit
  | [] => pure ()
  | trace :: rest => do
      if ← ask .isStopping then pure ()
      else
        processTrace setup trace
        processTraces rest

end Processing

def tick : RecoveryProgram Unit :=
  rescue (do
    syncTerminalLatestEvaluations
    openSubmitTimeoutTraces setup
    match ← listRecoveryTraces 100 "" "" "active" with
    | none => raised "failed to list active recovery traces"
    | some traces => processTraces setup traces) fun _ => pure ()

end TradingPlatform.Recovery.RecoveryProgram

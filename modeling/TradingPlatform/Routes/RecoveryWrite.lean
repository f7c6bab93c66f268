import TradingPlatform.Recovery.Tick
import TradingPlatform.Routes.OrderWrite

/-! # Recovery routes

What an operator may do with a recovery trace: resolve it, hand it over, unwind
it, cancel its open orders, and record fills and reconciliations. Each route is
a program of commands; the bodies are read before the first of them.
-/

namespace TradingPlatform.Routes

open Programs Program Storage Exchange Recovery RecoveryProgram

/-- What became of an order that was to be cancelled. -/
structure CancelResult where
  orderId : String
  exchangeName : String
  exchangeOrderId : Option String
  result : String
  errorCode : Option String := none
  message : Option String := none
  observedStatus : Option String := none
  updatedOrder : Option Order := none

/-- The answer of a recovery route: the trace, and what was made on the way. -/
structure TraceAnswer where
  status : Nat := 200
  trace : Dict
  createdUnwindIntent : Option OrderIntent := none
  createdUnwindOrder : Option Order := none
  createdUnwindFill : Option Fill := none
  cancelResults : List CancelResult := []
  updatedOrders : List Order := []
  latestEvaluation : Option Dict := none

abbrev RecoveryRoute := RecoveryProgram (Except RouteError TraceAnswer)

section Bodies

/-- The text of any value but a missing one. -/
def optionalString : Json → Option String
  | .null => none
  | value => some value.toText

def optionalBool (text : Option String) : Option Bool :=
  text.bind fun text =>
    let lowered := Text.lower (Text.strip text)
    if lowered ∈ ["true", "1", "yes"] then some true
    else if lowered ∈ ["false", "0", "no"] then some false
    else none

def textOrMissing (text : Option String) : Json := text.elim .null .str

def objectOrMissing (value : Json) : Json := (optionalObject value).elim .null .obj

def isZeroNumberText (text : Option String) : Bool :=
  text.any fun text => (Decimal.valueOfText? text) = some 0

/-- A whole number; truth values do not count. -/
def wholeNumber : Json → Option Int
  | .int n => some n
  | _ => none

def traceNotFound : RouteError :=
  ⟨404, "RECOVERY_TRACE_NOT_FOUND", "recovery_trace_id not found"⟩

def traceTerminal : RouteError :=
  ⟨409, "RECOVERY_TRACE_TERMINAL", "recovery trace is already terminal"⟩

def answerTransition (answer : Dict → TraceAnswer) : Transition → Except RouteError TraceAnswer
  | .missing | .written none => .error traceNotFound
  | .terminal _ => .error traceTerminal
  | .written (some latest) => .ok (answer latest)

/-- The trace a transition answers with, a finished one marked as such. -/
def Transition.trace : Transition → Option Dict
  | .missing => none
  | .terminal current => some (current.set "_conflict" (.str "terminal"))
  | .written latest => latest

end Bodies

section Operator

variable (setup : RecoverySetup) (recoveryTraceId : String) (body : Dict)

def resolveRecoveryTraceResponse : RecoveryRoute := do
  let residual := jsonNumberText setup.decimals (body.get "residual_exposure_quote")
  if body.has "residual_exposure_quote" && residual.isNone then
    pure (.error (badRequest "residual_exposure_quote must be a finite number"))
  else
    match ← getRecoveryTrace recoveryTraceId with
    | none => pure (.error traceNotFound)
    | some current =>
        let effective :=
          (residual.map Numeral.text).or (optionalString (current.get "residual_exposure_quote"))
        if !isZeroNumberText effective then
          pure (.error ⟨409, "RECOVERY_TRACE_RESIDUAL_EXPOSURE_ACTIVE",
            "recovery trace cannot be resolved while residual exposure remains"⟩)
        else
          let closedAt ← ask .isoNow
          let outcome ← transitionRecoveryTrace recoveryTraceId "resolved" "closed" [
            ("manual_handoff_required", .bool false),
            ("residual_exposure_quote", textOrMissing effective),
            ("resolution_reason",
              .str (textOr (optionalString (body.get "resolution_reason")) "operator_resolved")),
            ("verified_by", textOrMissing (optionalString (body.get "verified_by"))),
            ("summary", textOrMissing (optionalString (body.get "summary"))),
            ("closed_at", .str closedAt)]
          pure (answerTransition (fun latest => { trace := latest }) outcome)

def handoffRecoveryTraceResponse : RecoveryRoute := do
  let outcome ← transitionRecoveryTrace recoveryTraceId "handoff_required" "manual_handoff" [
    ("manual_handoff_required", .bool true),
    ("incident_code", .str "ARB-302 MANUAL_HANDOFF_REQUIRED"),
    ("handoff_reason",
      .str (textOr (optionalString (body.get "handoff_reason")) "operator_requested")),
    ("verified_by", textOrMissing (optionalString (body.get "verified_by"))),
    ("summary", textOrMissing (optionalString (body.get "summary"))),
    ("operator_context", objectOrMissing (body.get "operator_context"))]
  pure (answerTransition (fun latest => { trace := latest }) outcome)

end Operator

section Unwinding

variable (setup : RecoverySetup) (recoveryTraceId : String) (body : Dict)

/-- The intent of an unwind, as a body asks for it and the trace allows it. -/
def unwindIntentRequest (current : Dict) : Except RouteError NewOrderIntent := do
  let market := jsonString (body.get "market")
  let buyExchange := jsonString (body.get "buy_exchange")
  let sellExchange := jsonString (body.get "sell_exchange")
  let sidePair := jsonString (body.get "side_pair")
  let targetQty := jsonNumberText setup.decimals (body.get "target_qty")
  let required := [("market", market), ("buy_exchange", buyExchange),
    ("sell_exchange", sellExchange), ("side_pair", sidePair),
    ("target_qty", targetQty.map Numeral.text)]
  let invalid := required.flatMap fun field => unread body field.1 field.2
  let missing := (required.filter fun field => textOr field.2 "" = "").map Prod.fst
  let parts :=
    (if invalid = [] then [] else ["invalid fields: " ++ Text.join ", " (sortedTexts invalid)]) ++
      if missing = [] then [] else ["missing required fields: " ++ Text.join ", " missing]
  if textOr (optionalString (current.get "linked_unwind_action_id")) "" ≠ "" then
    throw ⟨409, "RECOVERY_TRACE_UNWIND_INTENT_EXISTS",
      "recovery trace already has a linked unwind action"⟩
  check parts.isEmpty (Text.join "; " parts)
  let targetQty ← present "target_qty" targetQty
  check (isPositiveNumberText targetQty) "target_qty must be a positive number"
  let runId := textOr (optionalString (current.get "run_id")) ""
  if runId = "" then
    throw ⟨409, "RECOVERY_TRACE_RUN_ID_MISSING",
      "recovery trace does not have a strategy run id"⟩
  return {
    strategyRunId := runId
    market := market.getD ""
    buyExchange := buyExchange.getD ""
    sellExchange := sellExchange.getD ""
    sidePair := sidePair.getD ""
    targetQty := targetQty
    expectedProfit := none
    expectedProfitRatio := none
    status := "created"
    decisionContext := [("recovery_action", .str "manual_unwind"),
      ("recovery_trace_id", .str recoveryTraceId), ("operator_requested", .bool true),
      ("operator_context", .obj ((optionalObject (body.get "operator_context")).getD []))] }

/-- Create the intent of an unwind. -/
def createUnwindIntent (current : Dict) : RecoveryProgram (Except RouteError OrderIntent) :=
  match unwindIntentRequest setup recoveryTraceId body current with
  | .error error => pure (.error error)
  | .ok new => do
      let answer ← ask (.createOrderIntent new)
      match answer.createdRow with
      | none => pure (.error ⟨409, "RECOVERY_TRACE_UNWIND_INTENT_CREATE_FAILED",
          "failed to create linked unwind intent"⟩)
      | some intent => pure (.ok intent)

def unwindPatch (unwindIntent : Option OrderIntent) (residual : Option Numeral)
    (startedAt : String) : Dict :=
  unwindIntent.elim [] (fun intent => [("linked_unwind_action_id", .str intent.intentId),
    ("linked_unwind_intent_id", .str intent.intentId)]) ++ [
    ("manual_handoff_required", .bool false),
    ("incident_code", .str "ARB-202 UNWIND_IN_PROGRESS"),
    ("unwind_reason",
      .str (textOr (optionalString (body.get "unwind_reason")) "operator_requested")),
    ("verified_by", textOrMissing (optionalString (body.get "verified_by"))),
    ("summary", textOrMissing (optionalString (body.get "summary"))),
    ("operator_context", objectOrMissing (body.get "operator_context")),
    ("residual_exposure_quote", textOrMissing (residual.map Numeral.text)),
    ("unwind_started_at", .str startedAt)]

def startUnwind (unwindIntent : Option OrderIntent) (residual : Option Numeral) :
    RecoveryRoute := do
  let startedAt ← ask .isoNow
  let outcome ← transitionRecoveryTrace recoveryTraceId "active" "unwind_in_progress"
    (unwindPatch body unwindIntent residual startedAt)
  pure (answerTransition (fun latest => { trace := latest, createdUnwindIntent := unwindIntent })
    outcome)

def startUnwindRecoveryTraceResponse : RecoveryRoute := do
  let create := optionalBool (optionalString (body.get "create_unwind_intent"))
  let residual := jsonNumberText setup.decimals (body.get "residual_exposure_quote")
  if body.has "create_unwind_intent" && create.isNone then
    pure (.error (badRequest "create_unwind_intent must be true or false"))
  else if body.has "residual_exposure_quote" && !residual.any isNonnegativeNumberText then
    pure (.error (badRequest "residual_exposure_quote must be a finite non-negative number"))
  else
    match ← getRecoveryTrace recoveryTraceId with
    | none => pure (.error traceNotFound)
    | some current =>
        if isTerminalTrace current then pure (.error traceTerminal)
        else if create = some true then
          match ← createUnwindIntent setup recoveryTraceId body current with
          | .error error => pure (.error error)
          | .ok intent => startUnwind recoveryTraceId body (some intent) residual
        else startUnwind recoveryTraceId body none residual

def unwindOrderRefusal : StoreOutcome → RouteError
  | .conflict => ⟨409, "ORDER_CONFLICT", "exchange_name and exchange_order_id already exist"⟩
  | .invalid => ⟨422, "ORDER_VALIDATION_FAILED",
      "market or exchange_name does not match linked unwind intent"⟩
  | _ => ⟨404, "ORDER_INTENT_NOT_FOUND", "linked unwind intent not found"⟩

/-- A transition that fails after the order is created reports a finished trace as if
the order had been linked to it. -/
def submitUnwindOrderResponse : RecoveryRoute := do
  match ← getRecoveryTrace recoveryTraceId with
  | none => pure (.error traceNotFound)
  | some current =>
      let linkedIntentId := textOr (optionalString (current.get "linked_unwind_action_id")) ""
      if isTerminalTrace current then pure (.error traceTerminal)
      else if linkedIntentId = "" then
        pure (.error ⟨409, "RECOVERY_TRACE_UNWIND_INTENT_MISSING",
          "recovery trace does not have a linked unwind intent"⟩)
      else if textOr (optionalString (current.get "linked_unwind_order_id")) "" ≠ "" then
        pure (.error ⟨409, "RECOVERY_TRACE_UNWIND_ORDER_EXISTS",
          "recovery trace already has a linked unwind order"⟩)
      else
        match orderTerms setup.decimals body [] linkedIntentId with
        | .error error => pure (.error error)
        | .ok new =>
            let answer ← ask (.createOrder new)
            match answer.createdRow with
            | none => pure (.error (unwindOrderRefusal answer.outcome))
            | some order =>
                let createdAt ← ask .isoNow
                let outcome ← transitionRecoveryTrace recoveryTraceId "active"
                  "unwind_in_progress" [("linked_unwind_order_id", .str order.orderId),
                    ("unwind_order_created_at", .str createdAt)]
                match Transition.trace outcome with
                | none => pure (.error traceNotFound)
                | some trace =>
                    pure (.ok { status := 201, trace := trace, createdUnwindOrder := some order })

end Unwinding

section Ticking

variable (setup : RecoverySetup) (recoveryTraceId : String)

/-- Run a tick if the runtime is enabled. -/
def runOnce : RecoveryProgram Unit := if setup.runtimeEnabled then tick setup else pure ()

/-- After a record is made: a tick, and what the trace and its evaluation are then. -/
def answerAfterTick (runId : Option String) (fallback : Dict) (answer : TraceAnswer) :
    RecoveryRoute := do
  runOnce setup
  let latest ← getRecoveryTrace recoveryTraceId
  let trace := latest.getD fallback
  match runId with
  | none | some "" => pure (.ok { answer with trace := trace })
  | some runId =>
      let evaluation ← getArbitrageEvaluation runId
      pure (.ok { answer with trace := trace, latestEvaluation := evaluation })

end Ticking

section Cancelling

/-- Open orders of the intents a trace names or linked to it, each once. -/
def openCandidates (intentIds : List String) (linkedOrderId : String) :
    List String → List Order → List Order
  | _, [] => []
  | seen, order :: rest =>
      if order.orderId = "" ∨ order.orderId ∈ seen ∨
          (order.orderIntentId ∉ intentIds ∧ (linkedOrderId = "" ∨ order.orderId ≠ linkedOrderId)) ∨
          normalizedStatus order.status ∈ Storage.terminalOrderStatuses then
        openCandidates intentIds linkedOrderId seen rest
      else order :: openCandidates intentIds linkedOrderId (order.orderId :: seen) rest

def traceCancelCandidateOrders (reads : ReadStore) (trace : Dict) : List Order :=
  let text (key : String) := textOr (optionalString (trace.get key)) ""
  let intentIds := ((["intent_id", "linked_unwind_action_id"].map text).filter (· ≠ "")).dedup
  let linkedOrderId := text "linked_unwind_order_id"
  if intentIds = [] ∧ linkedOrderId = "" then []
  else openCandidates intentIds linkedOrderId []
    (reads.listOrders (text "bot_id") (text "run_id"))

/-- A cancellation that did not go through. -/
def cancelFailed (order : Order) (errorCode message : String)
    (observedStatus : Option String := none) : CancelResult where
  orderId := order.orderId
  exchangeName := order.exchangeName
  exchangeOrderId := order.exchangeOrderId
  result := "failed"
  errorCode := some errorCode
  message := some message
  observedStatus := observedStatus

/-- Take over the status an exchange reports for a cancelled order; one that may have
come with fills is left to reconciliation. -/
def takeOverCancellation (order : Order) (status : String) (observed : Option String) :
    RecoveryProgram CancelResult :=
  if status ∉ ["cancelled", "partially_filled", "filled", "rejected", "expired"] then
    pure (cancelFailed order "CANCEL_NOT_CONFIRMED"
      "exchange cancel response did not confirm a terminal order state" observed)
  else if status ∈ ["filled", "partially_filled"] then
    pure (cancelFailed order "CANCEL_REQUIRES_RECONCILIATION"
      ("cancel response indicates fill activity; wait for reconciliation evidence before " ++
        "changing local order state") observed)
  else do
    let answer ← ask (.updateOrderStatus order.orderId status)
    match answer.outcome with
    | .notFound => pure (cancelFailed order "ORDER_NOT_FOUND"
        "order_id not found while updating local status" observed)
    | .invalid => pure (cancelFailed order "ORDER_STATUS_INVALID"
        ("unsupported local order status: " ++ status) observed)
    | .conflict => pure (cancelFailed order "ORDER_STATUS_CONFLICT"
        "local order is already terminal with a different status" observed)
    | _ => pure {
        orderId := order.orderId
        exchangeName := order.exchangeName
        exchangeOrderId := order.exchangeOrderId
        result := if status = "cancelled" then "cancelled" else "terminal"
        observedStatus := observed
        updatedOrder := answer.row }

/-- Cancel an order at its exchange. -/
def cancelTraceOrder (order : Order) : RecoveryProgram CancelResult :=
  let exchangeOrderId := order.exchangeOrderId.getD ""
  if exchangeOrderId = "" then
    pure {
      orderId := order.orderId
      exchangeName := order.exchangeName
      exchangeOrderId := none
      result := "skipped"
      errorCode := some "EXCHANGE_ORDER_ID_MISSING"
      message := some "order is missing exchange_order_id" }
  else if order.market = "" then
    pure (cancelFailed order "ORDER_MARKET_MISSING" "order is missing market")
  else do
    match ← ask (.cancelOrder order.exchangeName exchangeOrderId order.market) with
    | .error text => raised text
    | .ok none => pure (cancelFailed order "PRIVATE_CONNECTOR_UNAVAILABLE"
        ("private connector is unavailable for exchange=" ++ order.exchangeName))
    | .ok (some response) =>
        match if response.outcome = "ok" then optionalObject response.data else none with
        | none => pure (cancelFailed order (textOr response.errorCode "CANCEL_REQUEST_FAILED")
            (textOr response.reason "cancel request failed"))
        | some data =>
            let status := ((optionalString (data.get "status")).map fun text =>
              Text.lower (Text.strip text)).getD ""
            takeOverCancellation order status (if status = "" then none else some status)

def cancelTraceOrders : List Order → RecoveryProgram (List CancelResult)
  | [] => pure []
  | order :: rest => do
      let result ← cancelTraceOrder order
      let others ← cancelTraceOrders rest
      pure (result :: others)

variable (setup : RecoverySetup) (recoveryTraceId : String) (body : Dict)

def resultIds (results : List CancelResult) (kind : String) : Json :=
  .arr ((results.filter fun result => result.result = kind ∧ result.orderId ≠ "").map
    fun result => .str result.orderId)

def cancelPatch (results : List CancelResult) (remaining : List Order) (attemptedAt : String) :
    Dict :=
  [("cancel_attempted_at", .str attemptedAt),
    ("cancelled_order_ids", resultIds results "cancelled"),
    ("cancel_terminal_order_ids", resultIds results "terminal"),
    ("cancel_failed_order_ids", resultIds results "failed"),
    ("cancel_skipped_order_ids", resultIds results "skipped"),
    ("cancel_remaining_open_order_ids",
      .arr ((remaining.filter (·.orderId ≠ "")).map fun order => .str order.orderId)),
    ("cancel_observed_order_statuses", .arr (results.filterMap fun result =>
      result.observedStatus.bind fun status =>
        if Text.strip result.orderId = "" then none
        else some (.obj [("order_id", .str (Text.strip result.orderId)),
          ("status", .str status)]))),
    ("cancel_verified_by", textOrMissing (optionalString (body.get "verified_by"))),
    ("cancel_summary", .str (textOr (optionalString (body.get "summary"))
      "operator requested open-order cancellation")),
    ("cancel_operator_context", objectOrMissing (body.get "operator_context"))]

def cancelOpenOrdersResponse : RecoveryRoute := do
  match ← getRecoveryTrace recoveryTraceId with
  | none => pure (.error traceNotFound)
  | some current =>
      if isTerminalTrace current then pure (.error traceTerminal)
      else
        let candidates := traceCancelCandidateOrders (← ask .readStore) current
        if candidates = [] then
          pure (.error ⟨409, "RECOVERY_TRACE_OPEN_ORDER_MISSING",
            "recovery trace does not have open linked orders to cancel"⟩)
        else
          let results ← cancelTraceOrders candidates
          let remaining := traceCancelCandidateOrders (← ask .readStore) current
          let attemptedAt ← ask .isoNow
          let outcome ← transitionRecoveryTrace recoveryTraceId
            (textOr (optionalString (current.get "status")) "active")
            (textOr (optionalString (current.get "lifecycle_state")) "recovery_required")
            (cancelPatch body results remaining attemptedAt)
          match Transition.trace outcome with
          | none => pure (.error traceNotFound)
          | some trace =>
              answerAfterTick setup recoveryTraceId (optionalString (current.get "run_id")) trace
                { trace := trace, cancelResults := results
                  updatedOrders := results.filterMap CancelResult.updatedOrder }

end Cancelling

section Fills

variable (setup : RecoverySetup) (recoveryTraceId : String) (body : Dict)

/-- The fill of an unwind order in a body, which must name a trade. -/
def unwindFillRequest (orderId : String) : Except RouteError NewFill :=
  let exchangeTradeId := jsonString (body.get "exchange_trade_id")
  fillTerms setup.decimals body [("exchange_trade_id", exchangeTradeId)] [] orderId

def unwindFillRefusal : StoreOutcome → RouteError
  | .conflict => ⟨409, "FILL_CONFLICT", "exchange_trade_id already exists for order"⟩
  | .invalid => ⟨422, "FILL_VALIDATION_FAILED",
      "fill exceeds requested quantity or order is already terminal"⟩
  | _ => ⟨404, "ORDER_NOT_FOUND", "linked unwind order not found"⟩

def recordUnwindFillResponse : RecoveryRoute := do
  match ← getRecoveryTrace recoveryTraceId with
  | none => pure (.error traceNotFound)
  | some current =>
      let linkedOrderId := textOr (optionalString (current.get "linked_unwind_order_id")) ""
      if isTerminalTrace current then pure (.error traceTerminal)
      else if linkedOrderId = "" then
        pure (.error ⟨409, "RECOVERY_TRACE_UNWIND_ORDER_MISSING",
          "recovery trace does not have a linked unwind order"⟩)
      else
        match unwindFillRequest setup body linkedOrderId with
        | .error error => pure (.error error)
        | .ok new =>
            let answer ← ask (.createFill new)
            match answer.createdRow with
            | none => pure (.error (unwindFillRefusal answer.outcome))
            | some fill =>
                let residual :=
                  if normalizedStatus fill.orderStatus = "filled" then .str "0"
                  else textOrMissing (optionalString (current.get "residual_exposure_quote"))
                let _ ← transitionRecoveryTrace recoveryTraceId "active" "unwind_in_progress" [
                  ("manual_handoff_required", .bool false),
                  ("last_unwind_fill_id", .str fill.fillId),
                  ("last_unwind_fill_at", .str fill.filledAt),
                  ("last_unwind_order_status", .str fill.orderStatus),
                  ("residual_exposure_quote", residual)]
                answerAfterTick setup recoveryTraceId (optionalString (current.get "run_id"))
                  current { status := 201, trace := current, createdUnwindFill := some fill }

end Fills

section Reconciliations

variable (setup : RecoverySetup) (recoveryTraceId : String) (body : Dict)

/-- Texts without blanks at their ends, none of them empty or named twice. -/
def uniqueStringList : Json → Option (List String) := observedList observedText id

/-- A reported order status; any text will do. -/
def reportedOrderStatus : Json → Option ObservedOrderStatus
  | .obj fields =>
      match Dict.get fields "order_id", Dict.get fields "status" with
      | .str orderId, .str status =>
          let normalized := Text.lower (Text.strip status)
          if Text.strip orderId = "" ∨ normalized = "" then none
          else some ⟨Text.strip orderId, normalized⟩
      | _, _ => none
  | _ => none

def reportedOrderStatuses : Json → Option (List ObservedOrderStatus) :=
  observedList reportedOrderStatus ObservedOrderStatus.orderId

structure ReportedBalance where
  exchangeName : String
  asset : String
  free : Numeral
  locked : Numeral

def reportedBalance : Json → Option ReportedBalance
  | .obj fields =>
      match Dict.get fields "exchange_name", Dict.get fields "asset",
        jsonNumberText setup.decimals (Dict.get fields "free"),
        jsonNumberText setup.decimals (Dict.get fields "locked") with
      | .str exchangeName, .str asset, some free, some locked =>
          if !isNonnegativeNumberText free || !isNonnegativeNumberText locked ||
              Text.strip exchangeName = "" || Text.upper (Text.strip asset) = "" then none
          else some ⟨Text.strip exchangeName, Text.upper (Text.strip asset), free, locked⟩
      | _, _, _, _ => none
  | _ => none

def reportedBalances : Json → Option (List ReportedBalance) :=
  observedList (reportedBalance setup) fun balance => (balance.exchangeName, balance.asset)

structure Reconciliation where
  isMatched : Bool
  openOrderCount : Int
  residual : Numeral
  observedAt : Option String
  orderIds : Option (List String)
  fillIds : Option (List String)
  orderStatuses : Option (List ObservedOrderStatus)
  balances : Option (List ReportedBalance)

/-- A field that may be left out, but must be read when it is there. -/
def readIfPresent {α : Type} (key message : String) (read : Json → Option α) :
    Except RouteError (Option α) :=
  if body.has key then
    match read (body.get key) with
    | none => .error (badRequest message)
    | some a => .ok (some a)
  else .ok none

def reconciliationRequest : Except RouteError Reconciliation := do
  let isMatched ← match optionalBool (optionalString (body.get "matched")) with
    | none => throw (badRequest "matched must be true or false")
    | some isMatched => pure isMatched
  let openOrderCount ← match (wholeNumber (body.get "open_order_count")).filter (0 ≤ ·) with
    | none => throw (badRequest "open_order_count must be a non-negative integer")
    | some count => pure count
  let residual ← match (jsonNumberText setup.decimals
      (body.get "residual_exposure_quote")).filter isNonnegativeNumberText with
    | none => throw (badRequest "residual_exposure_quote must be a finite non-negative number")
    | some residual => pure residual
  let observedAt ← readIfPresent body "observed_at" "observed_at must be an ISO datetime string"
    jsonDatetimeText
  let orderIds ← readIfPresent body "observed_order_ids"
    "observed_order_ids must be an array of unique non-empty strings" uniqueStringList
  let fillIds ← readIfPresent body "observed_fill_ids"
    "observed_fill_ids must be an array of unique non-empty strings" uniqueStringList
  let orderStatuses ← readIfPresent body "observed_order_statuses"
    "observed_order_statuses must be an array of unique \x7border_id, status\x7d objects"
    reportedOrderStatuses
  let balances ← readIfPresent body "observed_balances"
    ("observed_balances must be an array of unique \x7bexchange_name, asset, free, locked\x7d " ++
      "objects with non-negative numbers") (reportedBalances setup)
  return ⟨isMatched, openOrderCount, residual, observedAt, orderIds, fillIds, orderStatuses,
    balances⟩

/-- A list of evidence, missing when it was left out. -/
def listOrMissing {α : Type} (items : Option (List α)) (json : α → Json) : Json :=
  items.elim .null fun items => .arr (items.map json)

def previousCount (current : Dict) (key : String) : Int := (wholeNumber (current.get key)).getD 0

def recordedPatch (current : Dict) (reconciliation : Reconciliation) (updatedAt : String) : Dict :=
  let isMatched := reconciliation.isMatched
  [("reconciliation_result", .str (if isMatched then "matched" else "mismatch")),
    ("reconciliation_open_order_count", .int reconciliation.openOrderCount),
    ("reconciliation_residual_exposure_quote", .str reconciliation.residual.text),
    ("reconciliation_attempt_count",
      .int (previousCount current "reconciliation_attempt_count" + 1)),
    ("reconciliation_matched_count", .int (previousCount current "reconciliation_matched_count" +
      if isMatched then 1 else 0)),
    ("reconciliation_mismatch_count", .int (previousCount current "reconciliation_mismatch_count" +
      if isMatched then 0 else 1)),
    ("reconciliation_mismatch_streak", .int (if isMatched then 0
      else previousCount current "reconciliation_mismatch_streak" + 1)),
    ("reconciliation_reason",
      textOrMissing (optionalString (body.get "reconciliation_reason"))),
    ("reconciliation_summary", textOrMissing (optionalString (body.get "summary"))),
    ("reconciliation_source",
      .str (textOr (optionalString (body.get "source")) "operator_recorded")),
    ("reconciliation_observed_at", textOrMissing reconciliation.observedAt),
    ("reconciliation_operator_context", objectOrMissing (body.get "operator_context")),
    ("reconciliation_observed_order_ids", listOrMissing reconciliation.orderIds .str),
    ("reconciliation_observed_fill_ids", listOrMissing reconciliation.fillIds .str),
    ("reconciliation_observed_order_statuses", listOrMissing reconciliation.orderStatuses
      fun status => .obj [("order_id", .str status.orderId), ("status", .str status.status)]),
    ("reconciliation_observed_balances", listOrMissing reconciliation.balances fun balance =>
      .obj [("exchange_name", .str balance.exchangeName), ("asset", .str balance.asset),
        ("free", .str balance.free.text), ("locked", .str balance.locked.text)]),
    ("reconciliation_verified_by", textOrMissing (optionalString (body.get "verified_by"))),
    ("reconciliation_updated_at", .str updatedAt)]

def recordReconciliationResponse : RecoveryRoute :=
  match reconciliationRequest setup body with
  | .error error => pure (.error error)
  | .ok reconciliation => do
      match ← getRecoveryTrace recoveryTraceId with
      | none => pure (.error traceNotFound)
      | some current =>
          if isTerminalTrace current then pure (.error traceTerminal)
          else
            let updatedAt ← ask .isoNow
            syncRecoveryTrace recoveryTraceId
              (current.merge (recordedPatch body current reconciliation updatedAt))
            match ← getRecoveryTrace recoveryTraceId with
            | none => pure (.error ⟨502, "REDIS_RUNTIME_WRITE_FAILED",
                "failed to persist reconciliation result"⟩)
            | some updated =>
                let runId := textOr (optionalString (updated.get "run_id")) ""
                if runId ≠ "" then syncArbitrageEvaluationRecoveryState runId updated
                answerAfterTick setup recoveryTraceId (some runId) updated { trace := updated }

end Reconciliations

end TradingPlatform.Routes

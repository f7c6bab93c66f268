import TradingPlatform.Execution.SubmitResult
import TradingPlatform.Runtime.ExecuteIntent
import TradingPlatform.Strategy.Evaluate

/-! # Decisions as they are reported

A decision with its context in the form that is stored with an intent and kept
as the latest evaluation of a run, and the lifecycle an evaluation is previewed
with. How a decimal prints is a parameter: a decimal is kept by its value, which
does not tell how many zeros it ends with.
-/

namespace TradingPlatform.Strategy

open Storage Execution TradingPlatform.Runtime

/-- An intent as a decision plans it. -/
structure PlannedIntent where
  market : String
  buyExchange : String
  sellExchange : String
  sidePair : String
  targetQty : Numeral
  expectedProfit : Numeral
  expectedProfitRatio : Numeral
  decisionContext : Dict

/-- A decision with a context that later stages add to. -/
structure ReportedDecision where
  accepted : Bool
  reasonCode : String
  evaluated : ArbitrageDecision
  plan : Option PlannedIntent
  context : Dict

section Contexts

variable (print : ℚ → Numeral)

def printed (number : ℚ) : Json := .str (print number).text

/-- A printed part of a result, null when there is no result. -/
def printedOf {α : Type} (result : Option α) (part : α → ℚ) : Json :=
  (result.map fun value => printed print (part value)).getD .null

def componentsDict (c : SizeComponents) : Dict :=
  [("buy_depth_levels", .str (toString c.buyDepthLevels)),
    ("sell_depth_levels", .str (toString c.sellDepthLevels)),
    ("buy_depth_qty", printed print c.buyDepthQty),
    ("sell_depth_qty", printed print c.sellDepthQty),
    ("buy_depth_notional_quote", printed print c.buyDepthNotionalQuote),
    ("sell_depth_notional_quote", printed print c.sellDepthNotionalQuote),
    ("buy_quote_available", printed print c.buyQuoteAvailable),
    ("sell_base_available", printed print c.sellBaseAvailable),
    ("buy_quote_budget_for_gross_cost", printed print c.buyQuoteBudgetForGrossCost),
    ("buy_quote_available_qty", printed print c.buyQuoteAvailableQty),
    ("sell_base_available_qty", printed print c.sellBaseAvailableQty),
    ("max_notional_per_order_qty", printed print c.maxNotionalPerOrderQty),
    ("max_total_notional_per_bot_qty", printed print c.maxTotalNotionalPerBotQty),
    ("remaining_bot_notional_qty", printed print c.remainingBotNotionalQty)]

def sizeDict (size : CandidateSizeResult) : Dict :=
  match size.components with
  | .ok components => componentsDict print components
  | .error text => [("error", .str text)]

def serializeGateChecks (checks : List GateCheckResult) : Json :=
  .arr (checks.map fun check => .obj [("name", .str check.name.text),
    ("passed", .bool check.passed), ("detail", .str check.detail)])

def computedDict (c : DecisionContext) : Dict :=
  let sizePart (key : String) : Json :=
    (c.computedSize.map fun size => (sizeDict print size).get key).getD .null
  let edgePart (part : ExecutableEdgeResult → ℚ) : Json := printedOf print c.computedEdge part
  [("target_qty", printedOf print c.computedSize CandidateSizeResult.targetQty),
    ("buy_depth_levels", sizePart "buy_depth_levels"),
    ("sell_depth_levels", sizePart "sell_depth_levels"),
    ("buy_depth_notional_quote", sizePart "buy_depth_notional_quote"),
    ("sell_depth_notional_quote", sizePart "sell_depth_notional_quote"),
    ("executable_buy_cost_quote", edgePart (·.executableBuyCostQuote)),
    ("executable_sell_proceeds_quote", edgePart (·.executableSellProceedsQuote)),
    ("gross_profit_quote", edgePart (·.grossProfitQuote)),
    ("executable_profit_quote", edgePart (·.executableProfitQuote)),
    ("executable_profit_bps", edgePart (·.executableProfitBps)),
    ("fee_buy_quote", edgePart (·.feeBuyQuote)), ("fee_sell_quote", edgePart (·.feeSellQuote)),
    ("buy_slippage_buffer_quote", edgePart (·.buySlippageBufferQuote)),
    ("sell_slippage_buffer_quote", edgePart (·.sellSlippageBufferQuote)),
    ("unwind_buffer_quote", edgePart (·.unwindBufferQuote)),
    ("rebalance_buffer_quote", edgePart (·.rebalanceBufferQuote)),
    ("total_cost_adjustment_quote", edgePart (·.totalCostAdjustmentQuote)),
    ("depth_passed", .bool c.depthPassed)]

def reservationDetails (plan : ReservationPlan) : Dict :=
  [("buy_quote_available", printed print plan.buyQuoteAvailable),
    ("sell_base_available", printed print plan.sellBaseAvailable),
    ("failures", .str plan.failures)]

def contextDict (c : DecisionContext) : Dict :=
  [("decision_id", .str (c.decisionRunId ++ ":" ++ zuluText (Datetime.isoText c.decisionInstant))),
    ("quote_pair_id", .str c.quotePairId), ("clock_skew_ms", .int c.clockSkewMs),
    ("gate_checks", serializeGateChecks c.gateChecks), ("computed", .obj (computedDict print c)),
    ("reservation", .obj [("reservation_passed", .bool c.reservationPassed),
      ("quote_required", printedOf print c.reservation (·.quoteRequired)),
      ("base_required", printedOf print c.reservation (·.baseRequired)),
      ("details", .obj ((c.reservation.map (reservationDetails print)).getD []))]),
    ("reservation_passed", .bool c.reservationPassed), ("reason_code", .str c.reasonCode.text)]

/-- A decision with its context written out. -/
def reportDecision (decision : ArbitrageDecision) : ReportedDecision where
  accepted := decision.accepted
  reasonCode := decision.reasonCode.text
  evaluated := decision
  plan := decision.orderIntentPlan.map fun plan =>
    { market := plan.market
      buyExchange := plan.buyExchange
      sellExchange := plan.sellExchange
      sidePair := plan.sidePair
      targetQty := print plan.targetQty
      expectedProfit := print plan.expectedProfit
      expectedProfitRatio := print plan.expectedProfitRatio
      decisionContext := contextDict print plan.decisionContext }
  context := contextDict print decision.decisionContext

/-- A decision and its plan with another context. -/
def ReportedDecision.withContext (decision : ReportedDecision) (context : Dict) :
    ReportedDecision :=
  { decision with
    context := context
    plan := decision.plan.map fun plan => { plan with decisionContext := context } }

end Contexts

section PairLock

/-- What a pair lock is kept with. -/
def buildPairLockPayload (botId strategyRunId ownerId market quotePairId lifecycleState : String)
    (selectedPair : Option Dict) (acquiredAt : String) (intentId recoveryTraceId : Option String) :
    Dict :=
  [("owner_id", .str ownerId), ("bot_id", .str botId), ("strategy_run_id", .str strategyRunId),
    ("market", .str market), ("quote_pair_id", .str quotePairId),
    ("selected_pair", selectedPair.elim .null .obj), ("lifecycle_state", .str lifecycleState),
    ("intent_id", intentId.elim .null .str), ("recovery_trace_id", recoveryTraceId.elim .null .str),
    ("acquired_at", .str acquiredAt)]

def buildPairLockBlockedDecision (decision : ReportedDecision) (existingLock : Dict) :
    ReportedDecision where
  accepted := false
  reasonCode := "PAIR_LOCK_ACTIVE"
  evaluated := decision.evaluated
  plan := none
  context := decision.context.set "pair_lock"
    (.obj [("state", .str "blocked"), ("existing_lock", .obj existingLock)])

def attachPairLockContext (decision : ReportedDecision) (pairLockPayload : Dict) :
    ReportedDecision :=
  decision.withContext (decision.context.set "pair_lock"
    (.obj (Dict.merge [("state", .str "acquired")] pairLockPayload)))

end PairLock

section Lifecycle

/-- What a lifecycle state is derived from. -/
structure LifecycleEvidence where
  decisionAccepted : Bool := false
  hasOrderIntents : Bool := false
  hasSubmittedOrders : Bool := false
  hasOpenOrders : Bool := false
  hedgeBalanced : Bool := false
  recoveryRequired : Bool := false
  unwindInProgress : Bool := false
  manualHandoff : Bool := false

/-- The strongest state there is evidence of. -/
def deriveArbitrageLifecycleState (evidence : LifecycleEvidence) : String :=
  if evidence.manualHandoff then "manual_handoff"
  else if evidence.unwindInProgress then "unwind_in_progress"
  else if evidence.recoveryRequired then "recovery_required"
  else if evidence.hasOpenOrders then "entry_open"
  else if evidence.hasSubmittedOrders then "entry_submitting"
  else if evidence.hedgeBalanced then "hedge_balanced"
  else if evidence.hasOrderIntents then "intent_created"
  else if evidence.decisionAccepted then "decision_accepted"
  else "decision_rejected"

end Lifecycle

section Payload

variable (print : ℚ → Numeral) (decision : ReportedDecision)

def candidateSizePayload : Json :=
  match decision.evaluated.candidateSize with
  | none => .null
  | some size => .obj [("target_qty", printed print size.targetQty),
      ("components", .obj (sizeDict print size))]

def executableEdgePayload : Json :=
  match decision.evaluated.executableEdge with
  | none => .null
  | some edge => .obj
      [("executable_buy_cost_quote", printed print edge.executableBuyCostQuote),
        ("executable_sell_proceeds_quote", printed print edge.executableSellProceedsQuote),
        ("gross_profit_quote", printed print edge.grossProfitQuote),
        ("executable_profit_quote", printed print edge.executableProfitQuote),
        ("executable_profit_bps", printed print edge.executableProfitBps),
        ("fee_buy_quote", printed print edge.feeBuyQuote),
        ("fee_sell_quote", printed print edge.feeSellQuote),
        ("buy_slippage_buffer_quote", printed print edge.buySlippageBufferQuote),
        ("sell_slippage_buffer_quote", printed print edge.sellSlippageBufferQuote),
        ("unwind_buffer_quote", printed print edge.unwindBufferQuote),
        ("rebalance_buffer_quote", printed print edge.rebalanceBufferQuote),
        ("total_fee_quote", printed print edge.totalFeeQuote),
        ("total_cost_adjustment_quote", printed print edge.totalCostAdjustmentQuote)]

def reservationPlanPayload : Json :=
  match decision.evaluated.reservationPlan with
  | none => .null
  | some plan => .obj
      [("reservation_passed", .bool plan.reservationPassed),
        ("reason_code", (plan.reasonCode.map fun code => Json.str code.text).getD .null),
        ("quote_required", printed print plan.quoteRequired),
        ("base_required", printed print plan.baseRequired),
        ("reserved_notional", printed print plan.reservedNotional),
        ("details", .obj (reservationDetails print plan))]

/-- Where a failed submit of an accepted decision would lead. -/
def submitFailurePreview : List (String × Json) :=
  if decision.accepted then
    let reservationPassed := decision.evaluated.reservationPlan.any (·.reservationPassed)
    let next (autoUnwindAllowed : Bool) : Json := .str
      (classifySubmitFailureTransition true reservationPassed true autoUnwindAllowed
        false).nextState
    [("submit_failure_preview",
      .obj [("without_auto_unwind", next false), ("with_auto_unwind", next true)])]
  else []

/-- An intent row as the store hands it out. -/
def orderIntentDict (intent : OrderIntent) : Dict :=
  let number (value : Option Numeral) : Json := (value.map fun n => Json.str n.text).getD .null
  [("intent_id", .str intent.intentId), ("bot_id", .str intent.botId),
    ("strategy_run_id", .str intent.strategyRunId), ("market", .str intent.market),
    ("buy_exchange", .str intent.buyExchange), ("sell_exchange", .str intent.sellExchange),
    ("side_pair", .str intent.sidePair), ("target_qty", .str intent.targetQty.text),
    ("expected_profit", number intent.expectedProfit),
    ("expected_profit_ratio", number intent.expectedProfitRatio), ("status", .str intent.status),
    ("created_at", .str intent.createdAt), ("decision_context", .obj intent.decisionContext)]

/-- The evaluation of a run as it is cached and answered. -/
def buildArbitrageEvaluationPayload (botId strategyRunId : String)
    (persistedIntent : Option OrderIntent) (lifecyclePreviewOverride : Option String)
    (submitResult : Option Dict) : Dict :=
  let derived := deriveArbitrageLifecycleState
    { decisionAccepted := decision.accepted, hasOrderIntents := persistedIntent.isSome }
  let lifecyclePreview :=
    match lifecyclePreviewOverride with
    | some preview => if preview = "" then derived else preview
    | none => derived
  [("bot_id", .str botId), ("strategy_run_id", .str strategyRunId),
    ("accepted", .bool decision.accepted), ("reason_code", .str decision.reasonCode),
    ("lifecycle_preview", .str lifecyclePreview), ("decision_context", .obj decision.context),
    ("candidate_size", candidateSizePayload print decision),
    ("executable_edge", executableEdgePayload print decision),
    ("reservation_plan", reservationPlanPayload print decision)] ++
    submitFailurePreview decision ++
    (persistedIntent.map fun intent =>
      ("persisted_intent", Json.obj (orderIntentDict intent))).toList ++
    (submitResult.map fun result => ("submit_result", Json.obj result)).toList

end Payload

section Persisting

/-- The intent a decision asks the store for; a rejected decision asks for none. -/
def orderIntentOfPlan (decision : ReportedDecision) (strategyRunId : String) :
    Option NewOrderIntent :=
  if decision.accepted then
    decision.plan.map fun plan =>
      { strategyRunId := strategyRunId
        market := plan.market
        buyExchange := plan.buyExchange
        sellExchange := plan.sellExchange
        sidePair := plan.sidePair
        targetQty := plan.targetQty
        expectedProfit := some plan.expectedProfit
        expectedProfitRatio := some plan.expectedProfitRatio
        status := "created"
        decisionContext := plan.decisionContext }
  else none

end Persisting

end TradingPlatform.Strategy

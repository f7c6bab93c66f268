import TradingPlatform.Strategy.Gate
import TradingPlatform.Strategy.Pricing

/-! # Evaluating one exchange pair

The evaluation pipeline: gate, size, depth, edge, caps, spread, reservation.
Every rejection carries the results computed so far.
-/

namespace TradingPlatform.Strategy

variable (ctx : DecimalContext)

def isRiskCapBlocked (inputs : ArbitrageInputs) (notional : ℚ) : Bool :=
  inputs.riskConfig.maxNotionalPerOrder < notional ||
    inputs.riskConfig.maxTotalNotionalPerBot < notional ||
    match inputs.runtimeState.remainingBotNotional with
    | some remaining => remaining < notional
    | none => false

/-- The components the depth checks read; a size without components reads as zeros. -/
def CandidateSizeResult.depths (size : CandidateSizeResult) : Nat × Nat × ℚ × ℚ :=
  match size.components with
  | .ok c => (c.buyDepthLevels, c.sellDepthLevels, c.buyDepthNotionalQuote,
      c.sellDepthNotionalQuote)
  | .error _ => (0, 0, 0, 0)

def isDepthInsufficient (inputs : ArbitrageInputs) (size : CandidateSizeResult) : Bool :=
  let requiredLevels := max inputs.riskConfig.minOrderbookDepthLevels 1
  let requiredNotional := inputs.riskConfig.minAvailableDepthQuote
  let (buyLevels, sellLevels, buyNotional, sellNotional) := size.depths
  (buyLevels : Int) < requiredLevels || (sellLevels : Int) < requiredLevels ||
    buyNotional < requiredNotional || sellNotional < requiredNotional

def depthPassed (inputs : ArbitrageInputs) (size : Option CandidateSizeResult) : Bool :=
  match size with
  | none => false
  | some size => !isDepthInsufficient inputs size

def reserveCapacity (inputs : ArbitrageInputs) (size : CandidateSizeResult)
    (edge : ExecutableEdgeResult) : ReservationPlan :=
  let quoteRequired :=
    ctx.add (ctx.add (ctx.add (ctx.add edge.executableBuyCostQuote edge.feeBuyQuote)
      edge.buySlippageBufferQuote) edge.unwindBufferQuote) edge.rebalanceBufferQuote
  let baseRequired := size.targetQty
  let failures :=
    (if inputs.baseBalance.availableQuote < quoteRequired then ["buy_quote_insufficient"]
      else []) ++
    (if inputs.hedgeBalance.availableBase < baseRequired then ["sell_base_insufficient"] else [])
  { reservationPassed := failures.isEmpty
    reasonCode := if failures.isEmpty then none else some .reservationFailed
    quoteRequired := quoteRequired
    baseRequired := baseRequired
    reservedNotional := edge.executableBuyCostQuote
    buyQuoteAvailable := inputs.baseBalance.availableQuote
    sellBaseAvailable := inputs.hedgeBalance.availableBase
    failures := Text.join "," failures }

def buildDecisionContext (inputs : ArbitrageInputs) (reasonCode : ReasonCode)
    (checks : List GateCheckResult) (size : Option CandidateSizeResult)
    (edge : Option ExecutableEdgeResult) (reservation : Option ReservationPlan) :
    DecisionContext where
  decisionRunId := inputs.strategyRunId
  decisionInstant := inputs.runtimeState.now
  quotePairId := inputs.baseExchange ++ ":" ++ inputs.market ++ "|" ++
    inputs.hedgeExchange ++ ":" ++ inputs.market
  clockSkewMs := clockSkewMs inputs
  gateChecks := checks
  computedSize := size
  computedEdge := edge
  depthPassed := depthPassed inputs size
  reservation := reservation
  reservationPassed := reservation.elim false ReservationPlan.reservationPassed
  reasonCode := reasonCode

def buildOrderIntentPlan (inputs : ArbitrageInputs) (edge : ExecutableEdgeResult)
    (size : CandidateSizeResult) (context : DecisionContext) : OrderIntentPlan where
  market := inputs.market
  buyExchange := inputs.baseExchange
  sellExchange := inputs.hedgeExchange
  sidePair := "buy_then_sell"
  targetQty := size.targetQty
  expectedProfit := edge.executableProfitQuote
  expectedProfitRatio := edge.executableProfitBps
  decisionContext := context

def buildRejectDecision (inputs : ArbitrageInputs) (reasonCode : ReasonCode)
    (checks : List GateCheckResult) (size : Option CandidateSizeResult)
    (edge : Option ExecutableEdgeResult) (reservation : Option ReservationPlan) :
    ArbitrageDecision where
  accepted := false
  reasonCode := reasonCode
  gateChecks := checks
  candidateSize := size
  executableEdge := edge
  reservationPlan := reservation
  orderIntentPlan := none
  decisionContext := buildDecisionContext inputs reasonCode checks size edge reservation

def buildAcceptDecision (inputs : ArbitrageInputs) (checks : List GateCheckResult)
    (size : CandidateSizeResult) (edge : ExecutableEdgeResult) (reservation : ReservationPlan) :
    ArbitrageDecision :=
  let context := buildDecisionContext inputs .arbitrageOpportunityFound checks (some size)
    (some edge) (some reservation)
  { accepted := true
    reasonCode := .arbitrageOpportunityFound
    gateChecks := checks
    candidateSize := some size
    executableEdge := some edge
    reservationPlan := some reservation
    orderIntentPlan := some (buildOrderIntentPlan inputs edge size context)
    decisionContext := context }

def evaluateArbitrage (inputs : ArbitrageInputs) : ArbitrageDecision :=
  let (checks, gateReason) := validateGateConditions inputs
  match gateReason with
  | some reason => buildRejectDecision inputs reason checks none none none
  | none =>
    let size := computeCandidateSize ctx inputs
    if size.targetQty ≤ 0 then
      buildRejectDecision inputs .orderbookDepthInsufficient checks (some size) none none
    else if isDepthInsufficient inputs size then
      buildRejectDecision inputs .orderbookDepthInsufficient checks (some size) none none
    else
      match simulateExecutableEdge ctx inputs size with
      | none =>
          buildRejectDecision inputs .executableProfitNegativeAfterDepth checks
            (some size) none none
      | some edge =>
        if edge.executableProfitQuote < inputs.riskConfig.minProfitQuote then
          buildRejectDecision inputs .executableProfitNegativeAfterDepth checks (some size)
            (some edge) none
        else if edge.executableProfitBps < inputs.riskConfig.minProfitBps then
          buildRejectDecision inputs .executableProfitNegativeAfterDepth checks (some size)
            (some edge) none
        else if isRiskCapBlocked inputs edge.executableBuyCostQuote then
          buildRejectDecision inputs .riskLimitBlocked checks (some size) (some edge) none
        else
          let spreadBps := ctx.mul (ctx.div (ctx.sub edge.sellVwap edge.buyVwap) edge.buyVwap) 10000
          if inputs.riskConfig.maxSpreadBps < spreadBps then
            buildRejectDecision inputs .riskLimitBlocked checks (some size) (some edge) none
          else
            let reservation := reserveCapacity ctx inputs size edge
            if reservation.reservationPassed then
              buildAcceptDecision inputs checks size edge reservation
            else
              buildRejectDecision inputs .reservationFailed checks (some size) (some edge)
                (some reservation)

end TradingPlatform.Strategy

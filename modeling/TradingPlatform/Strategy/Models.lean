import TradingPlatform.Foundation.Decimal
import TradingPlatform.Foundation.PriceLadder

/-! # Arbitrage evaluation: inputs and results

The records of an evaluation. Amounts are rationals; instants and ages are
microseconds and milliseconds. Texts that a result prints from its own numbers
are kept as those numbers.
-/

namespace TradingPlatform.Strategy

/-- A price level of an order book. -/
abbrev OrderbookLevel := PriceLadder.Rung ℚ

structure OrderbookSnapshot where
  exchangeName : String
  market : String
  observedAt : Int
  asks : List OrderbookLevel
  bids : List OrderbookLevel
  connectorHealthy : Bool := true
deriving DecidableEq

structure BalanceSnapshot where
  exchangeName : String
  baseAsset : String
  quoteAsset : String
  availableBase : ℚ
  availableQuote : ℚ
  observedAt : Int
  isFresh : Bool := true
deriving DecidableEq

structure RiskConfig where
  minProfitQuote : ℚ
  minProfitBps : ℚ
  maxClockSkewMs : Int
  maxOrderbookAgeMs : Int
  maxBalanceAgeMs : Int
  maxNotionalPerOrder : ℚ
  maxTotalNotionalPerBot : ℚ
  maxSpreadBps : ℚ
  minOrderbookDepthLevels : Int := 1
  minAvailableDepthQuote : ℚ := 0
  slippageBufferBps : ℚ := 0
  unwindBufferQuote : ℚ := 0
  rebalanceBufferQuote : ℚ := 0
  takerFeeBpsBuy : ℚ := 0
  takerFeeBpsSell : ℚ := 0
  reentryCooldownSeconds : Int := 0
deriving DecidableEq

structure RuntimeState where
  now : Int
  openOrderCount : Int := 0
  openOrderCap : Int := 0
  unwindInProgress : Bool := false
  connectorPrivateHealthy : Bool := true
  duplicateIntentActive : Bool := false
  recentUnwindAt : Option Int := none
  remainingBotNotional : Option ℚ := none
deriving DecidableEq

structure ArbitrageInputs where
  botId : String
  strategyRunId : String
  canonicalSymbol : String
  market : String
  baseExchange : String
  hedgeExchange : String
  baseOrderbook : OrderbookSnapshot
  hedgeOrderbook : OrderbookSnapshot
  baseBalance : BalanceSnapshot
  hedgeBalance : BalanceSnapshot
  riskConfig : RiskConfig
  runtimeState : RuntimeState
deriving DecidableEq

/-- An exchange that may take either side, with its book and its balance. -/
structure CandidateExchange where
  name : String
  orderbook : OrderbookSnapshot
  balance : BalanceSnapshot

structure ArbitrageCandidateInputs where
  botId : String
  strategyRunId : String
  canonicalSymbol : String
  market : String
  candidates : List CandidateExchange
  riskConfig : RiskConfig
  runtimeState : RuntimeState

inductive ReasonCode where
  | arbitrageOpportunityFound
  | orderbookStale
  | balanceStale
  | quotePairSkewTooHigh
  | publicConnectorDegraded
  | hedgeConfidenceTooLow
  | reentryCooldownActive
  | duplicateIntentBlocked
  | riskLimitBlocked
  | orderbookDepthInsufficient
  | executableProfitNegativeAfterDepth
  | reservationFailed
deriving DecidableEq, Repr

def ReasonCode.text : ReasonCode → String
  | arbitrageOpportunityFound => "ARBITRAGE_OPPORTUNITY_FOUND"
  | orderbookStale => "ORDERBOOK_STALE"
  | balanceStale => "BALANCE_STALE"
  | quotePairSkewTooHigh => "QUOTE_PAIR_SKEW_TOO_HIGH"
  | publicConnectorDegraded => "PUBLIC_CONNECTOR_DEGRADED"
  | hedgeConfidenceTooLow => "HEDGE_CONFIDENCE_TOO_LOW"
  | reentryCooldownActive => "REENTRY_COOLDOWN_ACTIVE"
  | duplicateIntentBlocked => "DUPLICATE_INTENT_BLOCKED"
  | riskLimitBlocked => "RISK_LIMIT_BLOCKED"
  | orderbookDepthInsufficient => "ORDERBOOK_DEPTH_INSUFFICIENT"
  | executableProfitNegativeAfterDepth => "EXECUTABLE_PROFIT_NEGATIVE_AFTER_DEPTH"
  | reservationFailed => "RESERVATION_FAILED"

inductive GateCheckName where
  | orderbookFreshness
  | balanceFreshness
  | quotePairLock
  | publicConnectorHealth
  | privateConnectorHealth
  | unwindBlock
  | openOrderCap
  | duplicateIntent
  | reentryCooldown
deriving DecidableEq, Repr

def GateCheckName.text : GateCheckName → String
  | orderbookFreshness => "orderbook_freshness"
  | balanceFreshness => "balance_freshness"
  | quotePairLock => "quote_pair_lock"
  | publicConnectorHealth => "public_connector_health"
  | privateConnectorHealth => "private_connector_health"
  | unwindBlock => "unwind_block"
  | openOrderCap => "open_order_cap"
  | duplicateIntent => "duplicate_intent"
  | reentryCooldown => "reentry_cooldown"

structure GateCheckResult where
  name : GateCheckName
  passed : Bool
  detail : String
deriving DecidableEq, Repr

/-- The components a size computation reports, printed by the source. -/
structure SizeComponents where
  buyDepthLevels : Nat
  sellDepthLevels : Nat
  buyDepthQty : ℚ
  sellDepthQty : ℚ
  buyDepthNotionalQuote : ℚ
  sellDepthNotionalQuote : ℚ
  buyQuoteAvailable : ℚ
  sellBaseAvailable : ℚ
  buyQuoteBudgetForGrossCost : ℚ
  buyQuoteAvailableQty : ℚ
  sellBaseAvailableQty : ℚ
  maxNotionalPerOrderQty : ℚ
  maxTotalNotionalPerBotQty : ℚ
  remainingBotNotionalQty : ℚ
deriving DecidableEq, Repr

/-- Either the components or the reason there are none. -/
structure CandidateSizeResult where
  targetQty : ℚ
  components : Except String SizeComponents

structure ExecutableEdgeResult where
  executableBuyCostQuote : ℚ
  executableSellProceedsQuote : ℚ
  grossProfitQuote : ℚ
  executableProfitQuote : ℚ
  executableProfitBps : ℚ
  buyVwap : ℚ
  sellVwap : ℚ
  feeBuyQuote : ℚ
  feeSellQuote : ℚ
  buySlippageBufferQuote : ℚ
  sellSlippageBufferQuote : ℚ
  unwindBufferQuote : ℚ
  rebalanceBufferQuote : ℚ
  totalFeeQuote : ℚ
  totalCostAdjustmentQuote : ℚ
  passed : Bool
deriving DecidableEq, Repr

structure ReservationPlan where
  reservationPassed : Bool
  reasonCode : Option ReasonCode
  quoteRequired : ℚ
  baseRequired : ℚ
  reservedNotional : ℚ
  buyQuoteAvailable : ℚ
  sellBaseAvailable : ℚ
  failures : String
deriving DecidableEq, Repr

/-- What a decision records about the evaluation; `computed` prints the size
and edge results, `reservation` the reservation plan. -/
structure DecisionContext where
  decisionRunId : String
  decisionInstant : Int
  quotePairId : String
  clockSkewMs : Int
  gateChecks : List GateCheckResult
  computedSize : Option CandidateSizeResult
  computedEdge : Option ExecutableEdgeResult
  depthPassed : Bool
  reservation : Option ReservationPlan
  reservationPassed : Bool
  reasonCode : ReasonCode

structure OrderIntentPlan where
  market : String
  buyExchange : String
  sellExchange : String
  sidePair : String
  targetQty : ℚ
  expectedProfit : ℚ
  expectedProfitRatio : ℚ
  decisionContext : DecisionContext

structure ArbitrageDecision where
  accepted : Bool
  reasonCode : ReasonCode
  gateChecks : List GateCheckResult
  candidateSize : Option CandidateSizeResult
  executableEdge : Option ExecutableEdgeResult
  reservationPlan : Option ReservationPlan
  orderIntentPlan : Option OrderIntentPlan
  decisionContext : DecisionContext

end TradingPlatform.Strategy

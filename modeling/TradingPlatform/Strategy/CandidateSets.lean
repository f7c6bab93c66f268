import Mathlib.Data.List.MinMax
import Mathlib.Data.Prod.Lex
import TradingPlatform.Strategy.Decisions
import TradingPlatform.Strategy.InputLoader

/-! # Choosing an exchange pair

Every ordered pair of candidate exchanges is evaluated on its own. The best
accepted pair is selected, the best pair of all where none is accepted; among
equals the first one counts.
-/

namespace TradingPlatform.Strategy

section Pairs

def pairInputs (inputs : ArbitrageCandidateInputs) (buy sell : CandidateExchange) :
    ArbitrageInputs where
  botId := inputs.botId
  strategyRunId := inputs.strategyRunId
  canonicalSymbol := inputs.canonicalSymbol
  market := inputs.market
  baseExchange := buy.name
  hedgeExchange := sell.name
  baseOrderbook := buy.orderbook
  hedgeOrderbook := sell.orderbook
  baseBalance := buy.balance
  hedgeBalance := sell.balance
  riskConfig := inputs.riskConfig
  runtimeState := inputs.runtimeState

/-- The inputs of every ordered pair of two exchanges. -/
def allPairInputs (inputs : ArbitrageCandidateInputs) : List ArbitrageInputs :=
  inputs.candidates.flatMap fun buy =>
    (inputs.candidates.filter (·.name ≠ buy.name)).map (pairInputs inputs buy)

def maxOrderbookAgeMs (inputs : ArbitrageInputs) : Int :=
  max (ageMs inputs.runtimeState.now inputs.baseOrderbook.observedAt)
    (ageMs inputs.runtimeState.now inputs.hedgeOrderbook.observedAt)

/-- Evaluated pairs are compared by profit, by profit in basis points, and then by
how old their books are and how far apart. -/
abbrev PairRank := ℚ ×ₗ ℚ ×ₗ ℤ ×ₗ ℤ

instance (priority := high) instLinearOrderPairRank : LinearOrder PairRank :=
  let ages := @Prod.Lex.instLinearOrder ℤ ℤ Int.instLinearOrder Int.instLinearOrder
  let profits := @Prod.Lex.instLinearOrder ℚ (ℤ ×ₗ ℤ) Rat.linearOrder ages
  @Prod.Lex.instLinearOrder ℚ (ℚ ×ₗ ℤ ×ₗ ℤ) Rat.linearOrder profits

instance (priority := high) instPreorderPairRank : Preorder PairRank :=
  instLinearOrderPairRank.toPreorder

instance (priority := high) instDecidableLTPairRank : DecidableLT PairRank :=
  instLinearOrderPairRank.toDecidableLT

def pairRank (entry : ArbitrageInputs × ArbitrageDecision) : PairRank :=
  let edge (part : ExecutableEdgeResult → ℚ) : ℚ :=
    (entry.2.executableEdge.map part).getD (-1000000000000000000)
  toLex (edge (·.executableProfitQuote), toLex (edge (·.executableProfitBps),
    toLex (-maxOrderbookAgeMs entry.1, -entry.2.decisionContext.clockSkewMs)))

end Pairs

section Selection

variable (print : ℚ → Numeral)

def candidateSummary (entry : ArbitrageInputs × ArbitrageDecision) (selectionStatus : String) :
    Dict :=
  let edge (part : ExecutableEdgeResult → ℚ) : Json := printedOf print entry.2.executableEdge part
  [("market", .str entry.1.market), ("buy_exchange", .str entry.1.baseExchange),
    ("sell_exchange", .str entry.1.hedgeExchange),
    ("quote_pair_id", .str entry.2.decisionContext.quotePairId),
    ("accepted", .bool entry.2.accepted), ("selection_status", .str selectionStatus),
    ("reason_code", .str entry.2.reasonCode.text),
    ("executable_profit_quote", edge (·.executableProfitQuote)),
    ("executable_profit_bps", edge (·.executableProfitBps)),
    ("max_orderbook_age_ms", .int (maxOrderbookAgeMs entry.1)),
    ("clock_skew_ms", .int entry.2.decisionContext.clockSkewMs)]

/-- How a pair came out of the selection. -/
def selectionStatus (selected : ArbitrageInputs × ArbitrageDecision) (hasSelectedPair : Bool)
    (entry : ArbitrageInputs × ArbitrageDecision) : String :=
  if entry.2.decisionContext.quotePairId = selected.2.decisionContext.quotePairId ∧
      entry.1 = selected.1 then
    if hasSelectedPair then "selected" else "top_rejected"
  else if entry.2.accepted then "accepted_unselected"
  else "rejected"

/-- The context of the selected decision with what the selection was made from. -/
def selectionContext (context : Dict) (candidateExchanges : List String)
    (selected : ArbitrageInputs × ArbitrageDecision) (hasSelectedPair : Bool)
    (evaluated : List (ArbitrageInputs × ArbitrageDecision)) : Dict :=
  let summaries := evaluated.map fun entry =>
    candidateSummary print entry (selectionStatus selected hasSelectedPair entry)
  let withStatus (status : String) : List Dict :=
    summaries.filter fun summary => (summary.get "selection_status").textOrEmpty = status
  let last (status : String) : Json := ((withStatus status).getLast?.map Json.obj).getD .null
  let exchanges : Json := .arr (candidateExchanges.map Json.str)
  context.merge [
    ("candidate_exchanges", exchanges), ("selected_pair", last "selected"),
    ("selection", .obj [
      ("candidate_exchanges", exchanges), ("selected_pair", last "selected"),
      ("top_rejected_candidate", last "top_rejected"),
      ("evaluated_pairs", .arr (summaries.map Json.obj)),
      ("rejected_candidates", .arr ((summaries.filter fun summary =>
        (summary.get "selection_status").textOrEmpty ∈
          ["accepted_unselected", "rejected", "top_rejected"]).map Json.obj)),
      ("accepted_candidate_count", .int (evaluated.filter (·.2.accepted)).length)])]

end Selection

/-- Evaluate every pair and select one. -/
def evaluateArbitrageCandidateSet (ctx : DecimalContext) (print : ℚ → Numeral)
    (inputs : ArbitrageCandidateInputs) : Except String ReportedDecision :=
  if inputs.candidates.length < 2 then
    .error "candidate_exchanges must include at least two exchanges"
  else
    let evaluated := (allPairInputs inputs).map fun pair => (pair, evaluateArbitrage ctx pair)
    let accepted := evaluated.filter (·.2.accepted)
    match (if accepted.isEmpty then evaluated else accepted).argmax pairRank with
    | none => .error "max() arg is an empty sequence"
    | some selected =>
        let reported := reportDecision print selected.2
        .ok (reported.withContext (selectionContext print reported.context
          (inputs.candidates.map (·.name)) selected (!accepted.isEmpty) evaluated))

end TradingPlatform.Strategy

import TradingPlatform.Foundation.Request

/-! # Rows of the control plane store

The rows that orders, fills and their intents are kept in. Quantities and
prices are numeral texts; identifiers, statuses and instants are texts.
-/

namespace TradingPlatform.Storage

structure StrategyRun where
  runId : String
  botId : String
  strategyName : String
  mode : String
  status : String
  createdAt : String
  startedAt : Option String
  stoppedAt : Option String
  decisionCount : Nat

structure OrderIntent where
  intentId : String
  botId : String
  strategyRunId : String
  market : String
  buyExchange : String
  sellExchange : String
  sidePair : String
  targetQty : Numeral
  expectedProfit : Option Numeral
  expectedProfitRatio : Option Numeral
  status : String
  createdAt : String
  decisionContext : Dict

structure Order where
  orderId : String
  orderIntentId : String
  botId : String
  strategyRunId : String
  exchangeName : String
  exchangeOrderId : Option String
  market : String
  side : String
  requestedPrice : Option Numeral
  requestedQty : Numeral
  status : String
  createdAt : String
  submittedAt : String
  updatedAt : String
  rawPayload : Dict

structure Fill where
  fillId : String
  orderId : String
  orderIntentId : String
  botId : String
  strategyRunId : String
  exchangeName : String
  exchangeTradeId : Option String
  market : String
  side : String
  fillPrice : Numeral
  fillQty : Numeral
  feeAsset : Option String
  feeAmount : Option Numeral
  orderStatus : String
  filledAt : String
  createdAt : String

/-- What a call of the store answers besides a row. -/
inductive StoreOutcome where
  | created
  | updated
  | started
  | stopped
  | notFound
  | invalid
  | conflict
deriving DecidableEq, Repr

def StoreOutcome.text : StoreOutcome → String
  | .created => "created"
  | .updated => "updated"
  | .started => "started"
  | .stopped => "stopped"
  | .notFound => "not_found"
  | .invalid => "invalid"
  | .conflict => "conflict"

structure StoreAnswer (Row : Type) where
  outcome : StoreOutcome
  row : Option Row

/-- The row of an answer that reports a new row. -/
def StoreAnswer.createdRow {Row : Type} (answer : StoreAnswer Row) : Option Row :=
  if answer.outcome = .created then answer.row else none

/-- Arguments of the call that creates an order intent. -/
structure NewOrderIntent where
  strategyRunId : String
  market : String
  buyExchange : String
  sellExchange : String
  sidePair : String
  targetQty : Numeral
  expectedProfit : Option Numeral
  expectedProfitRatio : Option Numeral
  status : String
  decisionContext : Dict

/-- Arguments of the call that creates an order. -/
structure NewOrder where
  orderIntentId : String
  exchangeName : String
  exchangeOrderId : Option String
  market : String
  side : String
  requestedPrice : Option Numeral
  requestedQty : Numeral
  status : String
  rawPayload : Dict

/-- Arguments of the call that creates a fill. -/
structure NewFill where
  orderId : String
  exchangeTradeId : Option String
  fillPrice : Numeral
  fillQty : Numeral
  feeAsset : Option String
  feeAmount : Option Numeral
  filledAt : String

/-- The order and the exchange's trade identifier of a fill that has one. -/
def Fill.tradeKey (fill : Fill) : Option (String × String) :=
  fill.exchangeTradeId.map (fill.orderId, ·)

def NewFill.tradeKey (new : NewFill) : Option (String × String) :=
  new.exchangeTradeId.map (new.orderId, ·)

/-- The calls of a store that placing orders rests on. -/
structure StoreProtocol (σ : Type) where
  createOrder : NewOrder → σ → StoreAnswer Order × σ
  createFill : NewFill → σ → StoreAnswer Fill × σ
  /-- The orders of an exchange. -/
  listOrders : σ → String → List Order
  /-- The fills of an order. -/
  listFills : σ → String → List Fill
  getOrderDetail : σ → String → Option Order

end TradingPlatform.Storage

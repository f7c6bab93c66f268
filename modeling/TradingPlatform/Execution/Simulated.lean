import TradingPlatform.Execution.SubmitResult

/-! # The simulated submit adapter

Places one order on each leg and, when asked to fill, fills both at the edge's
average prices. Tokens stand for the random parts of simulated identifiers.
-/

namespace TradingPlatform.Execution

open Storage

variable {σ : Type} (P : StoreProtocol σ) (token : Nat → String) (filledAt : Nat → String)

def simulatedOrder (intent : OrderIntent) (leg : Nat × String × String) : NewOrder :=
  let (draw, side, exchangeName) := leg
  { orderIntentId := intent.intentId
    exchangeName := exchangeName
    exchangeOrderId := some ("sim-" ++ side ++ "-" ++ token draw)
    market := intent.market
    side := side
    requestedPrice := none
    requestedQty := intent.targetQty
    status := "new"
    rawPayload :=
      [("submission_mode", .str "simulated"), ("side", .str side),
        ("intent_id", .str intent.intentId)] }

def simulatedFill (item : Nat × Order × Numeral) : NewFill :=
  let (index, order, fillPrice) := item
  { orderId := order.orderId
    exchangeTradeId := some ("sim-fill-" ++ toString index ++ "-" ++ token (index + 1))
    fillPrice := fillPrice
    fillQty := order.requestedQty
    feeAsset := none
    feeAmount := some zeroNumeral
    filledAt := filledAt index }

/-- The two legs of an intent in the order they are placed, numbered. -/
def simulatedLegs (intent : OrderIntent) : List (Nat × String × String) :=
  [(0, "buy", intent.buyExchange), (1, "sell", intent.sellExchange)]

def createSimulatedOrders (intent : OrderIntent) (s : σ) :
    Creation (Nat × String × String) Order σ :=
  createRows (fun leg => P.createOrder (simulatedOrder token intent leg)) (simulatedLegs intent) s

/-- The two orders with the prices they are filled at, numbered from one. -/
def simulatedFillSpecs (edge : EdgePrices) (orders : List Order) : List (Nat × Order × Numeral) :=
  List.zip [1, 2] (List.zip orders [edge.buyVwap, edge.sellVwap])

def createSimulatedFills (edge : EdgePrices) (orders : List Order) (s : σ) :
    Creation (Nat × Order × Numeral) Fill σ :=
  createRows (fun item => P.createFill (simulatedFill token filledAt item))
    (simulatedFillSpecs edge orders) s

/-- An identifier is looked up unless it is empty. -/
def simulatedOrderId (id : String) : Option String := if id = "" then none else some id

def submitArbitrageOrders (decision : SubmitDecision) (intent : OrderIntent)
    (executionMode : String) (autoUnwindOnFailure : Bool) (s : σ) : ArbitrageSubmitResult × σ :=
  let normalizedMode := Text.lower (Text.strip executionMode)
  let shownMode := if normalizedMode = "" then "simulate_success" else normalizedMode
  if normalizedMode = "simulate_failure" then
    (submitFailureResult autoUnwindOnFailure
      [("mode", .str normalizedMode), ("failed_leg", .str "pre_submit"),
        ("reason", .str "simulated submit failure")] [] [], s)
  else
    let placed := createSimulatedOrders P token intent s
    let createdOrders := placed.rows.map Prod.snd
    match placed.refusal with
    | some ((_, side, _), outcome) =>
        (submitFailureResult autoUnwindOnFailure
          [("mode", .str shownMode), ("failed_leg", .str side),
            ("store_outcome", .str outcome.text)] createdOrders [], placed.store)
    | none =>
      if normalizedMode = "simulate_fill" then
        match decision.executableEdge with
        | none =>
            (submitFailureResult autoUnwindOnFailure
              [("mode", .str normalizedMode), ("reason", .str "missing executable edge")]
              createdOrders [], placed.store)
        | some edge =>
            let filled := createSimulatedFills P token filledAt edge createdOrders placed.store
            match filled.refusal with
            | some ((_, order, _), outcome) =>
                -- The fills made before the refusal are not reported.
                (submitFailureResult autoUnwindOnFailure
                  [("mode", .str normalizedMode), ("failed_leg", .str order.side),
                    ("fill_outcome", .str outcome.text)] createdOrders [], filled.store)
            | none =>
                ({ outcome := .filled
                   lifecyclePreview := "hedge_balanced"
                   recoveryRequired := false
                   unwindInProgress := false
                   createdOrders := refreshOrders P simulatedOrderId filled.store createdOrders
                   createdFills := filled.rows.map Prod.snd
                   details := [("mode", .str normalizedMode),
                     ("filled_leg_count", .int filled.rows.length)] }, filled.store)
      else
        ({ outcome := .submitted
           lifecyclePreview := "entry_submitting"
           recoveryRequired := false
           unwindInProgress := false
           createdOrders := createdOrders
           details := [("mode", .str shownMode),
             ("submitted_leg_count", .int createdOrders.length)] }, placed.store)

end TradingPlatform.Execution

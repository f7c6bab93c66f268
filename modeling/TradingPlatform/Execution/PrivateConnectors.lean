import TradingPlatform.Exchange.Connectors
import TradingPlatform.Execution.PrivateHttp

/-! # The private_connectors submit adapter

Places the buy leg and then the sell leg at their exchanges. A leg is persisted
before the next one is placed; the run also lists the calls it made.
-/

namespace TradingPlatform.Execution

open Storage Exchange

/-- A leg to place: side, exchange and limit price. -/
structure ConnectorLeg where
  side : String
  exchangeName : String
  requestedPrice : Numeral

def connectorLegs (intent : OrderIntent) (edge : EdgePrices) : List ConnectorLeg :=
  [⟨"buy", Text.strip intent.buyExchange, edge.buyVwap⟩,
    ⟨"sell", Text.strip intent.sellExchange, edge.sellVwap⟩]

def requestPayload (intent : OrderIntent) (leg : ConnectorLeg) : Dict :=
  let exchangeName :=
    Text.strip (if leg.side = "buy" then intent.buyExchange else intent.sellExchange)
  let parts := [Text.strip intent.intentId, leg.side, exchangeName].filter (· ≠ "")
  let clientOrderId := Text.join ":" parts
  [("market", .str intent.market), ("side", .str leg.side), ("order_type", .str "limit"),
    ("price", .str leg.requestedPrice.text), ("qty", .str intent.targetQty.text)] ++
    (if clientOrderId = "" then [] else [("client_order_id", .str clientOrderId)])

/-- The order item a result is persisted through. Only a live order with an
exchange identifier has one. -/
def orderItemFromResponse (response : PrivateExchangeResult) (intent : OrderIntent)
    (leg : ConnectorLeg) (connectorName : String) : Except String Dict :=
  if response.outcome ≠ "ok" then
    let code := match response.errorCode with
      | some code => if code = "" then response.outcome else code
      | none => response.outcome
    .error (leg.exchangeName ++ " place_order failed: " ++ (nonBlank code).getD "unknown" ++ ": " ++
      (response.reason.bind nonBlank).getD "private connector request failed")
  else
    match response.data with
    | .obj payload =>
        let status := payloadStatus payload
        if status ∈ terminalStatuses then
          .error (leg.exchangeName ++ " place_order returned terminal order status: " ++ status)
        else
          match jsonText (Dict.get payload "exchange_order_id") with
          | none => .error (leg.exchangeName ++ " place_order returned missing exchange_order_id")
          | some exchangeOrderId =>
              let requestedQty := (jsonText (Dict.get payload "requested_qty")).getD
                intent.targetQty.text
              let requestedPrice :=
                (jsonText (Dict.get payload "requested_price")).getD leg.requestedPrice.text
              .ok [
                ("exchange_name", .str leg.exchangeName),
                ("side", .str leg.side),
                ("market", .str intent.market),
                ("requested_qty", .str requestedQty),
                ("requested_price", .str requestedPrice),
                ("exchange_order_id", .str exchangeOrderId),
                ("status", .str status),
                ("raw_payload", .obj [
                  ("connector_name", .str connectorName),
                  ("connector_outcome", .str response.outcome),
                  ("connector_order", .obj payload)])]
    | _ => .error (leg.exchangeName ++ " place_order returned invalid payload")

def connectorDetails (response : PrivateExchangeResult) (leg : ConnectorLeg)
    (connectorName : String) : Dict :=
  let text (value : Option String) : Json := (value.map Json.str).getD .null
  [("failed_leg", .str leg.side), ("exchange_name", .str leg.exchangeName),
    ("connector_name", .str connectorName), ("connector_outcome", .str response.outcome),
    ("connector_error_code", text response.errorCode), ("connector_reason", text response.reason),
    ("connector_retryable", (response.retryable.map Json.bool).getD .null),
    ("connector_http_status", (response.httpStatus.map Json.int).getD .null)]

/-- Reading the quantity and the price of an item raises. -/
def itemOverflows (ctx : DecimalContext) (item : Dict) : Bool :=
  jsonNumberOverflows ctx (item.get "requested_qty") ||
    jsonNumberOverflows ctx (item.get "requested_price")

/-- How placing the legs ends: all are placed, the submit fails, or something raised. -/
inductive LegsOutcome where
  | placed (orders : List Order)
  | failed (result : ArbitrageSubmitResult)
  | raised (text : String)

structure LegsRun (σ : Type) where
  outcome : LegsOutcome
  calls : List PlaceOrderCall
  store : σ

/-- A submit that returns a result or lets an exception through. -/
structure ConnectorsSubmit (σ : Type) where
  result : Except String ArbitrageSubmitResult
  calls : List PlaceOrderCall
  store : σ

section Submit

variable {σ : Type} (P : StoreProtocol σ) (ctx : DecimalContext)
  (connectors : List (String × PrivateExchangeConnector))

def submitLegs (intent : OrderIntent) (auto : Bool) :
    List ConnectorLeg → List Order → σ → LegsRun σ
  | [], created, s => ⟨.placed created, [], s⟩
  | leg :: rest, created, s =>
      let fail (reason : String) (details : Dict) :=
        LegsOutcome.failed (failureResult auto "private_connectors" reason details created [])
      match connectors.lookup leg.exchangeName with
      | none =>
          let shown := if leg.exchangeName = "" then leg.side else leg.exchangeName
          ⟨fail ("private connector not configured for: " ++ shown)
            [("failed_leg", .str leg.side), ("exchange_name", .str leg.exchangeName)], [], s⟩
      | some connector =>
        let call := connector.placeOrder (requestPayload intent leg)
        match call.answer with
        | .error text => ⟨.raised text, [call], s⟩
        | .ok response =>
          let details := connectorDetails response leg connector.name
          match orderItemFromResponse response intent leg connector.name with
          | .error message => ⟨fail message details, [call], s⟩
          | .ok item =>
            -- both numbers of the item are read before anything is checked
            if itemOverflows ctx item then ⟨.raised decimalOverflow, [call], s⟩ else
            let placed := createOrdersFromResponse P ctx intent (.arr [.obj item]) false
              "private_connectors" s
            match placed.error with
            | some message =>
                ⟨fail message (details ++ [("order_payload", .obj item)]), [call], placed.store⟩
            | none =>
              let run := submitLegs intent auto rest (created ++ placed.createdOrders) placed.store
              { run with calls := call :: run.calls }

def submitPrivateConnectors (decision : SubmitDecision) (intent : OrderIntent) (auto : Bool)
    (s : σ) : ConnectorsSubmit σ :=
  match decision.executableEdge with
  | none =>
      ⟨.ok (failureResult auto "private_connectors"
        "private connector execution requires executable edge"
        [("reason", .str "missing executable edge")] [] []), [], s⟩
  | some edge =>
    let run := submitLegs P ctx connectors intent auto (connectorLegs intent edge) [] s
    match run.outcome with
    | .raised text => ⟨.error text, run.calls, run.store⟩
    | .failed result => ⟨.ok result, run.calls, run.store⟩
    | .placed created =>
      let orders := refreshOrders P readOrderId run.store created
      let count : Dict := [("submitted_leg_count", .int orders.length)]
      match validateSubmittedOrderStates orders [] with
      | some message =>
          ⟨.ok (failureResult auto "private_connectors" message count orders []), run.calls,
            run.store⟩
      | none =>
          ⟨.ok
            { outcome := .submitted
              lifecyclePreview := "entry_submitting"
              recoveryRequired := false
              unwindInProgress := false
              createdOrders := orders
              details := ("mode", .str "private_connectors") :: count }, run.calls, run.store⟩

end Submit

end TradingPlatform.Execution

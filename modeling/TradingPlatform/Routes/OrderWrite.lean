import TradingPlatform.Execution.Reporting
import TradingPlatform.Recovery.Handoff
import TradingPlatform.Storage.StatusAgreement

/-! # Order routes

The requests that create order intents, orders and fills: what their bodies must
hold, what is asked of the store, and how its answer is reported.
-/

namespace TradingPlatform.Routes

open Storage Recovery

/-- An answer that reports an error. -/
structure RouteError where
  status : Nat
  code : String
  message : String
deriving DecidableEq, Repr

/-- The store after a request, and what is answered. -/
structure RouteAnswer (Row : Type) where
  answer : Except RouteError Row
  store : MemoryStore

def orderIntentStatuses : List String :=
  ["created", "submitted", "cancelled", "expired", "rejected", "simulated"]

def orderStatuses : List String :=
  ["new", "partially_filled", "filled", "cancelled", "rejected", "expired"]

def orderSides : List String := ["buy", "sell"]

section Bodies

def badRequest (message : String) : RouteError := ⟨400, "INVALID_REQUEST", message⟩

def jsonString : Json → Option String
  | .str s => some s
  | _ => none

def optionalObject : Json → Option Dict
  | .obj fields => some fields
  | _ => none

/-- A field that is there but not read. -/
def unread {α : Type} (body : Dict) (key : String) (value : Option α) : List String :=
  if body.has key && value.isNone then [key] else []

/-- A text field, with a default for one that is missing or empty. -/
def textOr (value : Option String) (default : String) : String :=
  match value with
  | none | some "" => default
  | some text => text

/-- Stop with an error. -/
def check (ok : Bool) (message : String) : Except RouteError Unit :=
  if ok then .ok () else .error (badRequest message)

def checkInvalid (fields : List String) : Except RouteError Unit :=
  check fields.isEmpty ("invalid fields: " ++ Text.join ", " (sortedTexts fields))

/-- The required fields that are missing or empty, in their order. -/
def checkMissing (required : List (String × Option String)) : Except RouteError Unit :=
  let missing := (required.filter fun field => textOr field.2 "" = "").map Prod.fst
  check missing.isEmpty ("missing required fields: " ++ Text.join ", " missing)

/-- A required value once the missing fields are reported. -/
def present {α : Type} (key : String) : Option α → Except RouteError α
  | some a => .ok a
  | none => .error (badRequest ("missing required fields: " ++ key))

section

variable {α β : Type} {next : Unit → Except RouteError β} {result : β}

theorem check_bind_eq_ok {ok : Bool} {message : String} :
    (check ok message >>= next) = .ok result ↔ ok = true ∧ next () = .ok result := by
  cases ok <;> simp [check, bind, Except.bind]

theorem checkInvalid_bind_eq_ok {fields : List String} :
    (checkInvalid fields >>= next) = .ok result ↔ fields = [] ∧ next () = .ok result := by
  simp only [checkInvalid, check_bind_eq_ok, List.isEmpty_iff]

theorem present_bind_eq_ok {key : String} {value : Option α} {next : α → Except RouteError β} :
    (present key value >>= next) = .ok result ↔ ∃ a, value = some a ∧ next a = .ok result := by
  cases value <;> simp [present, bind, Except.bind]

end

end Bodies

section Requests

variable (ctx : DecimalContext) (body : Dict)

def orderIntentRequest : Except RouteError NewOrderIntent := do
  let strategyRunId := jsonString (body.get "strategy_run_id")
  let market := jsonString (body.get "market")
  let buyExchange := jsonString (body.get "buy_exchange")
  let sellExchange := jsonString (body.get "sell_exchange")
  let sidePair := jsonString (body.get "side_pair")
  let targetQty := jsonNumberText ctx (body.get "target_qty")
  let expectedProfit := jsonNumberText ctx (body.get "expected_profit")
  let expectedProfitRatio := jsonNumberText ctx (body.get "expected_profit_ratio")
  let decisionContext := optionalObject (body.get "decision_context")
  let status := textOr (jsonString (body.get "status")) "created"
  checkInvalid <| unread body "strategy_run_id" strategyRunId ++ unread body "market" market ++
    unread body "buy_exchange" buyExchange ++ unread body "sell_exchange" sellExchange ++
    unread body "side_pair" sidePair ++ unread body "target_qty" targetQty ++
    unread body "expected_profit" expectedProfit ++
    unread body "expected_profit_ratio" expectedProfitRatio ++
    unread body "decision_context" decisionContext ++
    if body.has "status" && status ∉ orderIntentStatuses then ["status"] else []
  checkMissing [("strategy_run_id", strategyRunId), ("market", market),
    ("buy_exchange", buyExchange), ("sell_exchange", sellExchange), ("side_pair", sidePair),
    ("target_qty", targetQty.map Numeral.text)]
  let targetQty ← present "target_qty" targetQty
  check (isPositiveNumberText targetQty) "target_qty must be a positive number"
  return {
    strategyRunId := strategyRunId.getD ""
    market := market.getD ""
    buyExchange := buyExchange.getD ""
    sellExchange := sellExchange.getD ""
    sidePair := sidePair.getD ""
    targetQty := targetQty
    expectedProfit := expectedProfit
    expectedProfitRatio := expectedProfitRatio
    status := status
    decisionContext := decisionContext.getD [] }

/-- The terms of an order in a body: those of a new order and those of an unwind order,
which names no intent. -/
def orderTerms (required : List (String × Option String)) (orderIntentId : String) :
    Except RouteError NewOrder := do
  let exchangeName := jsonString (body.get "exchange_name")
  let market := jsonString (body.get "market")
  let side := jsonString (body.get "side")
  let requestedQty := jsonNumberText ctx (body.get "requested_qty")
  let exchangeOrderId := jsonString (body.get "exchange_order_id")
  let requestedPrice := jsonNumberText ctx (body.get "requested_price")
  let rawPayload := optionalObject (body.get "raw_payload")
  let status := textOr (jsonString (body.get "status")) "new"
  checkInvalid <| required.flatMap (fun field => unread body field.1 field.2) ++
    unread body "exchange_name" exchangeName ++ unread body "market" market ++
    unread body "side" side ++ unread body "requested_qty" requestedQty ++
    unread body "exchange_order_id" exchangeOrderId ++
    unread body "requested_price" requestedPrice ++ unread body "raw_payload" rawPayload ++
    (if body.has "status" && status ∉ orderStatuses then ["status"] else []) ++
    if side.any (· ∉ orderSides) then ["side"] else []
  checkMissing (required ++ [("exchange_name", exchangeName), ("market", market), ("side", side),
    ("requested_qty", requestedQty.map Numeral.text)])
  let requestedQty ← present "requested_qty" requestedQty
  check (isPositiveNumberText requestedQty) "requested_qty must be a positive number"
  check (requestedPrice.all isPositiveNumberText) "requested_price must be a positive number"
  return {
    orderIntentId := orderIntentId
    exchangeName := exchangeName.getD ""
    exchangeOrderId := exchangeOrderId
    market := market.getD ""
    side := side.getD ""
    requestedPrice := requestedPrice
    requestedQty := requestedQty
    status := status
    rawPayload := rawPayload.getD [] }

def orderRequest : Except RouteError NewOrder :=
  let orderIntentId := jsonString (body.get "order_intent_id")
  orderTerms ctx body [("order_intent_id", orderIntentId)] (orderIntentId.getD "")

/-- The terms of a fill in a body: those of a new fill and those of a fill of an unwind
order, which names no order but must name a trade. -/
def fillTerms (required optional : List (String × Option String)) (orderId : String) :
    Except RouteError NewFill := do
  let fillPrice := jsonNumberText ctx (body.get "fill_price")
  let fillQty := jsonNumberText ctx (body.get "fill_qty")
  let filledAt := jsonDatetimeText (body.get "filled_at")
  let feeAsset := jsonString (body.get "fee_asset")
  let feeAmount := jsonNumberText ctx (body.get "fee_amount")
  checkInvalid <| required.flatMap (fun field => unread body field.1 field.2) ++
    unread body "fill_price" fillPrice ++ unread body "fill_qty" fillQty ++
    unread body "filled_at" filledAt ++
    optional.flatMap (fun field => unread body field.1 field.2) ++
    unread body "fee_asset" feeAsset ++ unread body "fee_amount" feeAmount
  checkMissing (required ++ [("fill_price", fillPrice.map Numeral.text),
    ("fill_qty", fillQty.map Numeral.text), ("filled_at", filledAt)])
  let fillPrice ← present "fill_price" fillPrice
  let fillQty ← present "fill_qty" fillQty
  check (isPositiveNumberText fillPrice) "fill_price must be a positive number"
  check (isPositiveNumberText fillQty) "fill_qty must be a positive number"
  check (feeAmount.all isNonnegativeNumberText) "fee_amount must be a non-negative number"
  return {
    orderId := orderId
    exchangeTradeId := jsonString (body.get "exchange_trade_id")
    fillPrice := fillPrice
    fillQty := fillQty
    feeAsset := feeAsset
    feeAmount := feeAmount
    filledAt := filledAt.getD "" }

def fillRequest : Except RouteError NewFill :=
  let orderId := jsonString (body.get "order_id")
  let exchangeTradeId := jsonString (body.get "exchange_trade_id")
  fillTerms ctx body [("order_id", orderId)] [("exchange_trade_id", exchangeTradeId)]
    (orderId.getD "")

end Requests

section Responses

variable (p : Platform) (ctx : DecimalContext) (body : Dict) (s : MemoryStore)

/-- Ask the store for what a body requests and report its answer. -/
def respond {New Row : Type} (request : Except RouteError New)
    (call : New → MemoryStore → StoreAnswer Row × MemoryStore)
    (refusal : StoreOutcome → RouteError) :
    RouteAnswer Row :=
  match request with
  | .error error => ⟨.error error, s⟩
  | .ok new =>
      match (call new s).1.createdRow with
      | some row => ⟨.ok row, (call new s).2⟩
      | none => ⟨.error (refusal (call new s).1.outcome), (call new s).2⟩

def createOrderIntentResponse : RouteAnswer OrderIntent :=
  respond s (orderIntentRequest ctx body) (MemoryStore.createOrderIntent p)
    fun _ => ⟨404, "STRATEGY_RUN_NOT_FOUND", "strategy_run_id not found"⟩

def orderRefusal : StoreOutcome → RouteError
  | .conflict => ⟨409, "ORDER_CONFLICT", "exchange_name and exchange_order_id already exist"⟩
  | .invalid => ⟨422, "ORDER_VALIDATION_FAILED",
      "market or exchange_name does not match order_intent"⟩
  | _ => ⟨404, "ORDER_INTENT_NOT_FOUND", "order_intent_id not found"⟩

def createOrderResponse : RouteAnswer Order :=
  respond s (orderRequest ctx body) (MemoryStore.createOrder p) orderRefusal

def fillRefusal : StoreOutcome → RouteError
  | .conflict => ⟨409, "FILL_CONFLICT", "exchange_trade_id already exists for order"⟩
  | .invalid => ⟨422, "FILL_VALIDATION_FAILED",
      "fill exceeds requested quantity or order is already terminal"⟩
  | _ => ⟨404, "ORDER_NOT_FOUND", "order_id not found"⟩

def createFillResponse : RouteAnswer Fill :=
  respond s (fillRequest ctx body) (MemoryStore.createFill p ctx) fillRefusal

end Responses

section Calls

variable {p : Platform} {ctx : DecimalContext} {body : Dict} {s : MemoryStore}

/-- An order that is asked for has a positive quantity. -/
theorem orderTerms_positive {required : List (String × Option String)} {orderIntentId : String}
    {new : NewOrder} (hrequest : orderTerms ctx body required orderIntentId = .ok new) :
    0 < new.requestedQty.value := by
  simp only [orderTerms, checkInvalid_bind_eq_ok, checkMissing, check_bind_eq_ok,
    present_bind_eq_ok] at hrequest
  obtain ⟨-, -, qty, -, hpositive, -, hnew⟩ := hrequest
  obtain rfl := Except.ok.inj hnew
  exact of_decide_eq_true hpositive

theorem fillRequest_positive {new : NewFill} (hrequest : fillRequest ctx body = .ok new) :
    0 < new.fillQty.value := by
  simp only [fillRequest, fillTerms, checkInvalid_bind_eq_ok, checkMissing, check_bind_eq_ok,
    present_bind_eq_ok] at hrequest
  obtain ⟨-, -, price, -, qty, -, -, hpositive, -, hnew⟩ := hrequest
  obtain rfl := Except.ok.inj hnew
  exact of_decide_eq_true hpositive

theorem orderIntentRequest_positive {new : NewOrderIntent}
    (hrequest : orderIntentRequest ctx body = .ok new) : 0 < new.targetQty.value := by
  simp only [orderIntentRequest, checkInvalid_bind_eq_ok, checkMissing, check_bind_eq_ok,
    present_bind_eq_ok] at hrequest
  obtain ⟨-, -, qty, -, hpositive, hnew⟩ := hrequest
  obtain rfl := Except.ok.inj hnew
  exact of_decide_eq_true hpositive

/-- A request leaves the store as it was, or as one call it makes leaves it. -/
theorem respond_store {New Row : Type} (request : Except RouteError New)
    (call : New → MemoryStore → StoreAnswer Row × MemoryStore)
    (refusal : StoreOutcome → RouteError) :
    (respond s request call refusal).store = s ∨
      ∃ new, request = .ok new ∧ (respond s request call refusal).store = (call new s).2 := by
  unfold respond
  split
  · exact Or.inl rfl
  next new => exact Or.inr ⟨new, rfl, by split <;> rfl⟩

/-- The order routes do nothing but calls that are available to them. -/
theorem orderRoutes_available (p : Platform) (ctx : DecimalContext) (body : Dict)
    (s : MemoryStore) :
    ∀ after ∈ [(createOrderIntentResponse p ctx body s).store,
        (createOrderResponse p ctx body s).store, (createFillResponse p ctx body s).store],
      after = s ∨ ∃ call : AvailableCall, after = call.val.apply p ctx s := by
  intro after hafter
  simp only [List.mem_cons, List.not_mem_nil, or_false] at hafter
  rcases hafter with rfl | rfl | rfl
  · refine (respond_store _ _ _).imp_right ?_
    rintro ⟨new, hrequest, hstore⟩
    exact ⟨⟨.createOrderIntent new, orderIntentRequest_positive hrequest⟩, hstore⟩
  · refine (respond_store _ _ _).imp_right ?_
    rintro ⟨new, hrequest, hstore⟩
    exact ⟨⟨.createOrder new, orderTerms_positive hrequest⟩, hstore⟩
  · refine (respond_store _ _ _).imp_right ?_
    rintro ⟨new, hrequest, hstore⟩
    exact ⟨⟨.createFill new, fillRequest_positive hrequest⟩, hstore⟩

end Calls

section FilledOrder

/-- A request for an order that is said to be filled. -/
def filledOrderBody : Dict :=
  [("order_intent_id", .str (Platform.counting.uuid 1)), ("exchange_name", .str "upbit"),
    ("market", .str "XRP-KRW"), ("side", .str "buy"), ("requested_qty", .str "1"),
    ("status", .str "filled")]

/-- The order route takes it, and the order is filled without a fill. -/
theorem createOrderResponse_filled :
    let s := MemoryStore.withIntent .counting (Execution.oneUnitIntent "upbit" "bithumb")
    MemoryStore.Reachable .counting .default s ∧
      ((createOrderResponse .counting .default filledOrderBody s).answer.map Order.status) =
        .ok "filled" ∧
      ¬StatusesAgree (createOrderResponse .counting .default filledOrderBody s).store := by
  refine ⟨MemoryStore.reachable_withIntent _ _ _, by decide +kernel, fun hagree => ?_⟩
  have hfilled : ∀ order ∈ (createOrderResponse .counting .default filledOrderBody
      (MemoryStore.withIntent .counting (Execution.oneUnitIntent "upbit" "bithumb"))).store.orders,
      order.status = "filled" ↔ (createOrderResponse .counting .default filledOrderBody
        (MemoryStore.withIntent .counting
          (Execution.oneUnitIntent "upbit" "bithumb"))).store.filledQty
          order.orderId = order.requestedQty.value := fun order hmem => (hagree order hmem).filled
  revert hfilled
  decide +kernel

end FilledOrder

end TradingPlatform.Routes

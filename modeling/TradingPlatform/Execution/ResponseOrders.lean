import TradingPlatform.Execution.SubmitResult

/-! # Orders of an execution response

Reading, checking and persisting the orders an executor reports. All items are
checked before the first row is created.
-/

namespace TradingPlatform.Execution

open Storage

/-- Side and exchange of an arbitrage leg. -/
abbrev LegKey := String × String

-- Stated once, so that every membership test of keys decides through the same term.
instance instLawfulBEqPair : LawfulBEq (String × String) := inferInstance

instance instLawfulBEqOptionalId : LawfulBEq (Option String) := inferInstance

def LegKey.text (leg : LegKey) : String := leg.1 ++ ":" ++ leg.2

/-- The two legs of an intent, in sorted order. -/
def expectedLegs (intent : OrderIntent) : List LegKey :=
  [("buy", intent.buyExchange), ("sell", intent.sellExchange)]

def sortedLegs (legs : List LegKey) : List LegKey :=
  legs.dedup.insertionSort fun a b => a.1 < b.1 ∨ a.1 = b.1 ∧ a.2 ≤ b.2

def legTexts (legs : List LegKey) : String := Text.join ", " (legs.map LegKey.text)

def allowedOrderStatuses : List String :=
  ["new", "submitted", "partially_filled", "filled", "cancelled", "rejected", "expired", "failed"]

/-- The statuses adapters treat as terminal. -/
def terminalStatuses : List String := ["filled", "cancelled", "rejected", "expired", "failed"]

/-- Go on when a check passes, else stop with its message. -/
def require {α : Type} (check : Bool) (message : String) (next : Except String α) :
    Except String α :=
  if check then next else .error message

@[simp] theorem require_eq_ok {α : Type} {check : Bool} {message : String}
    {next : Except String α} {a : α} :
    require check message next = .ok a ↔ check = true ∧ next = .ok a := by
  cases check <;> simp [require]

structure OrderItem where
  exchangeName : String
  side : String
  market : String
  requestedQty : Numeral
  requestedPrice : Option Numeral
  exchangeOrderId : Option String
  status : String
  rawPayload : Dict

def OrderItem.leg (item : OrderItem) : LegKey := (item.side, item.exchangeName)

def OrderItem.newOrder (item : OrderItem) (intentId : String) : NewOrder where
  orderIntentId := intentId
  exchangeName := item.exchangeName
  exchangeOrderId := item.exchangeOrderId
  market := item.market
  side := item.side
  requestedPrice := item.requestedPrice
  requestedQty := item.requestedQty
  status := item.status
  rawPayload := item.rawPayload

section Reading

variable (ctx : DecimalContext)

def itemSide (item : Dict) : String := Text.lower ((jsonText (item.get "side")).getD "")

def itemStatus (item : Dict) : String :=
  Text.lower ((jsonText (item.get "status")).getD "submitted")

def itemRawPayload (item : Dict) : Dict :=
  match item.get "raw_payload" with
  | .obj fields => fields
  | _ => []

/-- The checks of one item that look at nothing but the item and the intent. A
filled item is persisted as submitted when the caller asks for it. -/
def readOrderItem (intent : OrderIntent) (normalizeFilledStatus : Bool) (submissionMode : String)
    (index : Nat) (item : Dict) : Except String OrderItem :=
  let side := itemSide item
  let market := (jsonText (item.get "market")).getD intent.market
  let requestedQty := (jsonNumberText ctx (item.get "requested_qty")).getD intent.targetQty
  let requestedPrice := jsonNumberText ctx (item.get "requested_price")
  let status := itemStatus item
  match jsonText (item.get "exchange_name") with
  | none =>
      .error "private execution order item missing exchange_name, side, or requested_qty"
  | some exchangeName =>
      require (side = "buy" ∨ side = "sell")
        "private execution order item missing exchange_name, side, or requested_qty" <|
      require (intent.market = "" ∨ market = intent.market)
        "private execution order market mismatches intent market" <|
      require ((side, exchangeName) ∈ expectedLegs intent)
        ("private execution response returned unexpected arbitrage order legs: " ++
          LegKey.text (side, exchangeName)) <|
      require (isPositiveNumberText requestedQty)
        "private execution order requested_qty must be a positive number" <|
      require (requestedPrice.all isPositiveNumberText)
        "private execution order requested_price must be a positive number" <|
      require (status ∈ allowedOrderStatuses)
        ("private execution order status not allowed: " ++ status) <|
      .ok
        { exchangeName := exchangeName
          side := side
          market := market
          requestedQty := requestedQty
          requestedPrice := requestedPrice
          exchangeOrderId := jsonText (item.get "exchange_order_id")
          status := if normalizeFilledStatus && status = "filled" then "submitted" else status
          rawPayload := (itemRawPayload item).merge
            [("submission_mode", .str submissionMode),
              ("adapter_response_order_index", .int index),
              ("adapter_response_status", .str status)] }

/-- Check the items in order: no leg twice, no exchange identifier twice, none
that the store already has. -/
def validateOrderItems (listOrders : String → List Order) (intent : OrderIntent)
    (normalizeFilledStatus : Bool) (submissionMode : String) :
    Nat → List LegKey → List (String × String) → List Json → Except String (List OrderItem)
  | _, _, _, [] => .ok []
  | index, seenLegs, seenIds, .obj fields :: rest =>
      match readOrderItem ctx intent normalizeFilledStatus submissionMode index fields with
      | .error message => .error message
      | .ok item =>
          require (item.leg ∉ seenLegs)
            "private execution response duplicated arbitrage order leg" <|
          require (item.exchangeOrderId.all fun id => (item.exchangeName, id) ∉ seenIds)
            "private execution response duplicated exchange_order_id" <|
          require (item.exchangeOrderId.all fun id =>
              some id ∉ (listOrders item.exchangeName).map Order.exchangeOrderId)
            "private execution exchange_order_id conflicts with existing order" <|
          match validateOrderItems listOrders intent normalizeFilledStatus submissionMode
            (index + 1)
            (item.leg :: seenLegs)
            ((item.exchangeOrderId.map (item.exchangeName, ·)).toList ++ seenIds) rest with
          | .error message => .error message
          | .ok items => .ok (item :: items)
  | _, _, _, _ :: _ => .error "private execution order item must be an object"

end Reading

/-- The orders created from a response: the rows by leg, and what stopped the run. -/
structure OrdersCreation (σ : Type) where
  orderIndex : List (LegKey × Order)
  error : Option String
  store : σ

def OrdersCreation.createdOrders {σ : Type} (creation : OrdersCreation σ) : List Order :=
  creation.orderIndex.map Prod.snd

section Creating

variable {σ : Type} (P : StoreProtocol σ) (ctx : DecimalContext)

def createOrderItems (intent : OrderIntent) (items : List OrderItem) (s : σ) :
    Creation OrderItem Order σ :=
  createRows (fun item => P.createOrder (item.newOrder intent.intentId)) items s

def createOrdersFromResponse (intent : OrderIntent) (ordersPayload : Json)
    (normalizeFilledStatus : Bool) (submissionMode : String) (s : σ) : OrdersCreation σ :=
  match ordersPayload with
  | .arr (first :: rest) =>
      match validateOrderItems ctx (P.listOrders s) intent normalizeFilledStatus submissionMode
        1 [] [] (first :: rest) with
      | .error message => ⟨[], some message, s⟩
      | .ok items =>
          let creation := createOrderItems P intent items s
          { orderIndex := creation.rows.map fun created => (created.1.leg, created.2)
            error := creation.refusal.map fun refused =>
              "private execution order create failed: " ++ refused.2.text
            store := creation.store }
  | _ => ⟨[], some "private execution response missing orders", s⟩

/-- An identifier is looked up by its text without blanks. -/
def readOrderId (id : String) : Option String := jsonText (.str id)

theorem readOrderId_of_plain {order : Order} (hplain : order.HasPlainId) :
    readOrderId order.orderId = some order.orderId := hplain

def validateRequiredArbitrageLegs (orderIndex : List (LegKey × Order)) (intent : OrderIntent)
    (requireComplete : Bool) : Option String :=
  let expected := expectedLegs intent
  let legs := orderIndex.map Prod.fst
  let missing := expected.filter (· ∉ legs)
  let unexpected := (sortedLegs legs).filter (· ∉ expected)
  if intent.buyExchange = "" ∨ intent.sellExchange = "" then
    some "private execution response missing arbitrage exchange context"
  else if requireComplete && !missing.isEmpty then
    some ("private execution response missing required arbitrage order legs: " ++ legTexts missing)
  else if !unexpected.isEmpty then
    some ("private execution response returned unexpected arbitrage order legs: " ++
      legTexts unexpected)
  else if orderIndex.length ≠ expected.length then
    some "private execution response returned unexpected arbitrage order count"
  else none

end Creating

end TradingPlatform.Execution

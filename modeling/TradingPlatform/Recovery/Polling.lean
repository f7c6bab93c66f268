import TradingPlatform.Exchange.Connectors
import TradingPlatform.Recovery.Handoff

/-! # Automatic reconciliation

Asks the exchanges for the state of a trace's orders and for the balances, and
sums up what it was told as reconciliation fields. Connectors answer with a
result or raise.
-/

namespace TradingPlatform.Recovery

open Storage Exchange

/-- The queries of a connector that reconciliation makes. -/
structure StatusConnector where
  getOrderStatus : (exchangeOrderId market : String) → Except String PrivateExchangeResult
  getBalances : Except String PrivateExchangeResult

/-- The object an answer carries, when it is one. -/
def responsePayload (response : PrivateExchangeResult) : Option Dict :=
  if response.outcome = "ok" then
    match response.data with
    | .obj payload => some payload
    | _ => none
  else none

section Amounts

/-- The longest coefficient of a decimal. -/
def maxDecimalDigits : Nat := 28

/-- Number of decimal places a number is written with. -/
def decimalPlaces (q : ℚ) : Nat :=
  ((List.range (Nat.log 2 q.den + 1)).find? fun places => 10 ^ places % q.den = 0).getD 0

/-- A number, rounded in the context, in plain notation; an integer that has too
many digits is refused. -/
def decimalText (ctx : DecimalContext) (q : ℚ) : Except String String :=
  let normalized := ctx.round q
  let places := decimalPlaces normalized
  if ctx.overflows q then .error decimalOverflow
  else if normalized.den = 1 ∧ 10 ^ maxDecimalDigits ≤ |normalized| then
    .error "[<class 'decimal.InvalidOperation'>]"
  else .ok ((Decimal.mk (q < 0) (⌊|normalized| * 10 ^ places⌋).toNat (-places)).plainText .exact)

def decimalValue (value : Json) : Option ℚ := (parseDecimal value).map Decimal.value

/-- The first of several amounts that is neither missing nor zero, else the last. -/
def firstAmount (first second third : Option ℚ) : Option ℚ :=
  if first.any (· ≠ 0) then first else if second.any (· ≠ 0) then second else third

end Amounts

section Orders

variable (ctx : DecimalContext) (connectors : List (String × StatusConnector))

/-- What was learned of the orders asked about so far. -/
structure OrderPoll where
  orderIds : List String := []
  statuses : List ObservedOrderStatus := []
  openOrderCount : Nat := 0
  netBaseQty : ℚ := 0
  referencePrice : Option ℚ := none

/-- The base quantity filled, as the exchange or else the store counts it. -/
def polledQty (filledQty : ℚ) (payload : Dict) : ℚ :=
  (decimalValue (payload.get "filled_qty")).getD filledQty

/-- The side of an order, as the store or else the exchange names it. -/
def polledSide (order : Order) (payload : Dict) : String :=
  Text.lower (Text.strip ((Json.str order.side).orElse (payload.get "side")).textOrEmpty)

/-- Count one answer in. -/
def OrderPoll.record (poll : OrderPoll) (order : Order) (filledQty : ℚ) (payload : Dict) :
    OrderPoll :=
  let status := normalizedText (payload.get "status")
  if status = "" then poll
  else
    let orderId := Text.strip order.orderId
    let filled := polledQty filledQty payload
    let price := firstAmount (decimalValue (payload.get "avg_fill_price"))
      (decimalValue (payload.get "requested_price")) (order.requestedPrice.map Numeral.value)
    let side := polledSide order payload
    { orderIds := poll.orderIds ++ [orderId]
      statuses := poll.statuses ++ [⟨orderId, status⟩]
      openOrderCount := poll.openOrderCount + if status ∈ terminalOrderStatuses then 0 else 1
      netBaseQty :=
        if side = "buy" then ctx.add poll.netBaseQty filled
        else if side = "sell" then ctx.sub poll.netBaseQty filled
        else poll.netBaseQty
      referencePrice := if price.any (0 < ·) then price else poll.referencePrice }

/-- The net that an answer is counted into overflows. -/
def OrderPoll.recordOverflows (poll : OrderPoll) (order : Order) (filledQty : ℚ)
    (payload : Dict) : Bool :=
  let filled := polledQty filledQty payload
  let side := polledSide order payload
  normalizedText (payload.get "status") ≠ "" &&
    (side = "buy" && ctx.overflows (poll.netBaseQty + filled) ||
      side = "sell" && ctx.overflows (poll.netBaseQty - filled))

/-- Ask about each order whose exchange has a connector and that has identifiers. -/
def pollOrders (reads : ReadStore) (market : String) :
    OrderPoll → List Order → Except String OrderPoll
  | poll, [] => .ok poll
  | poll, order :: rest =>
      let exchangeOrderId := Text.strip (order.exchangeOrderId.getD "")
      let orderMarket :=
        Text.upper (Text.strip (if order.market = "" then market else order.market))
      match connectors.lookup (Text.strip order.exchangeName) with
      | none => pollOrders reads market poll rest
      | some connector =>
          if exchangeOrderId = "" ∨ Text.strip order.orderId = "" ∨ orderMarket = "" then
            pollOrders reads market poll rest
          else
            match connector.getOrderStatus exchangeOrderId orderMarket with
            | .error text => .error text
            | .ok response =>
                match responsePayload response with
                | none => pollOrders reads market poll rest
                | some payload =>
                    let filledQty := reads.filledQty order.orderId
                    if poll.recordOverflows ctx order filledQty payload then .error decimalOverflow
                    else pollOrders reads market (poll.record ctx order filledQty payload) rest

end Orders

section Balances

variable (ctx : DecimalContext) (connectors : List (String × StatusConnector))

/-- The first of several values that is true, as an amount; zero when none is. -/
def balanceAmount (item : Dict) (keys : List String) : Option ℚ :=
  decimalValue ((keys.map item.get).foldr Json.orElse (.str "0"))

/-- The balances an exchange lists, one for each asset that matters. -/
def readBalances (exchangeName : String) (assets : List String) :
    List (String × String) → List Json → Except String (List Json)
  | _, [] => .ok []
  | seen, .obj item :: rest =>
      let asset := Text.upper (Text.strip
        ((Dict.get item "currency").orElse (Dict.get item "asset")).textOrEmpty)
      match balanceAmount item ["available", "free"],
        balanceAmount item ["locked", "in_use", "limit"] with
      | some free, some locked =>
          if (assets ≠ [] ∧ asset ∉ assets) ∨ free < 0 ∨ locked < 0 ∨
              (exchangeName, asset) ∈ seen then
            readBalances exchangeName assets seen rest
          else
            match decimalText ctx free, decimalText ctx locked with
            | .ok freeText, .ok lockedText =>
                (readBalances exchangeName assets ((exchangeName, asset) :: seen) rest).map
                  (.obj [("exchange_name", .str exchangeName), ("asset", .str asset),
                    ("free", .str freeText), ("locked", .str lockedText)] :: ·)
            | .error text, _ | _, .error text => .error text
      | _, _ => readBalances exchangeName assets seen rest
  | seen, _ :: rest => readBalances exchangeName assets seen rest

/-- Ask each exchange for its balances. -/
def pollBalances (assets : List String) : List String → Except String (List Json)
  | [] => .ok []
  | exchangeName :: rest =>
      match connectors.lookup exchangeName with
      | none => pollBalances assets rest
      | some connector =>
          match connector.getBalances with
          | .error text => .error text
          | .ok response =>
              match (responsePayload response).map fun payload => Dict.get payload "items" with
              | some (.arr items) =>
                  match readBalances ctx exchangeName assets [] items with
                  | .error text => .error text
                  | .ok balances => (pollBalances assets rest).map (balances ++ ·)
              | _ => pollBalances assets rest

end Balances

section Snapshot

variable (ctx : DecimalContext) (connectors : List (String × StatusConnector))

/-- What is left of the orders' fills at the reference price, else the residual
the trace names. -/
def residualExposure (poll : OrderPoll) (trace : Dict) : Except String (Option ℚ) :=
  if poll.netBaseQty = 0 then .ok (some 0)
  else
    match poll.referencePrice with
    | some price =>
        let quantity := ctx.round |poll.netBaseQty|
        if ctx.overflows |poll.netBaseQty| || ctx.overflows (quantity * price) then
          .error decimalOverflow
        else .ok (some (ctx.mul quantity price))
    | none =>
        match decimalValue (trace.get "residual_exposure_quote") with
        | none => .ok none
        | some residual =>
            if ctx.overflows |residual| then .error decimalOverflow
            else .ok (some (ctx.round |residual|))

/-- The market of a list of orders, from the first that names one. -/
def relatedMarket (orders : List Order) : String :=
  Text.upper (Text.strip
    ((orders.find? fun order => Text.strip order.market ≠ "").elim "" Order.market))

/-- The exchanges of a list of orders. -/
def relatedExchanges (orders : List Order) : List String :=
  sortedTexts ((orders.map fun order => Text.strip order.exchangeName).filter (· ≠ ""))

/-- What was learned, as reconciliation fields. -/
def reconciliationSnapshot (poll : OrderPoll) (relatedFills : List Fill) (balances : List Json)
    (residual : ℚ) (residualText isoNow : String) : Dict :=
  let matched := poll.openOrderCount = 0 ∧ residual = 0
  [("reconciliation_result", .str (if matched then "matched" else "mismatch")),
    ("reconciliation_open_order_count", .int poll.openOrderCount),
    ("reconciliation_residual_exposure_quote", .str residualText),
    ("reconciliation_observed_at", .str isoNow),
    ("reconciliation_source", .str "auto_private_connectors"),
    ("reconciliation_summary", .str "auto reconciliation from private exchange connectors"),
    ("reconciliation_reason",
      .str (if matched then "private_connectors_zero_residual"
        else "private_connectors_residual_or_open_orders")),
    ("reconciliation_observed_order_ids", .arr (poll.orderIds.map .str)),
    ("reconciliation_observed_fill_ids", .arr (((relatedFills.map fun fill =>
      Text.strip fill.fillId).filter (· ≠ "")).map .str)),
    ("reconciliation_observed_order_statuses",
      .arr (poll.statuses.map fun status => .obj
        [("order_id", .str status.orderId), ("status", .str status.status)])),
    ("reconciliation_observed_balances", .arr balances)]

/-- The reconciliation fields of a trace's orders, unless nothing was learned. -/
def buildAutoReconciliationSnapshot (reads : ReadStore) (trace : Dict) (relatedOrders : List Order)
    (relatedFills : List Fill) (isoNow : String) : Except String (Option Dict) :=
  let market := relatedMarket relatedOrders
  let exchanges := relatedExchanges relatedOrders
  if relatedOrders = [] ∨ connectors = [] ∨ exchanges = [] then .ok none
  else
    match pollOrders ctx connectors reads market {} relatedOrders with
    | .error text => .error text
    | .ok poll =>
        if poll.statuses = [] then .ok none
        else
          match pollBalances ctx connectors (relevantAssetsFromMarket market) exchanges with
          | .error text => .error text
          | .ok balances =>
              match residualExposure ctx poll trace with
              | .error text => .error text
              | .ok none => .ok none
              | .ok (some residual) =>
                  (decimalText ctx residual).map fun residualText =>
                    some (reconciliationSnapshot poll relatedFills balances residual residualText
                      isoNow)

variable {ctx connectors}

/-- A snapshot sums up one round of answers. -/
theorem exists_of_snapshot {reads : ReadStore} {trace patch : Dict} {orders : List Order}
    {fills : List Fill} {isoNow : String}
    (hsnapshot : buildAutoReconciliationSnapshot ctx connectors reads trace orders fills isoNow =
      .ok (some patch)) :
    ∃ poll balances residual residualText,
      relatedExchanges orders ≠ [] ∧
      pollOrders ctx connectors reads (relatedMarket orders) {} orders = .ok poll ∧
      poll.statuses ≠ [] ∧
      pollBalances ctx connectors (relevantAssetsFromMarket (relatedMarket orders))
        (relatedExchanges orders) = .ok balances ∧
      residualExposure ctx poll trace = .ok (some residual) ∧
      decimalText ctx residual = .ok residualText ∧
      patch = reconciliationSnapshot poll fills balances residual residualText isoNow := by
  unfold buildAutoReconciliationSnapshot at hsnapshot
  dsimp only at hsnapshot
  split at hsnapshot
  · cases hsnapshot
  next hnothing =>
    split at hsnapshot
    · cases hsnapshot
    next poll hpoll =>
      split at hsnapshot
      · cases hsnapshot
      next hstatuses =>
        split at hsnapshot
        · cases hsnapshot
        next balances hbalances =>
          split at hsnapshot
          · cases hsnapshot
          · cases hsnapshot
          next residual hresidual =>
            cases htext : decimalText ctx residual with
            | error text => simp [htext, Except.map] at hsnapshot
            | ok residualText =>
                simp only [htext, Except.map, Except.ok.injEq, Option.some.injEq] at hsnapshot
                simp only [not_or] at hnothing
                exact ⟨poll, balances, residual, residualText, hnothing.2.2, hpoll, hstatuses,
                  hbalances, hresidual, htext, hsnapshot.symm⟩

end Snapshot

end TradingPlatform.Recovery

import TradingPlatform.Foundation.Request

/-! # Private exchange connectors

Placing an order at an exchange: the request each connector builds and what it
makes of the answer. The round trip to the exchange is a function of the
request body; it reports whether the exchange accepted the order.
-/

namespace TradingPlatform.Exchange

structure PrivateExchangeResult where
  outcome : String
  reason : Option String := none
  data : Json := .null
  errorCode : Option String := none
  retryable : Option Bool := none
  httpStatus : Option Int := none

structure PrivateExchangeApiError where
  exchange : String
  operationName : String
  internalCode : String
  reason : String
  retryable : Bool
  httpStatus : Option Int := none

/-- How a round trip fails: mapped to an error of the connector, or raised as
something the connector does not catch. -/
inductive RequestFailure where
  | api (error : PrivateExchangeApiError)
  | raised (text : String)

/-- What a round trip does: whether the exchange took the order, and the answer. -/
structure ExchangeReply where
  accepted : Bool
  answer : Except RequestFailure Json

/-- What one call to place an order does: it returns a result or raises. -/
structure PlaceOrderCall where
  accepted : Bool
  answer : Except String PrivateExchangeResult

structure PrivateExchangeConnector where
  name : String
  placeOrder : Dict → PlaceOrderCall

def okResult (data : Dict) : PrivateExchangeResult := { outcome := "ok", data := .obj data }

def handleApiError (error : PrivateExchangeApiError) : PrivateExchangeResult where
  outcome := "error"
  reason := some error.reason
  errorCode := some error.internalCode
  retryable := some error.retryable
  httpStatus := error.httpStatus

section Normalizing

structure ExchangeMarket where
  canonicalSymbol : String
  exchangeSymbol : String
  quoteCurrency : String
  targetCurrency : String

def invalidRequest (exchange operationName reason : String) : PrivateExchangeApiError where
  exchange := exchange
  operationName := operationName
  internalCode := "INVALID_REQUEST"
  reason := reason
  retryable := false

/-- `TARGET/QUOTE` or `QUOTE-TARGET`, in upper case. -/
def normalizeMarket (exchange market : String) : Except PrivateExchangeApiError ExchangeMarket :=
  let raw := Text.upper (Text.strip market)
  let build (target quote : String) : ExchangeMarket :=
    { canonicalSymbol := target ++ "/" ++ quote
      exchangeSymbol := quote ++ "-" ++ target
      quoteCurrency := quote
      targetCurrency := target }
  if raw = "" then .error (invalidRequest exchange "normalize_market" "market is required")
  else
    match Text.partition '/' raw, Text.partition '-' raw with
    | some (target, quote), _ => .ok (build target quote)
    | none, some (quote, target) => .ok (build target quote)
    | none, none =>
        .error (invalidRequest exchange "normalize_market"
          ("unsupported market format: " ++ market))

def normalizeSide (side : Json) : Except PrivateExchangeApiError String :=
  let normalized := Text.lower (Text.strip side.textOrEmpty)
  if normalized = "buy" ∨ normalized = "bid" then .ok "buy"
  else if normalized = "sell" ∨ normalized = "ask" then .ok "sell"
  else .error (invalidRequest "common" "normalize_side" ("unsupported side: " ++ side.toText))

/-- A status reader: known states by name, any other state as itself. -/
def normalizeStatus (fold : String → String) (known : List (String × String)) (rawState : String) :
    String :=
  let normalized := fold (Text.strip rawState)
  match known.lookup normalized with
  | some status => status
  | none => if normalized = "" then "unknown" else Text.lower normalized

def normalizeUpbitOrderStatus : String → String :=
  normalizeStatus Text.lower
    [("wait", "open"), ("watch", "open"), ("done", "filled"), ("cancel", "cancelled")]

def normalizeBithumbOrderStatus : String → String :=
  normalizeStatus Text.lower
    [("wait", "open"), ("watch", "open"), ("pending", "open"), ("done", "filled"),
      ("cancel", "cancelled"), ("cancelled", "cancelled")]

def normalizeUpbitOrderType (item : Dict) : String :=
  let ordType := Text.lower (Text.strip (item.get "ord_type").textOrEmpty)
  let side := Text.lower (Text.strip (item.get "side").textOrEmpty)
  if ordType = "price" ∧ side = "bid" then "market_buy"
  else if ordType = "market" ∧ side = "ask" then "market_sell"
  else if ordType = "" then "limit"
  else ordType

/-- The canonical market of an order, when the answer names one. -/
def orderMarket (exchange market : String) : Except PrivateExchangeApiError Json :=
  if market = "" then .ok .null
  else (normalizeMarket exchange market).map fun m => .str m.canonicalSymbol

def textOrNull (text : String) : Json := if text = "" then .null else .str text

def payloadItem : Json → Dict
  | .obj fields => fields
  | _ => []

def normalizeUpbitOrder (payload : Json) : Except PrivateExchangeApiError Dict := do
  let item := payloadItem payload
  let market := (item.get "market").textOrEmpty
  let canonical ← orderMarket "upbit" market
  let rawState := (item.get "state").textOrEmpty
  return [
    ("exchange_order_id", .str (item.get "uuid").textOrEmpty),
    ("client_order_id", item.get "identifier"),
    ("market", canonical),
    ("exchange_market", textOrNull market),
    ("side", .str (if (item.get "side").textOrEmpty = "bid" then "buy" else "sell")),
    ("order_type", .str (normalizeUpbitOrderType item)),
    ("status", .str (normalizeUpbitOrderStatus rawState)),
    ("raw_status", .str rawState),
    ("requested_price", item.get "price"),
    ("requested_qty", item.get "volume"),
    ("remaining_qty", item.get "remaining_volume"),
    ("filled_qty", item.get "executed_volume"),
    ("avg_fill_price", .null),
    ("fee_amount", item.get "paid_fee"),
    ("fee_rate", .null),
    ("created_at", item.get "created_at"),
    ("updated_at", item.get "created_at")]

def normalizeBithumbOrder (payload : Json) : Except PrivateExchangeApiError Dict := do
  let item := payloadItem payload
  let market := (item.get "market").textOrEmpty
  let canonical ← orderMarket "bithumb" market
  let rawState := (((item.get "state").orElse (item.get "order_state")).orElse
    (item.get "status")).textOrEmpty
  return [
    ("exchange_order_id", .str ((item.get "uuid").orElse (item.get "order_id")).textOrEmpty),
    ("client_order_id", item.get "client_order_id"),
    ("market", canonical),
    ("exchange_market", textOrNull market),
    ("side", .str (if (item.get "side").textOrEmpty = "bid" then "buy" else "sell")),
    ("order_type", .str (Text.lower
      (((item.get "ord_type").orElse (item.get "type")).orElse (.str "limit")).toText)),
    ("status", .str (normalizeBithumbOrderStatus rawState)),
    ("raw_status", .str rawState),
    ("requested_price", item.get "price"),
    ("requested_qty",
      ((item.get "volume").orElse (item.get "original_volume")).orElse (item.get "qty")),
    ("remaining_qty", (item.get "remaining_volume").orElse (item.get "remain_qty")),
    ("filled_qty", (item.get "executed_volume").orElse (item.get "executed_qty")),
    ("avg_fill_price", (item.get "avg_price").orElse (item.get "average_executed_price")),
    ("fee_amount", (item.get "paid_fee").orElse (item.get "fee")),
    ("fee_rate", item.get "fee_rate"),
    ("created_at", item.get "created_at"),
    ("updated_at", (item.get "created_at").orElse (item.get "updated_at"))]

def normalizeCoinonePlaceOrder (payload : Json) (market : ExchangeMarket) (request : Dict) :
    Except PrivateExchangeApiError Dict := do
  let item := payloadItem payload
  let side ← normalizeSide (request.get "side")
  return [
    ("exchange_order_id", .str (item.get "order_id").textOrEmpty),
    ("client_order_id", request.get "client_order_id"),
    ("market", .str market.canonicalSymbol),
    ("exchange_market", .str (market.quoteCurrency ++ "-" ++ market.targetCurrency)),
    ("side", .str side),
    ("order_type", .str (Text.lower (Text.strip
      ((request.get "order_type").orElse (.str "limit")).toText))),
    ("status", .str "submitted"),
    ("raw_status", .null),
    ("requested_price", request.get "price"),
    ("requested_qty", (request.get "qty").orElse (request.get "volume")),
    ("remaining_qty", .null),
    ("filled_qty", .null),
    ("avg_fill_price", .null),
    ("fee_amount", .null),
    ("fee_rate", .null),
    ("created_at", .null),
    ("updated_at", .null)]

end Normalizing

section Requests

/-- The first of several keys with a text that is not blank. -/
def requireTextAny (payload : Dict) (keys : List String) (message : String) :
    Except PrivateExchangeApiError String :=
  match keys.find? fun key => (jsonText (payload.get key)).isSome with
  | some key => .ok (payload.get key).toText
  | none => .error (invalidRequest "common" "validate_payload" message)

def requireText (payload : Dict) (key : String) : Except PrivateExchangeApiError String :=
  requireTextAny payload [key] (key ++ " is required")

def requireQty (request : Dict) : Except PrivateExchangeApiError String :=
  requireTextAny request ["qty", "volume"] "one of qty, volume is required"

def requireAmount (request : Dict) : Except PrivateExchangeApiError String :=
  requireTextAny request ["amount", "quote_qty", "price"]
    "one of amount, quote_qty, price is required"

def requestOrderType (request : Dict) : String :=
  Text.lower (Text.strip ((request.get "order_type").orElse (.str "limit")).toText)

/-- The client's own order identifier under the exchange's name for it. -/
def clientOrderId (request : Dict) (key : String) : Dict :=
  let id := Text.strip (request.get "client_order_id").textOrEmpty
  if id = "" then [] else [(key, .str id)]

def buildUpbitOrderPayload (request : Dict) : Except PrivateExchangeApiError Dict := do
  let market ← normalizeMarket "upbit" (request.get "market").textOrEmpty
  let side ← normalizeSide (request.get "side")
  let orderType := requestOrderType request
  let symbol : Dict := [("market", .str market.exchangeSymbol),
    ("side", .str (if side = "buy" then "bid" else "ask"))]
  let body : Dict ←
    if orderType = "limit" then do
      let price ← requireText request "price"
      let qty ← requireQty request
      .ok [("ord_type", .str "limit"), ("price", .str price), ("volume", .str qty)]
    else if orderType = "market" ∧ side = "buy" then do
      .ok [("ord_type", .str "price"), ("price", .str (← requireAmount request))]
    else if orderType = "market" ∧ side = "sell" then do
      .ok [("ord_type", .str "market"), ("volume", .str (← requireQty request))]
    else
      .error (invalidRequest "upbit" "place_order"
        ("unsupported order_type for upbit: " ++ orderType))
  return symbol ++ body ++ clientOrderId request "identifier"

def buildBithumbOrderPayload (request : Dict) : Except PrivateExchangeApiError Dict := do
  let market ← normalizeMarket "bithumb" (request.get "market").textOrEmpty
  let side ← normalizeSide (request.get "side")
  if requestOrderType request ≠ "limit" then
    .error (invalidRequest "bithumb" "place_order"
      "bithumb connector currently supports limit orders only")
  else
    let price ← requireText request "price"
    let qty ← requireQty request
    return [("market", .str market.exchangeSymbol),
      ("side", .str (if side = "buy" then "bid" else "ask")), ("ord_type", .str "limit"),
      ("price", .str price), ("volume", .str qty)] ++ clientOrderId request "client_order_id"

def buildCoinoneOrderPayload (request : Dict) : Except PrivateExchangeApiError Dict := do
  let market ← normalizeMarket "coinone" (request.get "market").textOrEmpty
  let side ← normalizeSide (request.get "side")
  let orderType := requestOrderType request
  let symbol : Dict := [("quote_currency", .str market.quoteCurrency),
    ("target_currency", .str market.targetCurrency),
    ("side", .str (if side = "buy" then "BUY" else "SELL"))]
  let postOnly : Dict :=
    if request.has "post_only" then [("post_only", .bool (request.get "post_only").truthy)] else []
  let limitPrice : Dict :=
    match request.get "limit_price" with
    | .null => []
    | price => [("limit_price", .str price.toText)]
  let body : Dict ←
    if orderType = "limit" then do
      let price ← requireText request "price"
      let qty ← requireQty request
      .ok ([("type", .str "LIMIT"), ("price", .str price), ("qty", .str qty)] ++ postOnly)
    else if orderType = "market" ∧ side = "buy" then do
      .ok [("type", .str "MARKET"), ("amount", .str (← requireAmount request))]
    else if orderType = "market" ∧ side = "sell" then do
      .ok [("type", .str "MARKET"), ("qty", .str (← requireQty request))]
    else
      .error (invalidRequest "coinone" "place_order"
        ("unsupported order_type for coinone: " ++ orderType))
  return symbol ++ body ++ clientOrderId request "user_order_id" ++ limitPrice

end Requests

section Placing

/-- Build the body, make the round trip, normalize the answer. An error of the
connector becomes a result; anything else a round trip raises goes through. -/
def placeOrder (build : Dict → Except PrivateExchangeApiError Dict)
    (normalize : Dict → Json → Except PrivateExchangeApiError Dict) (wire : Dict → ExchangeReply)
    (request : Dict) : PlaceOrderCall :=
  match build request with
  | .error error => ⟨false, .ok (handleApiError error)⟩
  | .ok body =>
      let reply := wire body
      match reply.answer with
      | .error (.raised text) => ⟨reply.accepted, .error text⟩
      | .error (.api error) => ⟨reply.accepted, .ok (handleApiError error)⟩
      | .ok payload =>
          match normalize request payload with
          | .error error => ⟨reply.accepted, .ok (handleApiError error)⟩
          | .ok order => ⟨reply.accepted, .ok (okResult order)⟩

variable (wire : Dict → ExchangeReply)

def upbitConnector (name : String) : PrivateExchangeConnector where
  name := name
  placeOrder := placeOrder buildUpbitOrderPayload (fun _ => normalizeUpbitOrder) wire

def bithumbConnector (name : String) : PrivateExchangeConnector where
  name := name
  placeOrder := placeOrder buildBithumbOrderPayload (fun _ => normalizeBithumbOrder) wire

def coinoneConnector (name : String) : PrivateExchangeConnector where
  name := name
  placeOrder := placeOrder buildCoinoneOrderPayload
    (fun request payload => do
      let market ← normalizeMarket "coinone" (request.get "market").textOrEmpty
      normalizeCoinonePlaceOrder payload market request) wire

end Placing

end TradingPlatform.Exchange

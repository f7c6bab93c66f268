import TradingPlatform.Recovery.Polling

/-! # The repository's connectors, asked for orders and balances

What each connector makes of the answers of its exchange when reconciliation asks
for the state of an order and for the balances. The round trip to the exchange is
a function of the query.
-/

namespace TradingPlatform.Recovery

open Exchange

section Normalizing

def normalizeCoinoneOrderStatus : String → String :=
  normalizeStatus Text.upper
    [("LIVE", "open"), ("PARTIALLY_FILLED", "partially_filled"),
      ("PARTIALLY_CANCELED", "partially_cancelled"), ("FILLED", "filled"),
      ("CANCELED", "cancelled"), ("CANCEL", "cancelled")]

def normalizeCoinoneOrder (payload : Json) : Dict :=
  let root := payloadItem payload
  let item : Dict := match root.get "order" with
    | .obj order => order
    | _ => root
  let quoteCurrency := (item.get "quote_currency").textOrEmpty
  let targetCurrency := (item.get "target_currency").textOrEmpty
  let named := quoteCurrency ≠ "" ∧ targetCurrency ≠ ""
  let rawStatus := (item.get "status").textOrEmpty
  [("exchange_order_id", .str (item.get "order_id").textOrEmpty),
    ("client_order_id", item.get "user_order_id"),
    ("market", if named then .str (targetCurrency ++ "/" ++ quoteCurrency) else .null),
    ("exchange_market", if named then .str (quoteCurrency ++ "-" ++ targetCurrency) else .null),
    ("side", .str (if Text.upper (item.get "side").textOrEmpty = "BUY" then "buy" else "sell")),
    ("order_type", .str (Text.lower (item.get "type").textOrEmpty)),
    ("status", .str (normalizeCoinoneOrderStatus rawStatus)),
    ("raw_status", .str rawStatus),
    ("requested_price", item.get "price"),
    ("requested_qty", item.get "original_qty"),
    ("remaining_qty", item.get "remain_qty"),
    ("filled_qty", item.get "executed_qty"),
    ("avg_fill_price", item.get "average_executed_price"),
    ("fee_amount", item.get "fee"),
    ("fee_rate", item.get "fee_rate"),
    ("created_at", (item.get "created_at").orElse (item.get "ordered_at")),
    ("updated_at", (item.get "updated_at").orElse (item.get "ordered_at"))]

/-- The text of the first of several values that is true, else the text given. -/
def textAmong (item : Dict) (keys : List String) (otherwise : String) : Json :=
  .str ((keys.map item.get).foldr Json.orElse (.str otherwise)).toText

def normalizeUpbitBalance (item : Dict) : Dict :=
  let currency := (item.get "currency").textOrEmpty
  let unitCurrency := (item.get "unit_currency").textOrEmpty
  [("currency", .str currency),
    ("market", .str (if unitCurrency = "" then currency else currency ++ "/" ++ unitCurrency)),
    ("available", textAmong item ["balance"] "0"),
    ("locked", textAmong item ["locked"] "0"),
    ("avg_buy_price", textAmong item ["avg_buy_price"] "0")]

def normalizeBithumbBalance (item : Dict) : Dict :=
  [("currency", textAmong item ["currency", "unit_currency"] ""),
    ("market", .null),
    ("available", textAmong item ["balance", "available"] "0"),
    ("locked", textAmong item ["locked", "in_use", "limit"] "0"),
    ("avg_buy_price", textAmong item ["avg_buy_price"] "0")]

def normalizeCoinoneBalance (item : Dict) : Dict :=
  [("currency", textAmong item ["currency"] ""),
    ("market", .null),
    ("available", textAmong item ["available"] "0"),
    ("locked", textAmong item ["limit"] "0"),
    ("avg_buy_price", textAmong item ["average_price"] "0")]

/-- The objects of a list, each normalized, and their number. -/
def balanceItems (normalize : Dict → Dict) (count : List Json → List Json → Nat) : Json → Dict
  | .arr items =>
      let normalized := items.filterMap fun
        | .obj item => some (.obj (normalize item))
        | _ => none
      [("items", .arr normalized), ("count", .int (count items normalized))]
  | _ => [("items", .arr []), ("count", .int 0)]

end Normalizing

section Asking

/-- The answers of an exchange. -/
structure StatusWire where
  orderStatus : Dict → Except RequestFailure Json
  balances : Except RequestFailure Json

/-- An error of the connector becomes a result; anything else a round trip raises
goes through. -/
def answered (normalize : Json → Except PrivateExchangeApiError Dict) :
    Except RequestFailure Json → Except String PrivateExchangeResult
  | .error (.raised text) => .error text
  | .error (.api error) => .ok (handleApiError error)
  | .ok payload =>
      match normalize payload with
      | .error error => .ok (handleApiError error)
      | .ok data => .ok (okResult data)

variable (wire : StatusWire)

def upbitStatusConnector : StatusConnector where
  getOrderStatus exchangeOrderId _ :=
    answered normalizeUpbitOrder (wire.orderStatus [("uuid", .str exchangeOrderId)])
  getBalances := answered
    (fun payload => .ok (balanceItems normalizeUpbitBalance (fun items _ => items.length) payload))
    wire.balances

def bithumbStatusConnector : StatusConnector where
  getOrderStatus exchangeOrderId _ :=
    answered normalizeBithumbOrder (wire.orderStatus [("uuid", .str exchangeOrderId)])
  getBalances := answered
    (fun payload => .ok
      (balanceItems normalizeBithumbBalance (fun _ normalized => normalized.length) payload))
    wire.balances

def coinoneStatusConnector : StatusConnector where
  getOrderStatus exchangeOrderId market :=
    match normalizeMarket "coinone" market with
    | .error error => .ok (handleApiError error)
    | .ok exchangeMarket =>
        answered (fun payload => .ok (normalizeCoinoneOrder payload)) (wire.orderStatus
          [("order_id", .str exchangeOrderId),
            ("quote_currency", .str exchangeMarket.quoteCurrency),
            ("target_currency", .str exchangeMarket.targetCurrency)])
  getBalances := answered
    (fun payload => .ok (balanceItems normalizeCoinoneBalance
      (fun _ normalized => normalized.length) ((payloadItem payload).get "balances")))
    wire.balances

/-- The answer of a connector without credentials. -/
def missingCredentialsConnector (exchange state : String) : StatusConnector where
  getOrderStatus _ _ := .ok (unavailableResult exchange state)
  getBalances := .ok (unavailableResult exchange state)
where
  unavailableResult (exchange state : String) : PrivateExchangeResult :=
    { outcome := "unavailable"
      reason := some ("trading credentials are missing or invalid (exchange=" ++ exchange ++
        ", state=" ++ state ++ ")")
      errorCode := some "AUTH_CONFIG_MISSING"
      retryable := some false }

/-- The connectors of the repository. -/
inductive RepositoryConnector : StatusConnector → Prop
  | upbit (wire : StatusWire) : RepositoryConnector (upbitStatusConnector wire)
  | bithumb (wire : StatusWire) : RepositoryConnector (bithumbStatusConnector wire)
  | coinone (wire : StatusWire) : RepositoryConnector (coinoneStatusConnector wire)
  | missing (exchange state : String) :
      RepositoryConnector (missingCredentialsConnector exchange state)

end Asking

end TradingPlatform.Recovery

import TradingPlatform.Foundation.Request
import TradingPlatform.Strategy.Models

/-! # Loading evaluation inputs

Decodes an evaluation payload into the inputs of an evaluation. A missing field,
a value of another kind and a text that denotes no number or instant raise; the
texts of the host's own exceptions are shortened. Numbers are finite.
-/

namespace TradingPlatform.Strategy

section Values

/-- A field that has to be there. -/
def requiredField (payload : Dict) (key : String) : Except String Json :=
  match payload.get? key with
  | some value => .ok value
  | none => .error (Json.quote key)

def optionalField (payload : Dict) (key : String) (default : Json) : Json :=
  (payload.get? key).getD default

def loadDecimal (value : Json) : Except String ℚ :=
  match Decimal.valueOfText? value.toText with
  | some number => .ok number
  | none => .error "[<class 'decimal.ConversionSyntax'>]"

/-- The integer of a value; a float loses its fraction. -/
def loadInt : Json → Except String Int
  | .int n => .ok n
  | .bool b => .ok (if b then 1 else 0)
  | .float printed =>
      match Decimal.valueOfText? printed with
      | some number => .ok (number.num.tdiv number.den)
      | none => .error "cannot convert float to integer"
  | .str s =>
      match Text.toInt? s with
      | some n => .ok n
      | none => .error ("invalid literal for int() with base 10: " ++ Json.quote s)
  | .null | .arr _ | .obj _ => .error "int() argument must be a string or a real number"

def loadDatetime : Json → Except String Int
  | .str s =>
      match parseIsoDatetime (.str s) with
      | some instant => .ok instant
      | none => .error ("Invalid isoformat string: " ++ Json.quote s)
  | _ => .error "datetime must be str or datetime"

def loadObject : Json → Except String Dict
  | .obj fields => .ok fields
  | _ => .error "object is not a mapping"

/-- What iterating over a value gives. -/
def loadItems : Json → Except String (List Json)
  | .arr items => .ok items
  | .str s => .ok (s.toList.map fun c => .str (String.ofList [c]))
  | .obj fields => .ok (fields.map fun field => .str field.1)
  | .null | .bool _ | .int _ | .float _ => .error "object is not iterable"

end Values

section Snapshots

def loadLevel (item : Json) : Except String OrderbookLevel := do
  let fields ← loadObject item
  let price ← loadDecimal (← requiredField fields "price")
  let quantity ← loadDecimal (← requiredField fields "quantity")
  return ⟨price, quantity⟩

def loadLevels (levels : Json) : Except String (List OrderbookLevel) := do
  (← loadItems levels).mapM loadLevel

def loadOrderbookSnapshot (payload : Dict) : Except String OrderbookSnapshot := do
  let exchangeName ← requiredField payload "exchange_name"
  let market ← requiredField payload "market"
  let observedAt ← loadDatetime (← requiredField payload "observed_at")
  let asks ← loadLevels (← requiredField payload "asks")
  let bids ← loadLevels (← requiredField payload "bids")
  return {
    exchangeName := exchangeName.toText
    market := market.toText
    observedAt := observedAt
    asks := asks
    bids := bids
    connectorHealthy := (optionalField payload "connector_healthy" (.bool true)).truthy }

def loadBalanceSnapshot (payload : Dict) : Except String BalanceSnapshot := do
  let exchangeName ← requiredField payload "exchange_name"
  let baseAsset ← requiredField payload "base_asset"
  let quoteAsset ← requiredField payload "quote_asset"
  let availableBase ← loadDecimal (← requiredField payload "available_base")
  let availableQuote ← loadDecimal (← requiredField payload "available_quote")
  let observedAt ← loadDatetime (← requiredField payload "observed_at")
  return {
    exchangeName := exchangeName.toText
    baseAsset := baseAsset.toText
    quoteAsset := quoteAsset.toText
    availableBase := availableBase
    availableQuote := availableQuote
    observedAt := observedAt
    isFresh := (optionalField payload "is_fresh" (.bool true)).truthy }

end Snapshots

section Inputs

def loadRiskConfig (payload : Dict) : Except String RiskConfig := do
  let decimal (key : String) : Except String ℚ := do loadDecimal (← requiredField payload key)
  let integer (key : String) : Except String Int := do loadInt (← requiredField payload key)
  let decimalOrZero (key : String) : Except String ℚ :=
    loadDecimal (optionalField payload key (.str "0"))
  return {
    minProfitQuote := ← decimal "min_profit_quote"
    minProfitBps := ← decimal "min_profit_bps"
    maxClockSkewMs := ← integer "max_clock_skew_ms"
    maxOrderbookAgeMs := ← integer "max_orderbook_age_ms"
    maxBalanceAgeMs := ← integer "max_balance_age_ms"
    maxNotionalPerOrder := ← decimal "max_notional_per_order"
    maxTotalNotionalPerBot := ← decimal "max_total_notional_per_bot"
    maxSpreadBps := ← decimal "max_spread_bps"
    minOrderbookDepthLevels := ←
      loadInt (optionalField payload "min_orderbook_depth_levels" (.int 1))
    minAvailableDepthQuote := ← decimalOrZero "min_available_depth_quote"
    slippageBufferBps := ← decimalOrZero "slippage_buffer_bps"
    unwindBufferQuote := ← decimalOrZero "unwind_buffer_quote"
    rebalanceBufferQuote := ← decimalOrZero "rebalance_buffer_quote"
    takerFeeBpsBuy := ← decimalOrZero "taker_fee_bps_buy"
    takerFeeBpsSell := ← decimalOrZero "taker_fee_bps_sell"
    reentryCooldownSeconds := ←
      loadInt (optionalField payload "reentry_cooldown_seconds" (.int 0)) }

/-- A field that is neither missing nor null. -/
def givenField {α : Type} (payload : Dict) (key : String) (load : Json → Except String α) :
    Except String (Option α) :=
  match payload.get key with
  | .null => .ok none
  | value => (load value).map some

def loadRuntimeState (payload : Dict) : Except String RuntimeState := do
  let now ← loadDatetime (← requiredField payload "now")
  let openOrderCount ← loadInt (optionalField payload "open_order_count" (.int 0))
  let openOrderCap ← loadInt (optionalField payload "open_order_cap" (.int 0))
  let recentUnwindAt ← givenField payload "recent_unwind_at" loadDatetime
  let remainingBotNotional ← givenField payload "remaining_bot_notional" loadDecimal
  return {
    now := now
    openOrderCount := openOrderCount
    openOrderCap := openOrderCap
    unwindInProgress := (optionalField payload "unwind_in_progress" (.bool false)).truthy
    connectorPrivateHealthy :=
      (optionalField payload "connector_private_healthy" (.bool true)).truthy
    duplicateIntentActive := (optionalField payload "duplicate_intent_active" (.bool false)).truthy
    recentUnwindAt := recentUnwindAt
    remainingBotNotional := remainingBotNotional }

def loadStrategyInputs (payload : Dict) : Except String ArbitrageInputs := do
  let baseOrderbook ← loadObject (← requiredField payload "base_orderbook")
  let hedgeOrderbook ← loadObject (← requiredField payload "hedge_orderbook")
  let baseBalance ← loadObject (← requiredField payload "base_balance")
  let hedgeBalance ← loadObject (← requiredField payload "hedge_balance")
  let riskConfig ← loadObject (← requiredField payload "risk_config")
  let runtimeState ← loadObject (← requiredField payload "runtime_state")
  let botId ← requiredField payload "bot_id"
  let strategyRunId ← requiredField payload "strategy_run_id"
  return {
    botId := botId.toText
    strategyRunId := strategyRunId.toText
    canonicalSymbol := (← requiredField payload "canonical_symbol").toText
    market := (← requiredField payload "market").toText
    baseExchange := (← requiredField payload "base_exchange").toText
    hedgeExchange := (← requiredField payload "hedge_exchange").toText
    baseOrderbook := ← loadOrderbookSnapshot baseOrderbook
    hedgeOrderbook := ← loadOrderbookSnapshot hedgeOrderbook
    baseBalance := ← loadBalanceSnapshot baseBalance
    hedgeBalance := ← loadBalanceSnapshot hedgeBalance
    riskConfig := ← loadRiskConfig riskConfig
    runtimeState := ← loadRuntimeState runtimeState }

end Inputs

section Candidates

/-- The payload with its keys trimmed and in lower case; a later key overwrites. -/
def normalizedKeys (payload : Dict) : Dict :=
  Dict.merge [] (payload.map fun entry => (Text.lower (Text.strip entry.1), entry.2))

/-- The names of exchanges, trimmed and in lower case, each once and none blank. -/
def normalizedExchanges (exchanges : List Json) : List String :=
  exchanges.foldl (fun names raw =>
    let exchange := Text.lower (Text.strip raw.toText)
    if exchange = "" ∨ exchange ∈ names then names else names ++ [exchange]) []

def loadCandidate (orderbooks balances : Dict) (exchange : String) :
    Except String CandidateExchange :=
  match orderbooks.get exchange, balances.get exchange with
  | .obj orderbook, .obj balance => do
      return ⟨exchange, ← loadOrderbookSnapshot orderbook, ← loadBalanceSnapshot balance⟩
  | .obj _, _ => .error (Json.quote ("missing balance snapshot for " ++ exchange))
  | _, _ => .error (Json.quote ("missing orderbook snapshot for " ++ exchange))

/-- The two exchanges of a pair as candidates. -/
def pairCandidates (inputs : ArbitrageInputs) : ArbitrageCandidateInputs where
  botId := inputs.botId
  strategyRunId := inputs.strategyRunId
  canonicalSymbol := inputs.canonicalSymbol
  market := inputs.market
  candidates :=
    [⟨inputs.baseExchange, inputs.baseOrderbook, inputs.baseBalance⟩,
      ⟨inputs.hedgeExchange, inputs.hedgeOrderbook, inputs.hedgeBalance⟩]
  riskConfig := inputs.riskConfig
  runtimeState := inputs.runtimeState

def loadCandidateStrategyInputs (payload : Dict) : Except String ArbitrageCandidateInputs := do
  let botId ← requiredField payload "bot_id"
  let strategyRunId ← requiredField payload "strategy_run_id"
  let riskConfig ← loadObject (← requiredField payload "risk_config")
  let runtimeState ← loadObject (← requiredField payload "runtime_state")
  match payload.get "candidate_exchanges" with
  | .arr exchanges =>
      match payload.get "orderbooks_by_exchange", payload.get "balances_by_exchange" with
      | .obj orderbooks, .obj balances => do
          let names := normalizedExchanges exchanges
          if names.length < 2 then
            .error "candidate_exchanges must include at least two exchanges"
          else
            let candidates ←
              names.mapM (loadCandidate (normalizedKeys orderbooks) (normalizedKeys balances))
            return {
              botId := botId.toText
              strategyRunId := strategyRunId.toText
              canonicalSymbol := (← requiredField payload "canonical_symbol").toText
              market := (← requiredField payload "market").toText
              candidates := candidates
              riskConfig := ← loadRiskConfig riskConfig
              runtimeState := ← loadRuntimeState runtimeState }
      | _, _ => .error "orderbooks_by_exchange and balances_by_exchange must be objects"
  | _ => return pairCandidates (← loadStrategyInputs payload)

end Candidates

end TradingPlatform.Strategy

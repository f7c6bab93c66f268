import TradingPlatform.MarketData.Freshness
import TradingPlatform.Storage.Rows
import TradingPlatform.Strategy.BalanceSources

/-! # Loading what a run is evaluated on

A running strategy is evaluated on its configuration, the cached order books of
its candidate exchanges, their balances and what the store says of its intents
and orders. What is missing or malformed in the configuration is a reason to
skip the run; what the store, a cache or a connector raises goes through, and so
do a snapshot without the fields it is read for and a cap that is no number.
-/

namespace TradingPlatform.Strategy

open Storage MarketData

structure ConfigVersion where
  versionNo : Int
  configJson : Json

/-- What the loader and the collector read of a bot. -/
structure BotDetail where
  mode : String := ""
  /-- Scope and number of the assigned configuration. -/
  assignedConfigVersion : Option (String × Int)
  /-- Whether the latest heartbeat found ordering alive. -/
  latestHeartbeat : Option Bool := none

/-- The answers a load gets from outside. -/
structure LoaderSources where
  getBotDetail : String → Except HostError (Option BotDetail)
  listConfigVersions : String → Except HostError (List ConfigVersion)
  connectorOrderbookTop : (exchange market : String) → Except HostError (Option Dict)
  /-- The Redis cache, when Redis is in use. -/
  redisOrderbookTop : Option ((exchange market : String) → Except HostError (Option Dict))
  privateConnectors : Option (List (String × BalanceReader))
  listOrderIntents : (strategyRunId : String) → Except HostError (List OrderIntent)
  listOrders : (strategyRunId : String) → Except HostError (List Order)
  isoNow : String

inductive LoadResult where
  | payload (fields : Dict)
  | skipped (skip : Skip)

def LoadResult.payload? : LoadResult → Option Dict
  | payload fields => some fields
  | skipped _ => none

section Configuration

/-- The version of a scope with a number; a version numbered zero has none. -/
def findConfigVersion (versions : List ConfigVersion) (versionNo : Int) : Option ConfigVersion :=
  versions.find? fun version =>
    (if version.versionNo = 0 then -1 else version.versionNo) = versionNo

def assignedConfigVersion (listConfigVersions : String → Except HostError (List ConfigVersion))
    (bot : BotDetail) : Except HostError (Option ConfigVersion) :=
  match bot.assignedConfigVersion with
  | none => .ok none
  | some (scope, versionNo) =>
      let configScope := Text.strip scope
      if configScope = "" then .ok none
      else do return findConfigVersion (← listConfigVersions configScope) versionNo

/-- Add an exchange that is neither blank nor there already. -/
def addExchange (exchanges : List String) (value : Json) : List String :=
  let exchange := normalizedExchange value
  if exchange = "" ∨ exchange ∈ exchanges then exchanges else exchanges ++ [exchange]

/-- The exchanges that are listed, then the base and the hedge exchange. -/
def namedExchanges (runtimeSpec : Dict) : List Json :=
  let listed : List Json :=
    match runtimeSpec.get "candidate_exchanges" with
    | .arr raw => raw
    | _ => []
  listed ++ [runtimeSpec.get "base_exchange", runtimeSpec.get "hedge_exchange"]

def candidateExchanges (runtimeSpec : Dict) : List String :=
  (namedExchanges runtimeSpec).foldl addExchange []

theorem mem_foldl_addExchange {exchange : String} {exchanges : List String} {values : List Json} :
    exchange ∈ values.foldl addExchange exchanges ↔
      exchange ∈ exchanges ∨
        exchange ≠ "" ∧ ∃ value ∈ values, normalizedExchange value = exchange := by
  induction values generalizing exchanges with
  | nil => simp
  | cons value rest ih =>
      rw [List.foldl_cons, ih, List.exists_mem_cons_iff]
      have hadd : exchange ∈ addExchange exchanges value ↔
          exchange ∈ exchanges ∨ exchange ≠ "" ∧ normalizedExchange value = exchange := by
        unfold addExchange
        dsimp only
        split_ifs with hskip
        · refine ⟨Or.inl, ?_⟩
          rintro (hmem | ⟨hne, rfl⟩)
          · exact hmem
          · exact hskip.resolve_left hne
        · rw [List.mem_append, List.mem_singleton, eq_comm (a := exchange)]
          refine or_congr_right ⟨?_, And.right⟩
          rintro rfl
          exact ⟨fun hempty => hskip (Or.inl hempty), rfl⟩
      rw [hadd, or_assoc, ← and_or_left]

theorem mem_candidateExchanges {exchange : String} {runtimeSpec : Dict} :
    exchange ∈ candidateExchanges runtimeSpec ↔
      exchange ≠ "" ∧
        ∃ value ∈ namedExchanges runtimeSpec, normalizedExchange value = exchange := by
  unfold candidateExchanges
  rw [mem_foldl_addExchange]
  simp only [List.not_mem_nil, false_or]

theorem side_mem_candidateExchanges {runtimeSpec : Dict} {key : String}
    (hkey : key = "base_exchange" ∨ key = "hedge_exchange")
    (hnamed : normalizedExchange (runtimeSpec.get key) ≠ "") :
    normalizedExchange (runtimeSpec.get key) ∈ candidateExchanges runtimeSpec := by
  refine mem_candidateExchanges.mpr ⟨hnamed, runtimeSpec.get key, ?_, rfl⟩
  unfold namedExchanges
  rcases hkey with rfl | rfl <;> simp

/-- A configuration a run can be evaluated on. -/
structure RuntimeSpec where
  fields : Dict
  canonicalSymbol : String
  market : String
  baseAsset : String
  quoteAsset : String
  exchanges : List String
  riskConfig : Dict
  runtimeState : Dict
  exchanges_eq : exchanges = candidateExchanges fields
  two_le_length : 2 ≤ exchanges.length
  market_eq : market = Text.strip (fields.get "market").textOrEmpty
  market_ne : market ≠ ""

def requiredText (runtimeSpec : Dict) (key : String) : String :=
  Text.strip (runtimeSpec.get key).textOrEmpty

def requiredTexts : List String := ["canonical_symbol", "market", "base_asset", "quote_asset"]

def missingFields (runtimeSpec : Dict) : List String :=
  (requiredTexts.filter fun key => requiredText runtimeSpec key = "") ++
    if (candidateExchanges runtimeSpec).length < 2 then ["candidate_exchanges"] else []

/-- The text is there when no field is missing. -/
theorem requiredText_ne_of_missing {runtimeSpec : Dict} (hmissing : missingFields runtimeSpec = [])
    {key : String} (hkey : key ∈ requiredTexts) : requiredText runtimeSpec key ≠ "" := by
  have hnil := List.filter_eq_nil_iff.mp (List.append_eq_nil_iff.mp hmissing).1 key hkey
  simpa using hnil

theorem two_le_of_missing {runtimeSpec : Dict} (hmissing : missingFields runtimeSpec = []) :
    2 ≤ (candidateExchanges runtimeSpec).length := by
  have hnil := (List.append_eq_nil_iff.mp hmissing).2
  by_contra hfew
  rw [if_pos (by omega)] at hnil
  cases hnil

/-- Check the configuration of a run. -/
def acceptRuntimeSpec (configJson : Json) : Except Skip RuntimeSpec :=
  match configJson with
  | .obj config =>
      match Dict.get config "arbitrage_runtime" with
      | .obj runtimeSpec =>
          match Dict.get runtimeSpec "enabled" with
          | .bool false => .error ⟨"RUNTIME_DISABLED", "arbitrage runtime is disabled by config"⟩
          | _ =>
            if hmissing : missingFields runtimeSpec = [] then
              let runtimeState := (Dict.get runtimeSpec "runtime_state").orElse (.obj [])
              match objectOf (Dict.get runtimeSpec "risk_config"), objectOf runtimeState with
              | none, _ => .error ⟨"RUNTIME_INPUTS_INVALID", "risk_config must be an object"⟩
              | some _, none => .error ⟨"RUNTIME_INPUTS_INVALID", "runtime_state must be an object"⟩
              | some riskConfig, some runtimeState =>
                  .ok
                    { fields := runtimeSpec
                      canonicalSymbol := requiredText runtimeSpec "canonical_symbol"
                      market := requiredText runtimeSpec "market"
                      baseAsset := requiredText runtimeSpec "base_asset"
                      quoteAsset := requiredText runtimeSpec "quote_asset"
                      exchanges := candidateExchanges runtimeSpec
                      riskConfig := riskConfig
                      runtimeState := runtimeState
                      exchanges_eq := rfl
                      two_le_length := two_le_of_missing hmissing
                      market_eq := rfl
                      market_ne := requiredText_ne_of_missing hmissing (by decide) }
            else .error ⟨"RUNTIME_INPUTS_INVALID",
              "missing required fields: " ++ Text.join ", " (missingFields runtimeSpec)⟩
      | _ => .error ⟨"RUNTIME_INPUTS_MISSING", "config_json.arbitrage_runtime is required"⟩
  | _ => .error ⟨"CONFIG_INVALID", "config_json must be an object"⟩

/-- The bot of a run and the configuration the run is evaluated on. -/
def loadRuntimeSpec (getBotDetail : String → Except HostError (Option BotDetail))
    (listConfigVersions : String → Except HostError (List ConfigVersion)) (run : StrategyRun) :
    Except HostError (Except Skip (BotDetail × RuntimeSpec)) :=
  if Text.strip run.botId = "" then
    .ok (.error ⟨"BOT_NOT_FOUND", "strategy run is missing bot_id"⟩)
  else do
    match ← getBotDetail (Text.strip run.botId) with
    | none => return .error ⟨"BOT_NOT_FOUND", "bot detail not found"⟩
    | some bot =>
      match ← assignedConfigVersion listConfigVersions bot with
      | none => return .error ⟨"CONFIG_NOT_FOUND", "assigned config version not found"⟩
      | some version => return (acceptRuntimeSpec version.configJson).map fun spec => (bot, spec)

end Configuration

section Snapshots

/-- A field that has to be there. -/
def keyed (fields : Dict) (key : String) : Except HostError Json :=
  HostError.ofText (requiredField fields key)

def LoaderSources.redisSnapshot (sources : LoaderSources) (exchange market : String) :
    Except HostError (Option Dict) :=
  match sources.redisOrderbookTop with
  | none => .ok none
  | some redisOrderbookTop => redisOrderbookTop exchange market

def cachedOrderbookSnapshot (sources : LoaderSources) (exchange market : String) :
    Except HostError (Option Dict) := do
  let connectorSnapshot ← sources.connectorOrderbookTop exchange market
  let redisSnapshot ← sources.redisSnapshot exchange market
  newerSnapshot connectorSnapshot redisSnapshot sources.isoNow

/-- A level with its texts; a level without price or quantity is dropped. -/
def snapshotLevel : Json → Option Json
  | .obj level =>
      match Dict.get level "price", Dict.get level "quantity" with
      | .null, _ | _, .null => none
      | price, quantity =>
          some (.obj [("price", .str price.toText), ("quantity", .str quantity.toText)])
  | _ => none

def usableLevels (snapshot : Dict) (side : String) : List Json :=
  match snapshot.get side with
  | .arr levels => levels.filterMap snapshotLevel
  | _ => []

/-- The levels of a side, or its best price and volume when there are none. -/
def snapshotLevels (snapshot : Dict) (side fallbackPriceKey fallbackQuantityKey : String) :
    Except HostError Json :=
  match usableLevels snapshot side with
  | [] => do
      let price ← keyed snapshot fallbackPriceKey
      let quantity ← keyed snapshot fallbackQuantityKey
      return .arr [.obj [("price", .str price.toText), ("quantity", .str quantity.toText)]]
  | levels => .ok (.arr levels)

def snapshotOrderbook (isoNow : String) (snapshot : Dict) : Except HostError Dict := do
  let (observedAt, observedAtSource) ← chooseFreshnessObservedAt snapshot isoNow
  let exchangeName ← keyed snapshot "exchange"
  let market ← keyed snapshot "market"
  let asks ← snapshotLevels snapshot "asks" "best_ask" "ask_volume"
  let bids ← snapshotLevels snapshot "bids" "best_bid" "bid_volume"
  return [("exchange_name", .str exchangeName.toText), ("market", .str market.toText),
    ("observed_at", .str observedAt), ("observed_at_source", .str observedAtSource),
    ("exchange_timestamp", snapshot.get "exchange_timestamp"),
    ("received_at", snapshot.get "received_at"),
    ("exchange_age_ms", snapshot.get "exchange_age_ms"),
    ("source_type", snapshot.get "source_type"), ("stale", snapshot.get "stale"),
    ("freshness_observed_at", .str observedAt),
    ("freshness_observed_at_source", .str observedAtSource), ("asks", asks), ("bids", bids),
    ("connector_healthy",
      .bool (optionalField snapshot "connector_healthy" (.bool true)).truthy)]

end Snapshots

section Loading

def activeIntentStatuses : List String := ["created", "submitted"]

def activeOrderStatuses : List String := ["created", "submitted", "new", "open", "partially_filled"]

/-- The cap as an integer; a false value counts as zero. -/
def loadOpenOrderCap (runtimeState : Dict) : Except HostError Int :=
  let cap := optionalField runtimeState "open_order_cap" (.int 0)
  if cap.truthy then HostError.ofText (loadInt cap) else .ok 0

def runtimeDefaults (sources : LoaderSources) (bot : BotDetail) (run : StrategyRun)
    (runtimeState : Dict) : Except HostError Dict := do
  let intents ← sources.listOrderIntents run.runId
  let orders ← sources.listOrders run.runId
  let cap ← loadOpenOrderCap runtimeState
  return [("now", .str sources.isoNow),
    ("open_order_count", .int (orders.filter (·.status ∈ activeOrderStatuses)).length),
    ("open_order_cap", .int cap),
    ("unwind_in_progress",
      .bool (optionalField runtimeState "unwind_in_progress" (.bool false)).truthy),
    ("connector_private_healthy",
      .bool (optionalField runtimeState "connector_private_healthy"
        (.bool (bot.latestHeartbeat.getD true))).truthy),
    ("duplicate_intent_active", .bool (intents.any (·.status ∈ activeIntentStatuses))),
    ("recent_unwind_at", runtimeState.get "recent_unwind_at"),
    ("remaining_bot_notional", runtimeState.get "remaining_bot_notional"),
    ("bot_id", .str run.botId), ("strategy_run_id", .str run.runId)]

/-- The exchange that is named, or a candidate where none is. -/
def primaryExchange (spec : RuntimeSpec) (key : String) (index : Nat) : String :=
  let named := normalizedExchange (spec.fields.get key)
  if named = "" then spec.exchanges.getD index "" else named

def dictOfObjects (entries : List (String × Dict)) : Dict :=
  entries.map fun entry => (entry.1, .obj entry.2)

/-- The payload of an accepted configuration with its books and balances. -/
def runtimePayload (sources : LoaderSources) (bot : BotDetail) (run : StrategyRun)
    (spec : RuntimeSpec) (orderbooks : List (String × Dict)) (balances : BalanceSnapshots) :
    Except HostError Dict := do
  let base := primaryExchange spec "base_exchange" 0
  let hedge := primaryExchange spec "hedge_exchange" 1
  let baseOrderbook ← keyed (dictOfObjects orderbooks) base
  let hedgeOrderbook ← keyed (dictOfObjects orderbooks) hedge
  let baseBalance ← keyed (dictOfObjects balances.byExchange) base
  let hedgeBalance ← keyed (dictOfObjects balances.byExchange) hedge
  let runtimeState ← runtimeDefaults sources bot run spec.runtimeState
  return [("bot_id", .str (Text.strip run.botId)), ("strategy_run_id", .str run.runId),
    ("canonical_symbol", .str spec.canonicalSymbol), ("market", .str spec.market),
    ("candidate_exchanges", .arr (spec.exchanges.map .str)),
    ("orderbooks_by_exchange", .obj (dictOfObjects orderbooks)),
    ("balances_by_exchange", .obj (dictOfObjects balances.byExchange)),
    ("base_exchange", .str base), ("hedge_exchange", .str hedge),
    ("base_orderbook", baseOrderbook), ("hedge_orderbook", hedgeOrderbook),
    ("base_balance", baseBalance), ("hedge_balance", hedgeBalance),
    ("risk_config", .obj spec.riskConfig), ("runtime_state", .obj runtimeState),
    ("balance_sources_by_exchange",
      .obj (balances.sourceByExchange.map fun entry => (entry.1, .str entry.2)))]

/-- Go on with the cached books of the candidates. -/
def loadBookedInputs (sources : LoaderSources) (bot : BotDetail) (run : StrategyRun)
    (spec : RuntimeSpec) (books : List (String × Dict)) : Except HostError LoadResult := do
  let orderbooks ← books.mapM fun entry => do
    return (entry.1, ← snapshotOrderbook sources.isoNow entry.2)
  match ← loadBalanceSnapshots spec.fields spec.exchanges spec.baseAsset spec.quoteAsset run.mode
      bot.mode sources.isoNow sources.privateConnectors with
  | .error skip => return .skipped skip
  | .ok balances => return .payload (← runtimePayload sources bot run spec orderbooks balances)

/-- Read the cached books of the candidates and go on when none is missing. -/
def loadRuntimeInputs (sources : LoaderSources) (bot : BotDetail) (run : StrategyRun)
    (spec : RuntimeSpec) : Except HostError LoadResult := do
  let snapshots ← spec.exchanges.mapM fun exchange => do
    return (exchange, ← cachedOrderbookSnapshot sources exchange spec.market)
  match (snapshots.filter fun entry => entry.2.isNone).map Prod.fst with
  | [] =>
      loadBookedInputs sources bot run spec
        (snapshots.map fun entry => (entry.1, entry.2.getD []))
  | missing => return .skipped ⟨"MARKET_SNAPSHOT_NOT_FOUND",
      "cached orderbook snapshot not found for: " ++ Text.join ", " missing⟩

def loadArbitrageRuntimePayload (sources : LoaderSources) (run : StrategyRun) :
    Except HostError LoadResult := do
  match ← loadRuntimeSpec sources.getBotDetail sources.listConfigVersions run with
  | .error skip => return .skipped skip
  | .ok (bot, spec) => loadRuntimeInputs sources bot run spec

end Loading

section Raising

variable {sources : LoaderSources} {bot : BotDetail} {run : StrategyRun} {spec : RuntimeSpec}

theorem raises_keyed_iff {fields : Dict} {key : String} :
    Raises (keyed fields key) ↔ fields.get? key = none := by
  unfold keyed requiredField
  rw [raises_ofText]
  cases fields.get? key with
  | none => exact iff_of_true ⟨_, rfl⟩ rfl
  | some value => exact iff_of_false nofun nofun

/-- A side with neither a usable level nor a best price with its volume. -/
def LacksSide (snapshot : Dict) (side priceKey quantityKey : String) : Prop :=
  usableLevels snapshot side = [] ∧
    (snapshot.get? priceKey = none ∨ snapshot.get? quantityKey = none)

/-- A snapshot that cannot be dated or lacks a field it is read for. -/
def Malformed (snapshot : Dict) : Prop :=
  Undatable snapshot ∨ snapshot.get? "exchange" = none ∨ snapshot.get? "market" = none ∨
    LacksSide snapshot "asks" "best_ask" "ask_volume" ∨
      LacksSide snapshot "bids" "best_bid" "bid_volume"

theorem raises_snapshotLevels_iff {snapshot : Dict} {side priceKey quantityKey : String} :
    Raises (snapshotLevels snapshot side priceKey quantityKey) ↔
      LacksSide snapshot side priceKey quantityKey := by
  unfold snapshotLevels LacksSide
  cases usableLevels snapshot side with
  | nil =>
      simp only [true_and]
      rw [raises_bind_iff_or fun price => raises_bind_pure_iff, raises_keyed_iff, raises_keyed_iff]
  | cons level rest => simp

theorem raises_snapshotOrderbook_iff {isoNow : String} {snapshot : Dict} :
    Raises (snapshotOrderbook isoNow snapshot) ↔ Malformed snapshot := by
  unfold snapshotOrderbook Malformed
  rw [raises_bind_iff_or, raises_chooseFreshnessObservedAt_iff]
  intro observedAt
  rw [raises_bind_iff_or, raises_keyed_iff]
  intro exchangeName
  rw [raises_bind_iff_or, raises_keyed_iff]
  intro market
  rw [raises_bind_iff_or, raises_snapshotLevels_iff]
  intro asks
  rw [raises_bind_pure_iff, raises_snapshotLevels_iff]

/-- A cache raises, or gives snapshots that cannot be compared. -/
def CacheRaises (sources : LoaderSources) (exchange market : String) : Prop :=
  Raises (sources.connectorOrderbookTop exchange market) ∨
    ∃ left, sources.connectorOrderbookTop exchange market = .ok left ∧
      (Raises (sources.redisSnapshot exchange market) ∨
        ∃ right, sources.redisSnapshot exchange market = .ok right ∧
          ((∃ fields ∈ left, Undatable fields) ∨ ∃ fields ∈ right, Undatable fields))

theorem raises_cachedOrderbookSnapshot_iff {exchange market : String} :
    Raises (cachedOrderbookSnapshot sources exchange market) ↔
      CacheRaises sources exchange market := by
  unfold cachedOrderbookSnapshot CacheRaises
  simp only [raises_bind_iff, raises_newerSnapshot_iff]

/-- A cap that is given but is no integer. -/
def BadCap (runtimeState : Dict) : Prop :=
  (optionalField runtimeState "open_order_cap" (.int 0)).truthy = true ∧
    Raises (loadInt (optionalField runtimeState "open_order_cap" (.int 0)))

theorem raises_loadOpenOrderCap_iff {runtimeState : Dict} :
    Raises (loadOpenOrderCap runtimeState) ↔ BadCap runtimeState := by
  unfold loadOpenOrderCap BadCap
  dsimp only
  split_ifs with htruthy <;> simp [htruthy]

/-- The store raises when it is asked for the run, or the cap is bad. -/
def DefaultsRaise (sources : LoaderSources) (run : StrategyRun) (runtimeState : Dict) : Prop :=
  Raises (sources.listOrderIntents run.runId) ∨ Raises (sources.listOrders run.runId) ∨
    BadCap runtimeState

theorem raises_runtimeDefaults_iff {runtimeState : Dict} :
    Raises (runtimeDefaults sources bot run runtimeState) ↔
      DefaultsRaise sources run runtimeState := by
  unfold runtimeDefaults DefaultsRaise
  rw [raises_bind_iff_or]
  intro intents
  rw [raises_bind_iff_or]
  intro orders
  rw [raises_bind_pure_iff, raises_loadOpenOrderCap_iff]

/-- The base and the hedge exchange are candidates. -/
theorem primaryExchange_mem {key : String} {index : Nat}
    (hkey : key = "base_exchange" ∨ key = "hedge_exchange") (hindex : index < 2) :
    primaryExchange spec key index ∈ spec.exchanges := by
  have htwo := spec.two_le_length
  unfold primaryExchange
  dsimp only
  split_ifs with hnamed
  · rw [List.getD_eq_getElem?_getD, List.getElem?_eq_getElem (by omega), Option.getD_some]
    exact List.getElem_mem _
  · rw [spec.exchanges_eq]
    exact side_mem_candidateExchanges hkey hnamed

theorem not_raises_keyed_dictOfObjects {entries : List (String × Dict)} {key : String}
    (hkey : key ∈ entries.map Prod.fst) : ¬ Raises (keyed (dictOfObjects entries) key) := by
  rw [raises_keyed_iff]
  induction entries with
  | nil => cases hkey
  | cons entry rest ih =>
      rw [dictOfObjects, List.map_cons, Dict.get?_cons]
      split_ifs with heq
      · exact nofun
      · exact ih ((List.mem_cons.mp hkey).resolve_left heq)

theorem raises_runtimePayload_iff {orderbooks : List (String × Dict)} {balances : BalanceSnapshots}
    (horderbooks : ∀ exchange ∈ spec.exchanges, exchange ∈ orderbooks.map Prod.fst)
    (hbalances : ∀ exchange ∈ spec.exchanges, exchange ∈ balances.byExchange.map Prod.fst) :
    Raises (runtimePayload sources bot run spec orderbooks balances) ↔
      DefaultsRaise sources run spec.runtimeState := by
  have hbase : primaryExchange spec "base_exchange" 0 ∈ spec.exchanges :=
    primaryExchange_mem (Or.inl rfl) (by omega)
  have hhedge : primaryExchange spec "hedge_exchange" 1 ∈ spec.exchanges :=
    primaryExchange_mem (Or.inr rfl) (by omega)
  have hskip : ∀ {entries : List (String × Dict)} {exchange : String}
      {rest : Json → Except HostError Dict}, exchange ∈ entries.map Prod.fst →
      (∀ value, Raises (rest value) ↔ DefaultsRaise sources run spec.runtimeState) →
      (Raises (keyed (dictOfObjects entries) exchange >>= rest) ↔
        DefaultsRaise sources run spec.runtimeState) := by
    intro entries exchange rest hmem hrest
    rw [raises_bind_iff_or hrest, or_iff_right (not_raises_keyed_dictOfObjects hmem)]
  unfold runtimePayload
  refine hskip (horderbooks _ hbase) fun _ => hskip (horderbooks _ hhedge) fun _ => ?_
  refine hskip (hbalances _ hbase) fun _ => hskip (hbalances _ hhedge) fun _ => ?_
  rw [raises_bind_pure_iff, raises_runtimeDefaults_iff]

/-- How going on with books raises: a book is malformed, a connector raises, or the
store or the cap does once the balances are there. -/
def BookedInputsRaise (sources : LoaderSources) (bot : BotDetail) (run : StrategyRun)
    (spec : RuntimeSpec) (books : List (String × Dict)) : Prop :=
  (∃ entry ∈ books, Malformed entry.2) ∨
    (AsksConnectors spec.fields run.mode bot.mode ∧ ∃ connectors ∈ sources.privateConnectors,
      BalancesRaise connectors spec.baseAsset spec.quoteAsset sources.isoNow spec.exchanges) ∨
    (∃ balances, loadBalanceSnapshots spec.fields spec.exchanges spec.baseAsset spec.quoteAsset
      run.mode bot.mode sources.isoNow sources.privateConnectors = .ok (.ok balances)) ∧
      DefaultsRaise sources run spec.runtimeState

theorem raises_loadBookedInputs_iff {books : List (String × Dict)}
    (hbooks : books.map Prod.fst = spec.exchanges) :
    Raises (loadBookedInputs sources bot run spec books) ↔
      BookedInputsRaise sources bot run spec books := by
  unfold loadBookedInputs BookedInputsRaise
  have hmalformed : Raises (books.mapM fun entry => do
      return (entry.1, ← snapshotOrderbook sources.isoNow entry.2)) ↔
      ∃ entry ∈ books, Malformed entry.2 := by
    simp only [raises_mapM_iff, raises_bind_pure_iff, raises_snapshotOrderbook_iff]
  rw [raises_bind_iff, hmalformed]
  refine or_congr_right' fun hwell => ?_
  obtain ⟨orderbooks, horderbooks⟩ := not_raises_iff.mp (mt hmalformed.mp hwell)
  have hkeys : orderbooks.map Prod.fst = spec.exchanges := by
    rw [← hbooks]
    refine map_of_mapM_eq_ok (fun entry read hread => ?_) horderbooks
    obtain ⟨orderbook, -, hok⟩ := bind_eq_ok_iff.mp hread
    rw [← Except.ok.inj hok]
  simp only [horderbooks, Except.ok.injEq, exists_eq_left']
  rw [raises_bind_iff, raises_loadBalanceSnapshots_iff]
  refine or_congr_right ?_
  constructor
  · rintro ⟨loaded, hloaded, hraises⟩
    cases loaded with
    | error skip => exact absurd hraises (not_raises_pure _)
    | ok balances =>
        refine ⟨⟨balances, hloaded⟩, ?_⟩
        rwa [raises_bind_pure_iff, raises_runtimePayload_iff] at hraises
        · exact fun exchange hmem => hkeys ▸ hmem
        · exact mem_keys_loadBalanceSnapshots hloaded
  · rintro ⟨⟨balances, hloaded⟩, hraises⟩
    refine ⟨.ok balances, hloaded, ?_⟩
    rw [raises_bind_pure_iff, raises_runtimePayload_iff]
    · exact hraises
    · exact fun exchange hmem => hkeys ▸ hmem
    · exact mem_keys_loadBalanceSnapshots hloaded

/-- Every candidate has a cached book. -/
def AllCached (sources : LoaderSources) (spec : RuntimeSpec) (book : String → Dict) : Prop :=
  ∀ exchange ∈ spec.exchanges,
    cachedOrderbookSnapshot sources exchange spec.market = .ok (some (book exchange))

/-- How loading an accepted configuration raises: a cache does, or every candidate
has a cached book and going on with them does. -/
def InputsRaise (sources : LoaderSources) (bot : BotDetail) (run : StrategyRun)
    (spec : RuntimeSpec) : Prop :=
  (∃ exchange ∈ spec.exchanges, CacheRaises sources exchange spec.market) ∨
    ∃ book, AllCached sources spec book ∧ BookedInputsRaise sources bot run spec
      (spec.exchanges.map fun exchange => (exchange, book exchange))

theorem raises_loadRuntimeInputs_iff :
    Raises (loadRuntimeInputs sources bot run spec) ↔ InputsRaise sources bot run spec := by
  have hcaches : Raises (spec.exchanges.mapM fun exchange => do
      return (exchange, ← cachedOrderbookSnapshot sources exchange spec.market)) ↔
      ∃ exchange ∈ spec.exchanges, CacheRaises sources exchange spec.market := by
    simp only [raises_mapM_iff, raises_bind_pure_iff, raises_cachedOrderbookSnapshot_iff]
  unfold loadRuntimeInputs InputsRaise
  rw [raises_bind_iff, hcaches]
  -- no cache raises: every exchange has an answer, a book or none
  refine or_congr_right' fun hanswer => ?_
  obtain ⟨cached, hcached⟩ : ∃ cached : String → Option Dict, ∀ exchange ∈ spec.exchanges,
      cachedOrderbookSnapshot sources exchange spec.market = .ok (cached exchange) := by
    have hone : ∀ exchange, ∃ snapshot, exchange ∈ spec.exchanges →
        cachedOrderbookSnapshot sources exchange spec.market = .ok snapshot := by
      intro exchange
      by_cases hmem : exchange ∈ spec.exchanges
      · have hnot : ¬ Raises (cachedOrderbookSnapshot sources exchange spec.market) := by
          intro hraises
          exact hanswer ⟨exchange, hmem, raises_cachedOrderbookSnapshot_iff.mp hraises⟩
        obtain ⟨snapshot, hsnapshot⟩ := not_raises_iff.mp hnot
        exact ⟨snapshot, fun _ => hsnapshot⟩
      · exact ⟨none, fun hin => absurd hin hmem⟩
    choose cached hcached using hone
    exact ⟨cached, hcached⟩
  have hsnapshots : (spec.exchanges.mapM fun exchange => do
      return (exchange, ← cachedOrderbookSnapshot sources exchange spec.market)) =
      .ok (spec.exchanges.map fun exchange => (exchange, cached exchange)) := by
    refine mapM_eq_ok_map fun exchange hmem => ?_
    rw [hcached exchange hmem]
    rfl
  simp only [hsnapshots, Except.ok.injEq, exists_eq_left']
  -- with a book missing the inputs are refused, and nothing more is read
  by_cases hall : ∀ exchange ∈ spec.exchanges, cached exchange ≠ none
  · have hnone : ((spec.exchanges.map fun exchange => (exchange, cached exchange)).filter
        fun entry => entry.2.isNone).map Prod.fst = [] := by
      rw [List.map_eq_nil_iff, List.filter_eq_nil_iff]
      intro entry hentry
      obtain ⟨exchange, hmem, rfl⟩ := List.mem_map.mp hentry
      simpa using hall exchange hmem
    have hbook : AllCached sources spec fun exchange => (cached exchange).getD [] := by
      intro exchange hmem
      obtain ⟨snapshot, hsnapshot⟩ := Option.ne_none_iff_exists'.mp (hall exchange hmem)
      simp only [hcached exchange hmem, hsnapshot, Option.getD_some]
    rw [hnone]
    dsimp only
    rw [List.map_map, raises_loadBookedInputs_iff (by simp [Function.comp_def])]
    constructor
    · exact fun hraises => ⟨_, hbook, hraises⟩
    · rintro ⟨book, hcachedBook, hraises⟩
      have hsame : (spec.exchanges.map fun exchange => (exchange, book exchange)) =
          spec.exchanges.map ((fun entry => (entry.1, entry.2.getD [])) ∘
            fun exchange => (exchange, cached exchange)) := by
        refine List.map_congr_left fun exchange hmem => ?_
        have hbooks := (hbook exchange hmem).symm.trans (hcachedBook exchange hmem)
        rw [Function.comp_apply, ← Option.some.inj (Except.ok.inj hbooks)]
      rwa [← hsame]
  · refine iff_of_false ?_ ?_
    · split
      · next hnone =>
          refine absurd ?_ hall
          intro exchange hmem
          rw [List.map_eq_nil_iff, List.filter_eq_nil_iff] at hnone
          have hsome := hnone (exchange, cached exchange) (List.mem_map_of_mem hmem)
          simpa using hsome
      · exact not_raises_pure _
    · rintro ⟨book, hbook, -⟩
      refine hall fun exchange hmem => ?_
      rw [Except.ok.inj ((hcached exchange hmem).symm.trans (hbook exchange hmem))]
      exact Option.some_ne_none _

/-- The store raises when it is asked for the bot of a run or for its configurations. -/
def ConfigRaises (sources : LoaderSources) (run : StrategyRun) : Prop :=
  Text.strip run.botId ≠ "" ∧
    (Raises (sources.getBotDetail (Text.strip run.botId)) ∨
      ∃ bot, sources.getBotDetail (Text.strip run.botId) = .ok (some bot) ∧
        ∃ assigned ∈ bot.assignedConfigVersion, Text.strip assigned.1 ≠ "" ∧
          Raises (sources.listConfigVersions (Text.strip assigned.1)))

theorem raises_loadRuntimeSpec_iff :
    Raises (loadRuntimeSpec sources.getBotDetail sources.listConfigVersions run) ↔
      ConfigRaises sources run := by
  unfold loadRuntimeSpec ConfigRaises
  split_ifs with hblank
  · simp [hblank]
  · simp only [ne_eq, hblank, not_false_eq_true, true_and]
    rw [raises_bind_iff]
    refine or_congr_right ⟨?_, ?_⟩
    · rintro ⟨found, hfound, hraises⟩
      cases found with
      | none => exact absurd hraises (not_raises_pure _)
      | some bot =>
          refine ⟨bot, hfound, ?_⟩
          rcases raises_bind_iff.mp hraises with hversion | ⟨version, -, hraises⟩
          · unfold assignedConfigVersion at hversion
            cases hassigned : bot.assignedConfigVersion with
            | none => simp [hassigned] at hversion
            | some assigned =>
                simp only [hassigned] at hversion
                split_ifs at hversion with hscope
                · exact absurd hversion (not_raises_ok _)
                · exact ⟨assigned, rfl, hscope, raises_bind_pure_iff.mp hversion⟩
          · cases version <;> exact absurd hraises (not_raises_pure _)
    · rintro ⟨bot, hbot, assigned, hassigned, hscope, hraises⟩
      refine ⟨some bot, hbot, raises_bind_iff.mpr (Or.inl ?_)⟩
      unfold assignedConfigVersion
      rw [Option.mem_def.mp hassigned]
      simp only [if_neg hscope]
      exact raises_bind_pure_iff.mpr hraises

/-- How loading a run raises: the store does when it is asked for the configuration, or
loading the accepted configuration does. -/
def LoadRaises (sources : LoaderSources) (run : StrategyRun) : Prop :=
  ConfigRaises sources run ∨
    ∃ bot spec, loadRuntimeSpec sources.getBotDetail sources.listConfigVersions run =
      .ok (.ok (bot, spec)) ∧ InputsRaise sources bot run spec

theorem raises_loadArbitrageRuntimePayload_iff :
    Raises (loadArbitrageRuntimePayload sources run) ↔ LoadRaises sources run := by
  unfold loadArbitrageRuntimePayload LoadRaises
  rw [raises_bind_iff, raises_loadRuntimeSpec_iff]
  refine or_congr_right ⟨?_, ?_⟩
  · rintro ⟨loaded, hloaded, hraises⟩
    cases loaded with
    | error skip => exact absurd hraises (not_raises_pure _)
    | ok both => exact ⟨both.1, both.2, hloaded, raises_loadRuntimeInputs_iff.mp hraises⟩
  · rintro ⟨bot, spec, hloaded, hraises⟩
    exact ⟨_, hloaded, raises_loadRuntimeInputs_iff.mpr hraises⟩

/-- The state that is loaded counts the open orders. -/
theorem openOrderCount_of_runtimePayload {orderbooks : List (String × Dict)}
    {balances : BalanceSnapshots} {fields : Dict}
    (hload : runtimePayload sources bot run spec orderbooks balances = .ok fields) :
    ∃ state count, fields.get "runtime_state" = .obj state ∧
      optionalField state "open_order_count" (.int 0) = .int count := by
  unfold runtimePayload at hload
  obtain ⟨_, -, hload⟩ := bind_eq_ok_iff.mp hload
  obtain ⟨_, -, hload⟩ := bind_eq_ok_iff.mp hload
  obtain ⟨_, -, hload⟩ := bind_eq_ok_iff.mp hload
  obtain ⟨_, -, hload⟩ := bind_eq_ok_iff.mp hload
  obtain ⟨state, hstate, hfields⟩ := bind_eq_ok_iff.mp hload
  unfold runtimeDefaults at hstate
  obtain ⟨_, -, hstate⟩ := bind_eq_ok_iff.mp hstate
  obtain ⟨orders, -, hstate⟩ := bind_eq_ok_iff.mp hstate
  obtain ⟨_, -, hstate⟩ := bind_eq_ok_iff.mp hstate
  refine ⟨state, (orders.filter (·.status ∈ activeOrderStatuses)).length, ?_, ?_⟩
  · rw [← Except.ok.inj hfields]
    rfl
  · rw [← Except.ok.inj hstate]
    rfl

theorem exists_runtimePayload_of_load {fields : Dict}
    (hload : loadArbitrageRuntimePayload sources run = .ok (.payload fields)) :
    ∃ bot spec orderbooks balances,
      runtimePayload sources bot run spec orderbooks balances = .ok fields := by
  unfold loadArbitrageRuntimePayload at hload
  obtain ⟨loaded, -, hload⟩ := bind_eq_ok_iff.mp hload
  cases loaded with
  | error skip => cases hload
  | ok both =>
      unfold loadRuntimeInputs at hload
      obtain ⟨snapshots, -, hload⟩ := bind_eq_ok_iff.mp hload
      split at hload
      · unfold loadBookedInputs at hload
        obtain ⟨orderbooks, -, hload⟩ := bind_eq_ok_iff.mp hload
        obtain ⟨found, -, hload⟩ := bind_eq_ok_iff.mp hload
        cases found with
        | error skip => cases hload
        | ok balances =>
            obtain ⟨payload, hpayload, hfields⟩ := bind_eq_ok_iff.mp hload
            obtain rfl := LoadResult.payload.inj (Except.ok.inj hfields)
            exact ⟨both.1, both.2, orderbooks, balances, hpayload⟩
      · cases hload

end Raising

section PairRuns

/-- A run on upbit and bithumb. -/
def pairRun (runId : String) : StrategyRun :=
  ⟨runId, "bot", "arbitrage", "shadow", "running", "2024-01-01T00:00:00Z", none, none, 0⟩

/-- Its configuration, with balances at some exchanges and further fields. -/
def pairSpec (exchanges : List String) (further : Dict) : Dict :=
  let balances : Json := .obj [("available_base", .str "1"), ("available_quote", .str "1000")]
  [("canonical_symbol", .str "XRP"), ("market", .str "KRW-XRP"), ("base_asset", .str "XRP"),
    ("quote_asset", .str "KRW"), ("base_exchange", .str "upbit"),
    ("hedge_exchange", .str "bithumb"),
    ("exchange_balances", .obj (exchanges.map fun exchange => (exchange, balances))),
    ("risk_config", .obj [])] ++ further

/-- A store with a configuration, and a book of every exchange in the cache. -/
def pairSources (spec : Dict) : LoaderSources where
  getBotDetail _ := .ok (some { assignedConfigVersion := some ("arbitrage", 1) })
  listConfigVersions _ := .ok [⟨1, .obj [("arbitrage_runtime", .obj spec)]⟩]
  connectorOrderbookTop exchange market := .ok (some
    [("exchange", .str exchange), ("market", .str market), ("best_bid", .str "100"),
      ("bid_volume", .str "1"), ("best_ask", .str "101"), ("ask_volume", .str "1"),
      ("received_at", .str "2024-01-01T00:00:00Z")])
  redisOrderbookTop := none
  privateConnectors := none
  listOrderIntents _ := .ok []
  listOrders _ := .ok []
  isoNow := "2024-01-01T00:00:00Z"

end PairRuns

end TradingPlatform.Strategy

import TradingPlatform.Routes.OrderWrite
import TradingPlatform.Runtime.PlannedIntents
import TradingPlatform.Strategy.LoadResults

/-! # Evaluating a strategy on request

A request brings its own books, balances and limits for two named exchanges; what
it leaves out is filled in. The decision is answered, and persisted and executed
when the request asks for it. Redis and the event streams are left out.
-/

namespace TradingPlatform.Routes

open Storage Strategy TradingPlatform.Runtime

structure EvaluationSettings where
  ctx : DecimalContext
  print : ℚ → Numeral
  nowIso : String
  executionEnabled : Bool
  /-- The store once an intent of a decision is executed. -/
  execute : ReportedDecision → OrderIntent → MemoryStore → MemoryStore

/-- What a body asks to have evaluated. -/
structure EvaluationRequest where
  canonicalSymbol : String
  market : String
  baseExchange : String
  hedgeExchange : String
  baseOrderbook : Dict
  hedgeOrderbook : Dict
  baseBalance : Dict
  hedgeBalance : Dict
  riskConfig : Dict
  runtimeState : Dict
  persistIntent : Bool
  execute : Bool

section Requests

variable (settings : EvaluationSettings) (body : Dict)

def jsonBool : Json → Option Bool
  | .bool b => some b
  | _ => none

/-- The required objects that are missing, in their order. -/
def missingObjects (keys : List String) : List String :=
  keys.filter fun key => (optionalObject (body.get key)).isNone

/-- A required text of a body. -/
def bodyText (key : String) : String := (jsonString (body.get key)).getD ""

def evaluationRequest : Except RouteError EvaluationRequest := do
  let persistIntent := jsonBool (body.get "persist_intent")
  check (!(body.has "persist_intent" && persistIntent.isNone)) "persist_intent must be boolean"
  let execute := jsonBool (body.get "execute")
  check (!(body.has "execute" && execute.isNone)) "execute must be boolean"
  let execute := execute.getD false
  let persistIntent := persistIntent.getD false
  check (!(execute && !persistIntent)) "execute requires persist_intent=true"
  if execute && !settings.executionEnabled then
    .error ⟨409, "STRATEGY_EXECUTION_DISABLED", "strategy runtime execution is disabled"⟩
  else
    let missing := missingObjects body ["base_orderbook", "hedge_orderbook", "base_balance",
        "hedge_balance", "risk_config", "runtime_state"] ++
      ["canonical_symbol", "market", "base_exchange", "hedge_exchange"].filter
        fun key => bodyText body key = ""
    check missing.isEmpty ("missing required fields: " ++ Text.join ", " missing)
    let object (key : String) : Dict := (optionalObject (body.get key)).getD []
    return {
      canonicalSymbol := bodyText body "canonical_symbol"
      market := bodyText body "market"
      baseExchange := bodyText body "base_exchange"
      hedgeExchange := bodyText body "hedge_exchange"
      baseOrderbook := object "base_orderbook"
      hedgeOrderbook := object "hedge_orderbook"
      baseBalance := object "base_balance"
      hedgeBalance := object "hedge_balance"
      riskConfig := object "risk_config"
      runtimeState := object "runtime_state"
      persistIntent := persistIntent
      execute := execute }

/-- The base and the quote asset of a symbol. -/
def splitSymbolAssets (canonicalSymbol : String) : String × String :=
  match Text.split '-' canonicalSymbol with
  | [base, quote] =>
      if base ≠ "" ∧ quote ≠ "" then (base, quote) else (canonicalSymbol, "QUOTE")
  | _ => (canonicalSymbol, "QUOTE")

variable (request : EvaluationRequest) (run : StrategyRun)

def normalizedOrderbook (exchange : String) (orderbook : Dict) : Dict :=
  Dict.merge [("exchange_name", .str exchange), ("market", .str request.market),
    ("observed_at", .str settings.nowIso)] orderbook

def normalizedBalance (exchange : String) (balance : Dict) : Dict :=
  let (baseAsset, quoteAsset) := splitSymbolAssets request.canonicalSymbol
  Dict.merge [("exchange_name", .str exchange), ("base_asset", .str baseAsset),
    ("quote_asset", .str quoteAsset), ("observed_at", .str settings.nowIso),
    ("is_fresh", .bool true)] balance

def normalizedRiskConfig : Dict :=
  let maxQuoteNotional := optionalField request.riskConfig "max_quote_notional" (.str "1000000")
  Dict.merge [("min_profit_bps", .str "0"), ("max_clock_skew_ms", .int 1000),
    ("max_orderbook_age_ms", .int 3000), ("max_balance_age_ms", .int 3000),
    ("max_notional_per_order", maxQuoteNotional),
    ("max_total_notional_per_bot", maxQuoteNotional)] request.riskConfig

def normalizedRuntimeState : Dict :=
  (Dict.merge [("now", .str settings.nowIso), ("open_order_count", .int 0),
    ("open_order_cap", .int 0), ("unwind_in_progress", .bool false),
    ("connector_private_healthy", .bool true), ("duplicate_intent_active", .bool false)]
      request.runtimeState).merge
    [("bot_id", .str run.botId), ("strategy_run_id", .str run.runId)]

/-- The payload that is evaluated for a request. -/
def requestedPayload : Dict :=
  [("bot_id", .str run.botId), ("strategy_run_id", .str run.runId),
    ("canonical_symbol", .str request.canonicalSymbol), ("market", .str request.market),
    ("base_exchange", .str request.baseExchange), ("hedge_exchange", .str request.hedgeExchange),
    ("base_orderbook",
      .obj (normalizedOrderbook settings request request.baseExchange request.baseOrderbook)),
    ("hedge_orderbook",
      .obj (normalizedOrderbook settings request request.hedgeExchange request.hedgeOrderbook)),
    ("base_balance",
      .obj (normalizedBalance settings request request.baseExchange request.baseBalance)),
    ("hedge_balance",
      .obj (normalizedBalance settings request request.hedgeExchange request.hedgeBalance)),
    ("risk_config", .obj (normalizedRiskConfig request)),
    ("runtime_state", .obj (normalizedRuntimeState settings request run))]

def requestedDecision : Except RouteError ReportedDecision :=
  match loadStrategyInputs (requestedPayload settings request run) with
  | .error text => .error (badRequest ("invalid arbitrage evaluation payload: " ++ text))
  | .ok inputs => .ok (reportDecision settings.print (evaluateArbitrage settings.ctx inputs))

end Requests

section Responses

variable (p : Platform) (settings : EvaluationSettings) (body : Dict)

/-- The run that a request is about. -/
def arbitrageRun (runId : String) (s : MemoryStore) : Except RouteError StrategyRun :=
  match s.findRun runId with
  | none => .error ⟨404, "STRATEGY_RUN_NOT_FOUND", "run_id not found"⟩
  | some run =>
      if run.strategyName = "arbitrage" then .ok run
      else .error ⟨422, "STRATEGY_NOT_SUPPORTED",
        "evaluate-arbitrage is only supported for arbitrage runs"⟩

def requestedEvaluation (runId : String) (s : MemoryStore) :
    Except RouteError (EvaluationRequest × ReportedDecision) := do
  let run ← arbitrageRun runId s
  let request ← evaluationRequest settings body
  return (request, ← requestedDecision settings request run)

/-- The intent that a request has persisted. -/
def requestedIntent (runId : String) (s : MemoryStore) : Option NewOrderIntent :=
  match requestedEvaluation settings body runId s with
  | .error _ => none
  | .ok (request, decision) =>
      if request.persistIntent then orderIntentOfPlan decision runId else none

def evaluateArbitrageResponse (runId : String) (s : MemoryStore) :
    RouteAnswer (ReportedDecision × Option OrderIntent) :=
  match requestedEvaluation settings body runId s with
  | .error error => ⟨.error error, s⟩
  | .ok (request, decision) =>
    match requestedIntent settings body runId s with
    | none => ⟨.ok (decision, none), s⟩
    | some new =>
      let (answer, after) := MemoryStore.createOrderIntent p new s
      match answer.createdRow with
      | none => ⟨.error ⟨404, "STRATEGY_RUN_NOT_FOUND",
          "strategy_run_id not found during persistence"⟩, after⟩
      | some intent =>
          ⟨.ok (decision, some intent),
            if request.execute then settings.execute decision intent after else after⟩

end Responses

section Sources

/-- Where an intent comes from: a run of the strategy runtime, a request that has a
decision persisted, or a request for the intent itself. -/
inductive IntentSource where
  | runtime (settings : StrategySettings) (answers : RunAnswers) (run : StrategyRun)
  | evaluation (settings : EvaluationSettings) (body : Dict) (runId : String)
  | request (ctx : DecimalContext) (body : Dict)

namespace IntentSource

/-- The intent that the store is asked for. -/
def intent (s : MemoryStore) : IntentSource → Option NewOrderIntent
  | runtime settings answers run => (plannedIntent settings answers run).toOption.join
  | evaluation settings body runId => requestedIntent settings body runId s
  | request ctx body => (orderIntentRequest ctx body).toOption

/-- The store once the intent is persisted. -/
def persist (p : Platform) (s : MemoryStore) (source : IntentSource) : MemoryStore :=
  match source.intent s with
  | none => s
  | some new => (MemoryStore.createOrderIntent p new s).2

/-- The exchanges a request names are two; a run takes its own from a list without
repetitions. -/
def NamesApart : IntentSource → Prop
  | runtime _ _ _ => True
  | evaluation _ body _ =>
      ExchangesApart (bodyText body "base_exchange") (bodyText body "hedge_exchange")
  | request _ body => ExchangesApart (bodyText body "buy_exchange") (bodyText body "sell_exchange")

end IntentSource

variable {p : Platform} {s : MemoryStore}

/-- The route persists what its request asks for. -/
theorem createOrderIntentResponse_store (ctx : DecimalContext) (body : Dict) :
    (createOrderIntentResponse p ctx body s).store =
      (IntentSource.request ctx body).persist p s := by
  have hintent : (IntentSource.request ctx body).intent s =
      (orderIntentRequest ctx body).toOption :=
    rfl
  rw [IntentSource.persist, hintent]
  unfold createOrderIntentResponse respond
  cases orderIntentRequest ctx body with
  | error error => rfl
  | ok new =>
      dsimp only [Except.toOption]
      split <;> rfl

/-- The endpoint persists what its request asks for, and goes on to execute it. -/
theorem evaluateArbitrageResponse_store (settings : EvaluationSettings) (body : Dict)
    (runId : String) :
    let persisted := (IntentSource.evaluation settings body runId).persist p s
    (evaluateArbitrageResponse p settings body runId s).store = persisted ∨
      ∃ decision intent, (evaluateArbitrageResponse p settings body runId s).store =
        settings.execute decision intent persisted := by
  have hintent : (IntentSource.evaluation settings body runId).intent s =
      requestedIntent settings body runId s := rfl
  rw [IntentSource.persist, hintent, evaluateArbitrageResponse]
  cases hevaluated : requestedEvaluation settings body runId s with
  | error error => simp [requestedIntent, hevaluated]
  | ok both =>
      obtain ⟨request, decision⟩ := both
      dsimp only
      cases requestedIntent settings body runId s with
      | none => exact Or.inl rfl
      | some new =>
          dsimp only
          split
          · exact Or.inl rfl
          next intent _ =>
            by_cases hexecute : request.execute = true
            · exact Or.inr ⟨decision, intent, if_pos hexecute⟩
            · exact Or.inl (if_neg hexecute)

/-- A run persists what it asks for: the store answers nothing else. -/
theorem evaluateRun_persist (settings : StrategySettings) (answers : RunAnswers) (run : StrategyRun)
    {create : NewOrderIntent → Except HostError (StoreOutcome × Option OrderIntent)}
    (hsame : ∀ new ∈ (IntentSource.runtime settings answers run).intent s,
      create new = answers.createOrderIntent new) :
    evaluateRun settings { answers with createOrderIntent := create } run =
      evaluateRun settings answers run := by
  refine evaluateRun_createOrderIntent fun new hnew => hsame new ?_
  simp [IntentSource.intent, hnew, Except.toOption]

end Sources

section Exchanges

variable {p : Platform} {s : MemoryStore} {source : IntentSource}

/-- What a request takes over from its body. -/
structure RequestOf (body : Dict) (request : EvaluationRequest) : Prop where
  market : request.market = bodyText body "market"
  baseExchange : request.baseExchange = bodyText body "base_exchange"
  hedgeExchange : request.hedgeExchange = bodyText body "hedge_exchange"
  runtimeState : request.runtimeState = (optionalObject (body.get "runtime_state")).getD []

theorem requestOf_of_evaluationRequest {settings : EvaluationSettings} {body : Dict}
    {request : EvaluationRequest} (hrequest : evaluationRequest settings body = .ok request) :
    RequestOf body request := by
  simp only [evaluationRequest, check_bind_eq_ok] at hrequest
  obtain ⟨-, -, -, hrequest⟩ := hrequest
  split_ifs at hrequest
  rw [check_bind_eq_ok] at hrequest
  rw [← Except.ok.inj hrequest.2]
  exact ⟨rfl, rfl, rfl, rfl⟩

/-- The plan of a decision on request is for the exchanges of the request. -/
theorem requestedDecision_exchanges {settings : EvaluationSettings} {request : EvaluationRequest}
    {run : StrategyRun} {decision : ReportedDecision} {runId : String}
    (hdecision : requestedDecision settings request run = .ok decision) :
    ∀ new ∈ orderIntentOfPlan decision runId,
      new.buyExchange = request.baseExchange ∧ new.sellExchange = request.hedgeExchange := by
  unfold requestedDecision at hdecision
  split at hdecision
  · cases hdecision
  next inputs hinputs =>
    obtain rfl := Except.ok.inj hdecision
    obtain ⟨-, hbase, hhedge, -⟩ := loadStrategyInputs_fields hinputs
    intro new hnew
    unfold orderIntentOfPlan at hnew
    split_ifs at hnew
    · obtain ⟨plan, hplan, rfl⟩ := Option.map_eq_some_iff.mp hnew
      obtain ⟨planned, hplanned, rfl⟩ := Option.map_eq_some_iff.mp hplan
      obtain ⟨hbuy, hsell⟩ := evaluateArbitrage_exchanges planned hplanned
      exact ⟨hbuy.trans hbase, hsell.trans hhedge⟩
    · cases hnew

/-- What a request has persisted is for the exchanges it names. -/
theorem requestedIntent_exchanges {settings : EvaluationSettings} {body : Dict} {runId : String}
    {new : NewOrderIntent} (hnew : requestedIntent settings body runId s = some new) :
    new.buyExchange = bodyText body "base_exchange" ∧
      new.sellExchange = bodyText body "hedge_exchange" := by
  unfold requestedIntent at hnew
  split at hnew
  · cases hnew
  next request decision hevaluated =>
    split_ifs at hnew
    obtain ⟨run, hrun, hevaluated⟩ := bind_eq_ok_iff.mp hevaluated
    obtain ⟨asked, hasked, hevaluated⟩ := bind_eq_ok_iff.mp hevaluated
    obtain ⟨decided, hdecided, hevaluated⟩ := bind_eq_ok_iff.mp hevaluated
    obtain ⟨rfl, rfl⟩ := Prod.mk.inj (Except.ok.inj hevaluated)
    obtain ⟨hbuy, hsell⟩ := requestedDecision_exchanges hdecided new hnew
    have hrequest := requestOf_of_evaluationRequest hasked
    exact ⟨hbuy.trans hrequest.baseExchange, hsell.trans hrequest.hedgeExchange⟩

theorem orderIntentRequest_exchanges {ctx : DecimalContext} {body : Dict} {new : NewOrderIntent}
    (hrequest : orderIntentRequest ctx body = .ok new) :
    new.buyExchange = bodyText body "buy_exchange" ∧
      new.sellExchange = bodyText body "sell_exchange" := by
  simp only [orderIntentRequest, checkInvalid_bind_eq_ok, checkMissing, check_bind_eq_ok,
    present_bind_eq_ok] at hrequest
  obtain ⟨-, -, qty, -, -, hnew⟩ := hrequest
  obtain rfl := Except.ok.inj hnew
  exact ⟨rfl, rfl⟩

/-- The intent that is asked for is for two exchanges exactly when the names are apart. -/
theorem exchangesApart_intent_iff {new : NewOrderIntent} (hnew : source.intent s = some new) :
    ExchangesApart new.buyExchange new.sellExchange ↔ source.NamesApart := by
  cases source with
  | runtime settings answers run =>
      have hasks : plannedIntent settings answers run = .ok (some new) :=
        join_toOption_eq_some_iff.mp hnew
      exact iff_of_true (exchangesApart_of_plannedIntent hasks) trivial
  | evaluation settings body runId =>
      obtain ⟨hbuy, hsell⟩ := requestedIntent_exchanges hnew
      rw [hbuy, hsell]
      exact Iff.rfl
  | request ctx body =>
      have hrequest : orderIntentRequest ctx body = .ok new := toOption_eq_some_iff.mp hnew
      obtain ⟨hbuy, hsell⟩ := orderIntentRequest_exchanges hrequest
      rw [hbuy, hsell]
      exact Iff.rfl

/-- A persisted intent is for two exchanges exactly when its source names two. -/
theorem exchangesApart_persisted_iff (p : Platform) (s : MemoryStore) (source : IntentSource)
    {intent : OrderIntent} (hpersisted : intent ∈ (source.persist p s).orderIntents)
    (hnew : intent ∉ s.orderIntents) :
    ExchangesApart intent.buyExchange intent.sellExchange ↔ source.NamesApart := by
  unfold IntentSource.persist at hpersisted
  split at hpersisted
  · exact absurd hpersisted hnew
  next new hasks =>
    rw [← exchangesApart_intent_iff hasks]
    unfold MemoryStore.createOrderIntent at hpersisted
    split at hpersisted
    · exact absurd hpersisted hnew
    · rcases List.mem_append.mp hpersisted with hold | hadded
      · exact absurd hold hnew
      · rw [List.mem_singleton.mp hadded]

/-- A request for an intent of the first run. -/
def intentBody (buyExchange sellExchange : String) : Dict :=
  [("strategy_run_id", .str (Platform.counting.uuid 0)), ("market", .str "XRP-KRW"),
    ("buy_exchange", .str buyExchange), ("sell_exchange", .str sellExchange),
    ("side_pair", .str "buy_then_sell"), ("target_qty", .str "1")]

/-- One run and no intent. -/
def oneRun : MemoryStore :=
  (MemoryStore.createStrategyRun .counting "bot" "arbitrage" "shadow"
    (MemoryStore.empty ["bot"])).2

theorem exists_persisted_intentBody {buyExchange sellExchange : String}
    (hpersists : (((IntentSource.request .default (intentBody buyExchange sellExchange)).persist
      .counting oneRun).orderIntents.map fun intent => (intent.buyExchange, intent.sellExchange)) =
        [(buyExchange, sellExchange)]) :
    ∃ intent ∈ ((IntentSource.request .default (intentBody buyExchange sellExchange)).persist
      .counting oneRun).orderIntents,
      intent.buyExchange = buyExchange ∧ intent.sellExchange = sellExchange := by
  obtain ⟨intent, hintent, hnames⟩ := List.mem_map.mp (hpersists ▸ List.mem_singleton.mpr rfl)
  obtain ⟨hbuy, hsell⟩ := Prod.mk.inj hnames
  exact ⟨intent, hintent, hbuy, hsell⟩

/-- An intent for two exchanges. -/
theorem exchangesApart_persisted_upbit :
    ∃ intent ∈ ((IntentSource.request .default (intentBody "upbit" "bithumb")).persist .counting
      oneRun).orderIntents, ExchangesApart intent.buyExchange intent.sellExchange := by
  obtain ⟨intent, hintent, -⟩ := @exists_persisted_intentBody "upbit" "bithumb" (by decide +kernel)
  have hnew : intent ∉ oneRun.orderIntents := List.not_mem_nil
  have hnames : ExchangesApart (bodyText (intentBody "upbit" "bithumb") "buy_exchange")
      (bodyText (intentBody "upbit" "bithumb") "sell_exchange") := by decide +kernel
  exact ⟨intent, hintent, (exchangesApart_persisted_iff .counting oneRun _ hintent hnew).mpr hnames⟩

/-- The route takes one exchange under two spellings. -/
theorem not_exchangesApart_spellings :
    ¬ ∀ (p : Platform) (ctx : DecimalContext) (s : MemoryStore) (body : Dict),
      MemoryStore.Reachable p ctx s →
        ∀ intent ∈ (createOrderIntentResponse p ctx body s).store.orderIntents,
          intent ∉ s.orderIntents → ExchangesApart intent.buyExchange intent.sellExchange := by
  intro hall
  obtain ⟨intent, hintent, hbuy, hsell⟩ :=
    @exists_persisted_intentBody "upbit" " UPBIT " (by decide +kernel)
  have hreach : MemoryStore.Reachable .counting .default oneRun :=
    .step (.empty ["bot"]) (.createStrategyRun "bot" "arbitrage" "shadow")
  rw [← createOrderIntentResponse_store] at hintent
  have hapart := hall .counting .default oneRun _ hreach intent hintent List.not_mem_nil
  rw [hbuy, hsell] at hapart
  revert hapart
  decide +kernel

end Exchanges

end TradingPlatform.Routes

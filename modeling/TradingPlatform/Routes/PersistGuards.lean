import TradingPlatform.Routes.StrategyWrite
import TradingPlatform.Runtime.GuardedRuns

/-! # Guards of the two persisting paths

A run of the strategy runtime takes its guards itself. The endpoint takes none: what a
request has persisted is under guards where its caller saw to them beforehand.
-/

namespace TradingPlatform.Routes

open Storage Strategy TradingPlatform.Runtime

section Requests

variable (settings : EvaluationSettings) (body : Dict) (runId isoNow : String) (s : CycleState)

/-- What a request creates, and for which run: the evaluation is cached, then the store is
asked. -/
def requestedCreation : Option (StrategyRun × IntentCreation) := do
  let run ← (arbitrageRun runId s.store).toOption
  let request ← (evaluationRequest settings body).toOption
  let inputs ← (loadStrategyInputs (requestedPayload settings request run)).toOption
  let decision := reportDecision settings.print (evaluateArbitrage settings.ctx inputs)
  let evaluation :=
    buildArbitrageEvaluationPayload settings.print decision run.botId runId none none none
  if request.persistIntent then
    let new ← orderIntentOfPlan decision runId
    return (run, ⟨s.redis.syncArbitrageEvaluation runId evaluation isoNow, new,
      inputs.runtimeState⟩)
  else none

/-- The state that a body brings; a later key overwrites. -/
def bodyState : Dict := Dict.merge [] ((optionalObject (body.get "runtime_state")).getD [])

/-- The quote pair of a body. -/
def bodyQuotePair : String :=
  quotePairName (bodyText body "base_exchange") (bodyText body "hedge_exchange")
    (bodyText body "market")

/-- The caller of the endpoint saw to the guards: the run holds the pair lock of what the body
names, no open trace of its bot is kept, and the body brings what the store has of the intents
and orders of the run. -/
structure Vouched (run : StrategyRun) : Prop where
  locked : HoldsPairLock (Text.strip (bodyText body "market")) (Text.strip (bodyQuotePair body))
    (Text.strip (pairLockOwnerId run.botId run.runId)) s.redis
  untraced : ¬ s.redis.HasOpenTrace run.botId
  duplicate : (optionalField (bodyState body) "duplicate_intent_active" (.bool false)).truthy =
    (runIntents s.store run).any (·.status ∈ activeIntentStatuses)
  openOrders : loadInt (optionalField (bodyState body) "open_order_count" (.int 0)) =
    .ok ((runOpenOrders s.store run).length : Int)

end Requests

section Paths

/-- A path that persists intents of decisions. -/
inductive PersistingPath where
  | runtime (settings : StrategySettings) (outside : RunAnswers) (run : StrategyRun)
  | evaluation (settings : EvaluationSettings) (body : Dict) (runId isoNow : String)

namespace PersistingPath

/-- Redis is enabled; the endpoint does not look. -/
def Enabled : PersistingPath → Prop
  | runtime settings _ _ => settings.redisEnabled = true
  | evaluation .. => True

/-- The path comes to create an intent for a run. -/
inductive Creates (s : CycleState) : PersistingPath → StrategyRun → IntentCreation → Prop
  | runtime {settings : StrategySettings} {outside : RunAnswers} {run : StrategyRun}
      {creation : IntentCreation}
      (hcreates : RunCreates settings (s.lockAnswers settings run outside) run
        (reconciledRedis settings outside.isoNow run s.redis) creation) :
      Creates s (.runtime settings outside run) run creation
  | evaluation {settings : EvaluationSettings} {body : Dict} {runId isoNow : String}
      {run : StrategyRun} {creation : IntentCreation}
      (hcreates : requestedCreation settings body runId isoNow s = some (run, creation)) :
      Creates s (.evaluation settings body runId isoNow) run creation

/-- A run sees to its guards itself; for a request the caller has to. -/
def SeenTo (s : CycleState) (run : StrategyRun) : PersistingPath → Prop
  | runtime .. => True
  | evaluation _ body _ _ => Vouched body s run

/-- The source of the intents of a path. -/
def source (s : CycleState) : PersistingPath → IntentSource
  | runtime settings outside run => .runtime settings (s.lockAnswers settings run outside) run
  | evaluation settings body runId _ => .evaluation settings body runId

end PersistingPath

end Paths

section Bodies

variable {settings : EvaluationSettings} {body : Dict} {runId isoNow : String} {s : CycleState}
  {run : StrategyRun} {creation : IntentCreation}

/-- What a request creates, in the terms of its body. -/
theorem requestedCreation_eq_some_iff :
    requestedCreation settings body runId isoNow s = some (run, creation) ↔
      ∃ request inputs new, arbitrageRun runId s.store = .ok run ∧
        evaluationRequest settings body = .ok request ∧
        loadStrategyInputs (requestedPayload settings request run) = .ok inputs ∧
        request.persistIntent = true ∧
        orderIntentOfPlan (reportDecision settings.print (evaluateArbitrage settings.ctx inputs))
          runId = some new ∧
        creation = ⟨s.redis.syncArbitrageEvaluation runId (buildArbitrageEvaluationPayload
          settings.print (reportDecision settings.print (evaluateArbitrage settings.ctx inputs))
          run.botId runId none none none) isoNow, new, inputs.runtimeState⟩ := by
  unfold requestedCreation
  simp only [Option.bind_eq_bind, Option.bind_eq_some_iff, toOption_eq_some_iff]
  constructor
  · rintro ⟨found, hrun, request, hrequest, inputs, hinputs, hcreates⟩
    split_ifs at hcreates with hpersists
    obtain ⟨new, hnew, hcreates⟩ := Option.bind_eq_some_iff.mp hcreates
    obtain ⟨rfl, rfl⟩ := Prod.mk.inj (Option.some.inj hcreates)
    exact ⟨request, inputs, new, hrun, hrequest, hinputs, hpersists, hnew, rfl⟩
  · rintro ⟨request, inputs, new, hrun, hrequest, hinputs, hpersists, hnew, rfl⟩
    refine ⟨run, hrun, request, hrequest, inputs, hinputs, ?_⟩
    rw [if_pos hpersists, hnew]
    rfl

/-- A field of the state that is evaluated is the one of the body, or its default. -/
theorem optionalField_normalizedRuntimeState {request : EvaluationRequest} {key : String}
    {value : Json} (hkey : key ∉ ["bot_id", "strategy_run_id"])
    (hdefault : Dict.get? [("now", .str settings.nowIso), ("open_order_count", .int 0),
      ("open_order_cap", .int 0), ("unwind_in_progress", .bool false),
      ("connector_private_healthy", .bool true), ("duplicate_intent_active", .bool false)] key =
        some value) :
    optionalField (normalizedRuntimeState settings request run) key value =
      optionalField (Dict.merge [] request.runtimeState) key value := by
  unfold normalizedRuntimeState optionalField
  rw [Dict.get?_merge_of_notMem _ _ (by simpa using hkey), Dict.get?_merge, hdefault]
  cases (Dict.merge [] request.runtimeState).get? key <;> rfl

/-- A request creates its intent under guards exactly when its caller saw to them. -/
theorem underGuards_requestedCreation_iff
    (hcreates : requestedCreation settings body runId isoNow s = some (run, creation)) :
    UnderGuards s.store run creation ↔ Vouched body s run := by
  obtain ⟨request, inputs, new, hrun, hrequest, hinputs, -, hnew, rfl⟩ :=
    requestedCreation_eq_some_iff.mp hcreates
  obtain ⟨hmarket, hbase, hhedge, hbodyState⟩ := requestOf_of_evaluationRequest hrequest
  obtain ⟨hinputsMarket, hinputsBase, hinputsHedge, state, hfound, hstate⟩ :=
    loadStrategyInputs_fields hinputs
  have htext : ∀ {key text : String},
      (requestedPayload settings request run).get key = .str text →
      ((requestedPayload settings request run).get key).toText = text := by
    intro key text hget
    rw [hget, Json.toText_str]
  rw [htext rfl, hmarket] at hinputsMarket
  rw [htext rfl, hbase] at hinputsBase
  rw [htext rfl, hhedge] at hinputsHedge
  obtain ⟨hnewMarket, hquotePair⟩ := orderIntentOfPlan_namesPair
    (reportDecision_namesPair inputs) hnew
  rw [hinputsMarket] at hnewMarket
  rw [hinputsMarket, hinputsBase, hinputsHedge, ← bodyQuotePair] at hquotePair
  obtain rfl : normalizedRuntimeState settings request run = state := Json.obj.inj hfound
  obtain ⟨hduplicate, hcount⟩ := loadRuntimeState_facts hstate
  rw [optionalField_normalizedRuntimeState (by simp) rfl, hbodyState, ← bodyState]
    at hduplicate hcount
  constructor
  · rintro ⟨hlocked, huntraced, hsame, hopen⟩
    dsimp only at hlocked hsame hopen
    rw [hnewMarket, hquotePair, Json.textOrEmpty_str] at hlocked
    refine ⟨hlocked, huntraced, ?_, ?_⟩
    · rw [← hduplicate, hsame]
    · rw [hcount, hopen]
  · rintro ⟨hlocked, huntraced, hsame, hopen⟩
    refine ⟨?_, huntraced, ?_, ?_⟩
    · dsimp only
      rw [hnewMarket, hquotePair, Json.textOrEmpty_str]
      exact hlocked.syncArbitrageEvaluation _ _ _
    · exact hduplicate.trans hsame
    · exact Except.ok.inj (hcount.symm.trans hopen)

end Bodies

section Main

variable {s : CycleState} {path : PersistingPath} {run : StrategyRun} {creation : IntentCreation}

theorem requestedIntent_eq_some_iff {settings : EvaluationSettings} {body : Dict}
    {runId : String} (isoNow : String) {new : NewOrderIntent} :
    requestedIntent settings body runId s.store = some new ↔
      ∃ run creation, requestedCreation settings body runId isoNow s = some (run, creation) ∧
        creation.new = new := by
  constructor
  · intro hnew
    unfold requestedIntent at hnew
    split at hnew
    · cases hnew
    next request decision hevaluated =>
      split_ifs at hnew with hpersists
      obtain ⟨run, hrun, hevaluated⟩ := bind_eq_ok_iff.mp hevaluated
      obtain ⟨asked, hasked, hevaluated⟩ := bind_eq_ok_iff.mp hevaluated
      obtain ⟨decided, hdecided, hevaluated⟩ := bind_eq_ok_iff.mp hevaluated
      obtain ⟨rfl, rfl⟩ := Prod.mk.inj (Except.ok.inj hevaluated)
      unfold requestedDecision at hdecided
      split at hdecided
      · cases hdecided
      next inputs hinputs =>
        obtain rfl := Except.ok.inj hdecided
        exact ⟨run, _, requestedCreation_eq_some_iff.mpr
          ⟨asked, inputs, new, hrun, hasked, hinputs, hpersists, hnew, rfl⟩, rfl⟩
  · rintro ⟨run, creation, hcreates, rfl⟩
    obtain ⟨request, inputs, new, hrun, hrequest, hinputs, hpersists, hnew, rfl⟩ :=
      requestedCreation_eq_some_iff.mp hcreates
    have hdecision : requestedDecision settings request run =
        .ok (reportDecision settings.print (evaluateArbitrage settings.ctx inputs)) := by
      rw [requestedDecision, hinputs]
    have hevaluated : requestedEvaluation settings body runId s.store = .ok (request, _) :=
      bind_eq_ok_iff.mpr ⟨run, hrun, bind_eq_ok_iff.mpr ⟨request, hrequest,
        bind_eq_ok_iff.mpr ⟨_, hdecision, rfl⟩⟩⟩
    rw [requestedIntent, hevaluated]
    dsimp only
    rw [if_pos hpersists, hnew]

/-- A path comes to create an intent exactly when the store is asked for it. -/
theorem PersistingPath.intent_source_eq_some_iff {new : NewOrderIntent} :
    (path.source s).intent s.store = some new ↔
      ∃ run creation, path.Creates s run creation ∧ creation.new = new := by
  cases path with
  | runtime settings outside run =>
      refine join_toOption_eq_some_iff.trans ((plannedIntent_eq_some_iff
        (reconciledRedis settings outside.isoNow run s.redis)).trans ?_)
      constructor
      · rintro ⟨creation, hcreates, hnew⟩
        exact ⟨run, creation, .runtime hcreates, hnew⟩
      · rintro ⟨found, creation, hcreates, hnew⟩
        cases hcreates with
        | runtime hcreates => exact ⟨creation, hcreates, hnew⟩
  | evaluation settings body runId isoNow =>
      refine (requestedIntent_eq_some_iff isoNow).trans ?_
      constructor
      · rintro ⟨run, creation, hcreates, hnew⟩
        exact ⟨run, creation, .evaluation hcreates, hnew⟩
      · rintro ⟨run, creation, hcreates, hnew⟩
        cases hcreates with
        | evaluation hcreates => exact ⟨run, creation, hcreates, hnew⟩

/-- An intent is created under guards exactly when a run creates it, or the caller of the
endpoint saw to the guards. -/
theorem underGuards_iff (s : CycleState) (path : PersistingPath) (henabled : path.Enabled)
    (run : StrategyRun) (creation : IntentCreation) (hcreates : path.Creates s run creation) :
    UnderGuards s.store run creation ↔ path.SeenTo s run := by
  cases hcreates with
  | runtime hcreates => exact iff_of_true (hcreates.underGuards henabled) trivial
  | evaluation hcreates => exact underGuards_requestedCreation_iff hcreates

/-- A request to persist what two crossed books allow; its state says nothing. -/
def crossedRequest : Dict :=
  let level (price : String) : Json := .obj [("price", .str price), ("quantity", .str "2")]
  [("canonical_symbol", .str "XRP-KRW"), ("market", .str "KRW-XRP"),
    ("base_exchange", .str "upbit"), ("hedge_exchange", .str "bithumb"),
    ("base_orderbook", .obj [("asks", .arr [level "100"]), ("bids", .arr [])]),
    ("hedge_orderbook", .obj [("asks", .arr []), ("bids", .arr [level "110"])]),
    ("base_balance", .obj [("available_base", .str "0"), ("available_quote", .str "1000")]),
    ("hedge_balance", .obj [("available_base", .str "5"), ("available_quote", .str "0")]),
    ("risk_config", .obj [("min_profit_quote", .str "1"), ("max_spread_bps", .str "2000")]),
    ("runtime_state", .obj []), ("persist_intent", .bool true)]

def crossedSettings : EvaluationSettings where
  ctx := .default
  print := printWhole
  nowIso := "2024-01-01T00:00:00Z"
  executionEnabled := false
  execute := fun _ _ s => s

def crossedPath : PersistingPath :=
  .evaluation crossedSettings crossedRequest (Platform.counting.uuid 0) "2024-01-01T00:00:01Z"

/-- The only run holds the pair lock of the request. -/
def lockedRun : CycleState where
  store := oneRun
  redis := (RedisRuntime.empty.acquirePairLock "KRW-XRP" (bodyQuotePair crossedRequest)
    [("owner_id", .str (pairLockOwnerId "bot" (Platform.counting.uuid 0)))]
    "2024-01-01T00:00:00Z").2

/-- The only run has an intent already and its bot an open trace; no lock is held. -/
def busyRun : CycleState where
  store := (IntentSource.request .default (intentBody "upbit" "bithumb")).persist .counting oneRun
  redis := RedisRuntime.empty.syncRecoveryTrace "rt_1"
    [("bot_id", .str "bot"), ("status", .str "active")] "2024-01-01T00:00:00Z"

theorem exists_requestedCreation {s : CycleState}
    (hcreates : ((requestedCreation crossedSettings crossedRequest (Platform.counting.uuid 0)
      "2024-01-01T00:00:01Z" s).map fun created => (created.1.botId, created.1.runId)) =
        some ("bot", Platform.counting.uuid 0)) :
    ∃ run creation, crossedPath.Creates s run creation ∧ run.botId = "bot" ∧
      run.runId = Platform.counting.uuid 0 := by
  obtain ⟨⟨run, creation⟩, hcreated, hids⟩ := Option.map_eq_some_iff.mp hcreates
  obtain ⟨hbot, hrun⟩ := Prod.mk.inj hids
  exact ⟨run, creation, .evaluation hcreated, hbot, hrun⟩

/-- The caller saw to the guards. -/
theorem underGuards_lockedRun : ∃ run creation, crossedPath.Creates lockedRun run creation ∧
    UnderGuards lockedRun.store run creation := by
  obtain ⟨run, creation, hcreates, hbot, hrun⟩ :=
    @exists_requestedCreation lockedRun (by decide +kernel)
  refine ⟨run, creation, hcreates,
    (underGuards_iff lockedRun crossedPath trivial run creation hcreates).mpr ⟨?_, ?_, ?_, ?_⟩⟩
  · have howner : (lockedRun.redis.pairLocks.lookup
        (Text.strip (bodyText crossedRequest "market"),
        Text.strip (bodyQuotePair crossedRequest))).map
          (RedisRuntime.lockText · "owner_id") =
        some (Text.strip (pairLockOwnerId "bot" (Platform.counting.uuid 0))) := by
      decide +kernel
    rw [hbot, hrun]
    exact Option.map_eq_some_iff.mp howner
  · rintro ⟨recoveryTraceId, trace, htrace, -⟩
    cases htrace
  · rw [runIntents, hrun]
    decide +kernel
  · rw [runOpenOrders, hrun]
    decide +kernel

/-- The endpoint persists an intent for a run that has one already, past an open trace of its
bot and without a pair lock. -/
theorem not_underGuards_busyRun : ∃ run creation, crossedPath.Creates busyRun run creation ∧
    ¬ UnderGuards busyRun.store run creation := by
  obtain ⟨run, creation, hcreates, -, -⟩ := @exists_requestedCreation busyRun (by decide +kernel)
  refine ⟨run, creation, hcreates, fun hguards => ?_⟩
  cases hcreates with
  | evaluation hcreated =>
      obtain ⟨lock, hlock, -⟩ := ((underGuards_requestedCreation_iff hcreated).mp hguards).locked
      cases hlock

end Main

end TradingPlatform.Routes

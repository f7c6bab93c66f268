import Mathlib.Data.List.Nodup
import Mathlib.Data.List.Pairwise
import TradingPlatform.Foundation.PathPatterns

/-! # Routes of the control plane

Which handler a request reaches is read off its path: a path that names a handler comes
first, then the resolvers are asked one after another, each of them for the identifiers in
paths of its own form.
-/

namespace TradingPlatform.Routes

open PathPatterns

section Posts

/-- What an operator can do with a recovery trace. -/
inductive RecoveryAction where
  | resolve
  | handoff
  | startUnwind
  | submitUnwindOrder
  | cancelOpenOrders
  | recordUnwindFill
  | recordReconciliation
deriving DecidableEq

namespace RecoveryAction

/-- In the order in which the handler goes through them. -/
def all : List RecoveryAction :=
  [resolve, handoff, startUnwind, submitUnwindOrder, cancelOpenOrders, recordUnwindFill,
    recordReconciliation]

def suffix : RecoveryAction → String
  | resolve => "/resolve"
  | handoff => "/handoff"
  | startUnwind => "/start-unwind"
  | submitUnwindOrder => "/submit-unwind-order"
  | cancelOpenOrders => "/cancel-open-orders"
  | recordUnwindFill => "/record-unwind-fill"
  | recordReconciliation => "/record-reconciliation"

theorem mem_all (action : RecoveryAction) : action ∈ all := by
  cases action <;> simp [all]

end RecoveryAction

/-- Handlers of requests whose path is fixed. -/
inductive FixedPost where
  | registerBot
  | createConfig
  | createStrategyRun
  | createOrderIntent
  | createOrder
  | createFill
  | marketDataPoll
deriving DecidableEq

def FixedPost.path : FixedPost → String
  | registerBot => "/api/v1/bots/register"
  | createConfig => "/api/v1/configs"
  | createStrategyRun => "/api/v1/strategy-runs"
  | createOrderIntent => "/api/v1/order-intents"
  | createOrder => "/api/v1/orders"
  | createFill => "/api/v1/fills"
  | marketDataPoll => "/api/v1/market-data/poll"

/-- Handlers of requests with an identifier in their path. -/
inductive NamedPost where
  | recoveryTraceAction (action : RecoveryAction)
  | evaluateArbitrage
  | acknowledgeAlert
  | acknowledgeConfig
  | assignConfig
  | startStrategyRun
  | stopStrategyRun
  | recordHeartbeat
deriving DecidableEq

def NamedPost.pattern : NamedPost → Pattern
  | recoveryTraceAction action => ⟨"/api/v1/recovery-traces/", action.suffix, false⟩
  | evaluateArbitrage => ⟨"/api/v1/strategy-runs/", "/evaluate-arbitrage", false⟩
  | acknowledgeAlert => ⟨"/api/v1/alerts/", "/ack", false⟩
  | acknowledgeConfig => ⟨"/api/v1/bots/", "/config-ack", false⟩
  | assignConfig => ⟨"/api/v1/bots/", "/assign-config", false⟩
  | startStrategyRun => ⟨"/api/v1/strategy-runs/", "/start", false⟩
  | stopStrategyRun => ⟨"/api/v1/strategy-runs/", "/stop", false⟩
  | recordHeartbeat => ⟨"/api/v1/bots/", "/heartbeat", false⟩

inductive PostRoute where
  | fixed (handler : FixedPost)
  | named (handler : NamedPost) (id : String)
deriving DecidableEq

def PostRoute.path : PostRoute → String
  | fixed handler => handler.path
  | named handler id => handler.pattern.path id

/-- The identifier is not empty. -/
def PostRoute.WellFormed : PostRoute → Prop
  | fixed _ => True
  | named handler id => handler.pattern.Admits id

def fixedPost (handler : FixedPost) (path : String) : Option PostRoute :=
  if path = handler.path then some (.fixed handler) else none

/-- A handler that has nothing but a prefix and a suffix to match. -/
def namedPost (handler : NamedPost) (path : String) : Option PostRoute :=
  (handler.pattern.id? path).map (.named handler)

/-- The first action whose suffix the path ends with is the only one that is tried. -/
def recoveryTraceActionResponse (path : String) : Option PostRoute :=
  let pre := "/api/v1/recovery-traces/"
  if Text.startsWith pre path then
    (RecoveryAction.all.find? fun action => endsWith action.suffix path).bind fun action =>
      let recoveryTraceId := between pre action.suffix path
      if recoveryTraceId = "" then none
      else some (.named (.recoveryTraceAction action) recoveryTraceId)
  else none

def strategyRunActionResponse (path : String) : Option PostRoute :=
  let pre := "/api/v1/strategy-runs/"
  if Text.startsWith pre path then
    let suffix := between pre "" path
    if endsWith "/start" suffix then
      let runId := between "" "/start" suffix
      if runId = "" then none else some (.named .startStrategyRun runId)
    else if endsWith "/stop" suffix then
      let runId := between "" "/stop" suffix
      if runId = "" then none else some (.named .stopStrategyRun runId)
    else none
  else none

def postResolvers : List (String → Option PostRoute) :=
  [fixedPost .registerBot, fixedPost .createConfig, fixedPost .createStrategyRun,
    fixedPost .createOrderIntent, fixedPost .createOrder, fixedPost .createFill,
    fixedPost .marketDataPoll, recoveryTraceActionResponse, namedPost .evaluateArbitrage,
    namedPost .acknowledgeAlert, namedPost .acknowledgeConfig, namedPost .assignConfig,
    strategyRunActionResponse, namedPost .recordHeartbeat]

/-- The handler a request is dispatched to; a path that none of them knows is not found. -/
def dispatchPost (path : String) : Option PostRoute :=
  postResolvers.findSome? fun resolver => resolver path

end Posts

section PostProofs

namespace NamedPost

theorem isSegment_suf (handler : NamedPost) : Pattern.IsSegment handler.pattern.suf := by
  cases handler with
  | recoveryTraceAction action =>
      cases action <;> exact ⟨_, String.toList_ofList, by decide⟩
  | _ => exact ⟨_, String.toList_ofList, by decide⟩

def all : List NamedPost :=
  RecoveryAction.all.map recoveryTraceAction ++
    [evaluateArbitrage, acknowledgeAlert, acknowledgeConfig, assignConfig, startStrategyRun,
      stopStrategyRun, recordHeartbeat]

theorem mem_all (handler : NamedPost) : handler ∈ all := by
  cases handler with
  | recoveryTraceAction action =>
      exact List.mem_append_left _ (List.mem_map_of_mem action.mem_all)
  | _ => exact List.mem_append_right _ (by simp)

theorem eq_of_suf_eq {handler other : NamedPost} (hsuf : handler.pattern.suf = other.pattern.suf) :
    handler = other := by
  have hnodup : (all.map fun handler => handler.pattern.suf).Nodup := by
    simp [all, RecoveryAction.all, pattern, RecoveryAction.suffix]
  exact List.inj_on_of_nodup_map hnodup handler.mem_all other.mem_all hsuf

theorem excludes_pattern {handler other : NamedPost} (hne : handler ≠ other) :
    handler.pattern.Excludes other.pattern :=
  Pattern.excludes_of_segments handler.isSegment_suf other.isSegment_suf fun hsuf =>
    hne (eq_of_suf_eq hsuf)

end NamedPost

/-- The last segment of a fixed path. -/
def FixedPost.segment : FixedPost → String
  | registerBot => "/register"
  | createConfig => "/configs"
  | createStrategyRun => "/strategy-runs"
  | createOrderIntent => "/order-intents"
  | createOrder => "/orders"
  | createFill => "/fills"
  | marketDataPoll => "/poll"

theorem FixedPost.isSegment_segment (handler : FixedPost) :
    Pattern.IsSegment handler.segment := by
  cases handler <;> exact ⟨_, String.toList_ofList, by decide⟩

theorem FixedPost.suffix_path (handler : FixedPost) :
    handler.segment.toList <:+ handler.path.toList := by
  cases handler <;> simp [segment, path, List.suffix_cons_iff]

theorem FixedPost.segment_ne (handler : FixedPost) (other : NamedPost) :
    handler.segment ≠ other.pattern.suf := by
  have hnone : handler.segment ∉ NamedPost.all.map fun other => other.pattern.suf := by
    cases handler <;>
      simp [segment, NamedPost.all, RecoveryAction.all, NamedPost.pattern, RecoveryAction.suffix]
  exact fun hsuf => hnone (hsuf ▸ List.mem_map_of_mem other.mem_all)

theorem FixedPost.path_ne (handler : FixedPost) (other : NamedPost) (id : String) :
    handler.path ≠ other.pattern.path id := by
  intro hpath
  exact handler.segment_ne other <| Pattern.segment_unique handler.isSegment_segment
    other.isSegment_suf handler.suffix_path (hpath ▸ Pattern.suffix_path)

theorem FixedPost.path_injective : Function.Injective FixedPost.path := by
  intro handler other hpath
  cases handler <;> cases other <;> first | rfl | simp [path] at hpath

theorem PostRoute.eq_of_path_eq {route other : PostRoute} (hroute : route.WellFormed)
    (hother : other.WellFormed) (hpath : route.path = other.path) : route = other := by
  cases route with
  | fixed handler =>
      cases other with
      | fixed handler' => rw [FixedPost.path_injective hpath]
      | named handler' id => exact absurd hpath (handler.path_ne handler' id)
  | named handler id =>
      cases other with
      | fixed handler' => exact absurd hpath.symm (handler'.path_ne handler id)
      | named handler' id' =>
          obtain rfl : handler = handler' := by
            by_contra hne
            exact NamedPost.excludes_pattern hne id id' hroute hother hpath
          have hid := Pattern.id?_eq_some_iff.mpr ⟨hroute, rfl⟩
          have hid' := Pattern.id?_eq_some_iff.mpr ⟨hother, rfl⟩
          rw [show handler.pattern.path id = handler.pattern.path id' from hpath, hid'] at hid
          rw [Option.some.inj hid]

section Resolvers

variable {path id : String} {route : PostRoute}

theorem fixedPost_eq_some_iff {handler : FixedPost} :
    fixedPost handler path = some route ↔ route = .fixed handler ∧ path = handler.path := by
  unfold fixedPost
  split_ifs with hpath
  · simp [hpath, eq_comm]
  · simp [hpath]

theorem namedPost_eq_some_iff {handler : NamedPost} : namedPost handler path = some route ↔
    ∃ id, route = .named handler id ∧ handler.pattern.Admits id ∧
      path = handler.pattern.path id := by
  simp only [namedPost, Option.map_eq_some_iff, Pattern.id?_eq_some_iff]
  exact exists_congr fun id => ⟨fun ⟨hid, hroute⟩ => ⟨hroute.symm, hid⟩, fun h => ⟨h.2, h.1.symm⟩⟩

theorem RecoveryAction.isSegment_suffix (action : RecoveryAction) :
    Pattern.IsSegment action.suffix := (NamedPost.recoveryTraceAction action).isSegment_suf

theorem RecoveryAction.eq_of_suffix_eq {action other : RecoveryAction}
    (hsuffix : action.suffix = other.suffix) : action = other :=
  NamedPost.recoveryTraceAction.inj (NamedPost.eq_of_suf_eq hsuffix)

/-- A path ends with the suffix of one action at most. -/
theorem find?_recoveryAction {action : RecoveryAction} (hend : endsWith action.suffix path = true) :
    (RecoveryAction.all.find? fun action => endsWith action.suffix path) = some action := by
  cases hfind : RecoveryAction.all.find? fun action => endsWith action.suffix path with
  | none => exact absurd hend (List.find?_eq_none.mp hfind action action.mem_all)
  | some other =>
      have hother := List.find?_some hfind
      rw [RecoveryAction.eq_of_suffix_eq (Pattern.segment_unique other.isSegment_suffix
        action.isSegment_suffix (List.isSuffixOf_iff_suffix.mp hother)
        (List.isSuffixOf_iff_suffix.mp hend))]

theorem recoveryTraceActionResponse_eq_some_iff :
    recoveryTraceActionResponse path = some route ↔ ∃ action id, id ≠ "" ∧
      route = .named (.recoveryTraceAction action) id ∧
      path = "/api/v1/recovery-traces/" ++ id ++ action.suffix := by
  constructor
  · intro hroute
    unfold recoveryTraceActionResponse at hroute
    dsimp only at hroute
    split_ifs at hroute with hstart
    obtain ⟨action, hfind, hroute⟩ := Option.bind_eq_some_iff.mp hroute
    split_ifs at hroute with hempty
    have hend : endsWith action.suffix path = true := by simpa using List.find?_some hfind
    exact ⟨action, _, hempty, (Option.some.inj hroute).symm,
      eq_append_of_between hstart hend hempty⟩
  · intro ⟨action, id, hid, hroute, hpath⟩
    have hstart : Text.startsWith "/api/v1/recovery-traces/" path = true := by
      rw [hpath, String.append_assoc]
      exact startsWith_append
    have hend : endsWith action.suffix path = true := hpath ▸ endsWith_append
    have hbetween : between "/api/v1/recovery-traces/" action.suffix path = id :=
      hpath ▸ between_append
    simp only [recoveryTraceActionResponse, hstart, find?_recoveryAction hend, if_true,
      Option.bind_some, hbetween, if_neg hid, hroute]

theorem strategyRunActionResponse_eq_some_iff :
    strategyRunActionResponse path = some route ↔ ∃ id, id ≠ "" ∧
      (route = .named .startStrategyRun id ∧ path = "/api/v1/strategy-runs/" ++ id ++ "/start" ∨
        route = .named .stopStrategyRun id ∧ path = "/api/v1/strategy-runs/" ++ id ++ "/stop") := by
  constructor
  · intro hroute
    unfold strategyRunActionResponse at hroute
    dsimp only at hroute
    split_ifs at hroute with hstart hend hempty hend' hempty
    · refine ⟨_, hempty, Or.inl ⟨(Option.some.inj hroute).symm, ?_⟩⟩
      rw [String.append_assoc, ← eq_append_of_endsWith hend hempty]
      exact eq_append_of_startsWith hstart
    · refine ⟨_, hempty, Or.inr ⟨(Option.some.inj hroute).symm, ?_⟩⟩
      rw [String.append_assoc, ← eq_append_of_endsWith hend' hempty]
      exact eq_append_of_startsWith hstart
  · intro ⟨id, hid, hroute⟩
    rcases hroute with ⟨hroute, hpath⟩ | ⟨hroute, hpath⟩
    · rw [String.append_assoc] at hpath
      have hstart : Text.startsWith "/api/v1/strategy-runs/" path = true :=
        hpath ▸ startsWith_append
      have hrest : between "/api/v1/strategy-runs/" "" path = id ++ "/start" :=
        hpath ▸ between_empty
      simp [strategyRunActionResponse, hstart, hrest, between_empty_left, hid, hroute]
    · rw [String.append_assoc] at hpath
      have hstart : Text.startsWith "/api/v1/strategy-runs/" path = true :=
        hpath ▸ startsWith_append
      have hrest : between "/api/v1/strategy-runs/" "" path = id ++ "/stop" :=
        hpath ▸ between_empty
      have hother : endsWith "/start" (id ++ "/stop") = false := by
        rw [← Bool.not_eq_true]
        intro hend
        have hsuf := Pattern.segment_unique NamedPost.startStrategyRun.isSegment_suf
          NamedPost.stopStrategyRun.isSegment_suf (List.isSuffixOf_iff_suffix.mp hend)
          (List.isSuffixOf_iff_suffix.mp endsWith_append)
        cases NamedPost.eq_of_suf_eq hsuf
      simp [strategyRunActionResponse, hstart, hrest, hother, between_empty_left, hid, hroute]

/-- What a path asks for. -/
def PostRoute.AskedBy (route : PostRoute) (path : String) : Prop :=
  route.WellFormed ∧ path = route.path

/-- A resolver finds nothing but what a path asks for. -/
theorem askedBy_of_resolver {resolver : String → Option PostRoute}
    (hmem : resolver ∈ postResolvers) (hroute : resolver path = some route) :
    route.AskedBy path := by
  have hfixed : ∀ {handler}, fixedPost handler path = some route → route.AskedBy path := by
    intro handler hfound
    obtain ⟨rfl, hpath⟩ := fixedPost_eq_some_iff.mp hfound
    exact ⟨trivial, hpath⟩
  have hnamed : ∀ {handler}, namedPost handler path = some route → route.AskedBy path := by
    intro handler hfound
    obtain ⟨id, rfl, hid⟩ := namedPost_eq_some_iff.mp hfound
    exact hid
  simp only [postResolvers, List.mem_cons, List.not_mem_nil, or_false] at hmem
  rcases hmem with rfl | rfl | rfl | rfl | rfl | rfl | rfl | rfl | rfl | rfl | rfl | rfl | rfl | rfl
  case inr.inr.inr.inr.inr.inr.inr.inl =>
    obtain ⟨action, id, hid, rfl, hpath⟩ := recoveryTraceActionResponse_eq_some_iff.mp hroute
    exact ⟨⟨hid, fun hflat => Bool.noConfusion hflat⟩, hpath⟩
  case inr.inr.inr.inr.inr.inr.inr.inr.inr.inr.inr.inr.inl =>
    obtain ⟨id, hid, ⟨rfl, hpath⟩ | ⟨rfl, hpath⟩⟩ :=
      strategyRunActionResponse_eq_some_iff.mp hroute
    · exact ⟨⟨hid, fun hflat => Bool.noConfusion hflat⟩, hpath⟩
    · exact ⟨⟨hid, fun hflat => Bool.noConfusion hflat⟩, hpath⟩
  all_goals first | exact hfixed hroute | exact hnamed hroute

/-- Among them the resolvers find all that a path asks for. -/
theorem exists_resolver_of_askedBy (hasked : route.AskedBy path) :
    ∃ resolver ∈ postResolvers, resolver path = some route := by
  obtain ⟨hwell, hpath⟩ := hasked
  cases route with
  | fixed handler =>
      refine ⟨fixedPost handler, ?_, fixedPost_eq_some_iff.mpr ⟨rfl, hpath⟩⟩
      cases handler <;> simp [postResolvers]
  | named handler id =>
      have hnamed := namedPost_eq_some_iff.mpr ⟨id, rfl, hwell, hpath⟩
      cases handler with
      | recoveryTraceAction action =>
          exact ⟨recoveryTraceActionResponse, by simp [postResolvers],
            recoveryTraceActionResponse_eq_some_iff.mpr ⟨action, id, hwell.1, rfl, hpath⟩⟩
      | startStrategyRun =>
          exact ⟨strategyRunActionResponse, by simp [postResolvers],
            strategyRunActionResponse_eq_some_iff.mpr ⟨id, hwell.1, Or.inl ⟨rfl, hpath⟩⟩⟩
      | stopStrategyRun =>
          exact ⟨strategyRunActionResponse, by simp [postResolvers],
            strategyRunActionResponse_eq_some_iff.mpr ⟨id, hwell.1, Or.inr ⟨rfl, hpath⟩⟩⟩
      | _ => exact ⟨_, by simp [postResolvers], hnamed⟩

/-- **Dispatch of requests.** A request reaches a handler with an identifier exactly when
its path is the one of that handler with that identifier, whatever else the resolvers are
asked before. -/
theorem dispatchPost_eq_some_iff :
    dispatchPost path = some route ↔ route.WellFormed ∧ path = route.path :=
  findSome?_eq_some_iff (R := fun path route => PostRoute.AskedBy route path)
    (fun _ _ _ hroute hother =>
      PostRoute.eq_of_path_eq hroute.1 hother.1 (hroute.2.symm.trans hother.2))
    (fun _ hmem _ _ hroute => askedBy_of_resolver hmem hroute)
    (fun _ _ hasked => exists_resolver_of_askedBy hasked)

/-- The resolvers may be tried in any order. -/
theorem dispatchPost_perm {resolvers : List (String → Option PostRoute)}
    (hperm : resolvers.Perm postResolvers) :
    (resolvers.findSome? fun resolver => resolver path) = dispatchPost path := by
  apply Option.ext
  intro route
  rw [dispatchPost_eq_some_iff]
  exact findSome?_eq_some_iff (R := fun path route => PostRoute.AskedBy route path)
    (fun _ _ _ hroute hother =>
      PostRoute.eq_of_path_eq hroute.1 hother.1 (hroute.2.symm.trans hother.2))
    (fun _ hmem _ _ hroute => askedBy_of_resolver (hperm.mem_iff.mp hmem) hroute)
    (fun _ _ hasked => (exists_resolver_of_askedBy hasked).imp fun _ hresolver =>
      ⟨hperm.mem_iff.mpr hresolver.1, hresolver.2⟩)

end Resolvers

end PostProofs

section Gets

inductive FixedGet where
  | health
  | ready
  | metrics
  | runtimeStreams
  | runtimePrivateConnectors
  | runtimePrivateWs
  | recoveryTraces
  | bots
  | botEvents
  | strategyRuns
  | latestStrategyEvaluations
  | strategyEvents
  | orderIntents
  | orders
  | orderEvents
  | fills
  | alerts
  | alertEvents
  | marketOrderbookTop
  | cachedMarketOrderbookTop
  | marketRuntime
  | marketSnapshots
  | marketEvents
deriving DecidableEq

namespace FixedGet

def path : FixedGet → String
  | health => "/api/v1/health"
  | ready => "/api/v1/ready"
  | metrics => "/metrics"
  | runtimeStreams => "/api/v1/runtime/streams"
  | runtimePrivateConnectors => "/api/v1/runtime/private-connectors"
  | runtimePrivateWs => "/api/v1/runtime/private-ws"
  | recoveryTraces => "/api/v1/recovery-traces"
  | bots => "/api/v1/bots"
  | botEvents => "/api/v1/bots/events"
  | strategyRuns => "/api/v1/strategy-runs"
  | latestStrategyEvaluations => "/api/v1/strategy-runs/latest-evaluations"
  | strategyEvents => "/api/v1/strategy-runs/events"
  | orderIntents => "/api/v1/order-intents"
  | orders => "/api/v1/orders"
  | orderEvents => "/api/v1/orders/events"
  | fills => "/api/v1/fills"
  | alerts => "/api/v1/alerts"
  | alertEvents => "/api/v1/alerts/events"
  | marketOrderbookTop => "/api/v1/market-data/orderbook-top"
  | cachedMarketOrderbookTop => "/api/v1/market-data/orderbook-top/cached"
  | marketRuntime => "/api/v1/market-data/runtime"
  | marketSnapshots => "/api/v1/market-data/snapshots"
  | marketEvents => "/api/v1/market-data/events"

/-- In the order in which the dispatcher compares them. -/
def all : List FixedGet :=
  [health, ready, metrics, runtimeStreams, runtimePrivateConnectors, runtimePrivateWs,
    recoveryTraces, bots, botEvents, strategyRuns, latestStrategyEvaluations, strategyEvents,
    orderIntents, orders, orderEvents, fills, alerts, alertEvents, marketOrderbookTop,
    cachedMarketOrderbookTop, marketRuntime, marketSnapshots, marketEvents]

end FixedGet

inductive NamedGet where
  | latestConfig
  | configVersions
  | latestStrategyEvaluation
  | recoveryTraceDetail
  | botHeartbeats
  | strategyRunDetail
  | orderIntentDetail
  | orderDetail
  | alertDetail
  | botDetail
deriving DecidableEq

namespace NamedGet

/-- Details are read of identifiers without a slash, those of recovery traces apart. -/
def pattern : NamedGet → Pattern
  | latestConfig => ⟨"/api/v1/configs/", "/latest", false⟩
  | configVersions => ⟨"/api/v1/configs/", "/versions", false⟩
  | latestStrategyEvaluation => ⟨"/api/v1/strategy-runs/", "/latest-evaluation", false⟩
  | recoveryTraceDetail => ⟨"/api/v1/recovery-traces/", "", false⟩
  | botHeartbeats => ⟨"/api/v1/bots/", "/heartbeats", false⟩
  | strategyRunDetail => ⟨"/api/v1/strategy-runs/", "", true⟩
  | orderIntentDetail => ⟨"/api/v1/order-intents/", "", true⟩
  | orderDetail => ⟨"/api/v1/orders/", "", true⟩
  | alertDetail => ⟨"/api/v1/alerts/", "", true⟩
  | botDetail => ⟨"/api/v1/bots/", "", true⟩

/-- In the order in which the resolvers try them. -/
def all : List NamedGet :=
  [latestConfig, configVersions, latestStrategyEvaluation, recoveryTraceDetail, botHeartbeats,
    strategyRunDetail, orderIntentDetail, orderDetail, alertDetail, botDetail]

end NamedGet

inductive GetRoute where
  | fixed (handler : FixedGet)
  | named (handler : NamedGet) (id : String)
deriving DecidableEq

def fixedGet (handler : FixedGet) (path : String) : Option GetRoute :=
  if path = handler.path then some (.fixed handler) else none

def namedGet (handler : NamedGet) (path : String) : Option GetRoute :=
  (handler.pattern.id? path).map (.named handler)

def dispatchGet (path : String) : Option GetRoute :=
  (FixedGet.all.map fixedGet ++ NamedGet.all.map namedGet).findSome? fun resolver => resolver path

end Gets

section GetProofs

theorem FixedGet.mem_all (handler : FixedGet) : handler ∈ all := by
  cases handler <;> simp [all]

theorem NamedGet.mem_all (handler : NamedGet) : handler ∈ all := by
  cases handler <;> simp [all]

theorem FixedGet.path_injective : Function.Injective FixedGet.path := by
  have hnodup : (all.map path).Nodup := by simp [all, path]
  exact fun handler other => List.inj_on_of_nodup_map hnodup handler.mem_all other.mem_all

namespace NamedGet

def prefixes : List String :=
  ["/api/v1/configs/", "/api/v1/strategy-runs/", "/api/v1/recovery-traces/", "/api/v1/bots/",
    "/api/v1/order-intents/", "/api/v1/orders/", "/api/v1/alerts/"]

theorem pre_mem_prefixes (handler : NamedGet) : handler.pattern.pre ∈ prefixes := by
  cases handler <;> simp [pattern, prefixes]

/-- Neither of two prefixes goes on with the other. -/
theorem prefixes_apart {pre other : String} (hpre : pre ∈ prefixes) (hother : other ∈ prefixes)
    (hne : pre ≠ other) : ¬ pre.toList <+: other.toList := by
  let Apart (pre other : String) : Prop :=
    ¬ pre.toList <+: other.toList ∧ ¬ other.toList <+: pre.toList
  have hpairs : prefixes.Pairwise Apart := by simp [prefixes, Apart]
  have hsymm : Std.Symm Apart := ⟨fun _ _ => And.symm⟩
  exact (hpairs.forall hpre hother hne).1

/-- Handlers of one resource differ in the segment that follows the identifier. -/
theorem excludes_of_pre_eq {handler other : NamedGet} (hne : handler ≠ other)
    (hpre : handler.pattern.pre = other.pattern.pre) :
    handler.pattern.Excludes other.pattern := by
  have hlatest : Pattern.IsSegment "/latest" := ⟨_, String.toList_ofList, by decide⟩
  have hversions : Pattern.IsSegment "/versions" := ⟨_, String.toList_ofList, by decide⟩
  have hevaluation : Pattern.IsSegment "/latest-evaluation" :=
    ⟨_, String.toList_ofList, by decide⟩
  have hheartbeats : Pattern.IsSegment "/heartbeats" := ⟨_, String.toList_ofList, by decide⟩
  cases handler <;> cases other <;>
    first | exact absurd rfl hne | (simp [pattern] at hpre; done) | skip
  case latestConfig.configVersions =>
    exact Pattern.excludes_of_segments hlatest hversions (by simp [pattern])
  case configVersions.latestConfig =>
    exact Pattern.excludes_of_segments hversions hlatest (by simp [pattern])
  case latestStrategyEvaluation.strategyRunDetail =>
    exact Pattern.excludes_of_flat (p := latestStrategyEvaluation.pattern)
      (q := strategyRunDetail.pattern) rfl hevaluation rfl rfl
  case strategyRunDetail.latestStrategyEvaluation =>
    exact (Pattern.excludes_of_flat (p := latestStrategyEvaluation.pattern)
      (q := strategyRunDetail.pattern) rfl hevaluation rfl rfl).symm
  case botHeartbeats.botDetail =>
    exact Pattern.excludes_of_flat (p := botHeartbeats.pattern) (q := botDetail.pattern)
      rfl hheartbeats rfl rfl
  case botDetail.botHeartbeats =>
    exact (Pattern.excludes_of_flat (p := botHeartbeats.pattern) (q := botDetail.pattern)
      rfl hheartbeats rfl rfl).symm

theorem excludes_pattern {handler other : NamedGet} (hne : handler ≠ other) :
    handler.pattern.Excludes other.pattern := by
  by_cases hpre : handler.pattern.pre = other.pattern.pre
  · exact excludes_of_pre_eq hne hpre
  · have hmem := handler.pre_mem_prefixes
    have hmem' := other.pre_mem_prefixes
    exact Pattern.excludes_of_prefixes (prefixes_apart hmem hmem' hpre)
      (prefixes_apart hmem' hmem (Ne.symm hpre))

end NamedGet

variable {path id : String} {route : GetRoute}

theorem fixedGets_eq_some_iff :
    ((FixedGet.all.map fixedGet).findSome? fun resolver => resolver path) = some route ↔
      ∃ handler, route = .fixed handler ∧ path = handler.path := by
  refine findSome?_eq_some_iff (R := fun path route =>
    ∃ handler, route = GetRoute.fixed handler ∧ path = handler.path) ?_ ?_ ?_
  · intro path route other hroute hother
    obtain ⟨handler, rfl, hpath⟩ := hroute
    obtain ⟨handler', rfl, hpath'⟩ := hother
    rw [FixedGet.path_injective (hpath.symm.trans hpath')]
  · intro resolver hmem path route hroute
    obtain ⟨handler, -, rfl⟩ := List.mem_map.mp hmem
    unfold fixedGet at hroute
    split_ifs at hroute with hpath
    exact ⟨handler, (Option.some.inj hroute).symm, hpath⟩
  · intro path route hroute
    obtain ⟨handler, rfl, hpath⟩ := hroute
    exact ⟨fixedGet handler, List.mem_map_of_mem handler.mem_all, if_pos hpath⟩

theorem namedGets_eq_some_iff :
    ((NamedGet.all.map namedGet).findSome? fun resolver => resolver path) = some route ↔
      ∃ handler id, route = .named handler id ∧ handler.pattern.id? path = some id := by
  refine findSome?_eq_some_iff (R := fun path route =>
    ∃ handler id, route = GetRoute.named handler id ∧ handler.pattern.id? path = some id) ?_ ?_ ?_
  · intro path route other hroute hother
    obtain ⟨handler, id, rfl, hid⟩ := hroute
    obtain ⟨handler', id', rfl, hid'⟩ := hother
    obtain rfl : handler = handler' := by
      by_contra hne
      obtain ⟨hadmits, hpath⟩ := Pattern.id?_eq_some_iff.mp hid
      obtain ⟨hadmits', hpath'⟩ := Pattern.id?_eq_some_iff.mp hid'
      exact NamedGet.excludes_pattern hne id id' hadmits hadmits' (hpath.symm.trans hpath')
    rw [Option.some.inj (hid.symm.trans hid')]
  · intro resolver hmem path route hroute
    obtain ⟨handler, -, rfl⟩ := List.mem_map.mp hmem
    obtain ⟨id, hid, hroute⟩ := Option.map_eq_some_iff.mp hroute
    exact ⟨handler, id, hroute.symm, hid⟩
  · intro path route hroute
    obtain ⟨handler, id, rfl, hid⟩ := hroute
    exact ⟨namedGet handler, List.mem_map_of_mem handler.mem_all,
      Option.map_eq_some_iff.mpr ⟨id, hid, rfl⟩⟩

/-- **Dispatch of reads.** A read reaches a handler with an identifier exactly when its path
is the one of that handler with that identifier, unless the path is a fixed one: then what it
names is out of reach. -/
theorem dispatchGet_eq_some_iff : dispatchGet path = some route ↔
    match route with
    | .fixed handler => path = handler.path
    | .named handler id => handler.pattern.Admits id ∧ path = handler.pattern.path id ∧
        ∀ other : FixedGet, path ≠ other.path := by
  rw [dispatchGet, List.findSome?_append, Option.or_eq_some_iff, fixedGets_eq_some_iff,
    namedGets_eq_some_iff, ← Option.not_isSome_iff_eq_none, Option.isSome_iff_exists]
  simp only [fixedGets_eq_some_iff, Pattern.id?_eq_some_iff]
  cases route with
  | fixed handler => simp
  | named handler id =>
      simp only [reduceCtorEq, false_and, exists_false, false_or, GetRoute.named.injEq]
      constructor
      · rintro ⟨hfree, handler', id', ⟨rfl, rfl⟩, hadmits, hpath⟩
        exact ⟨hadmits, hpath, fun other hother => hfree ⟨_, other, rfl, hother⟩⟩
      · rintro ⟨hadmits, hpath, hfree⟩
        refine ⟨?_, handler, id, ⟨rfl, rfl⟩, hadmits, hpath⟩
        rintro ⟨_, other, -, hother⟩
        exact hfree other hother

end GetProofs

end TradingPlatform.Routes

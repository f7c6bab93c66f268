import TradingPlatform.Strategy.RuntimeLoader

/-! # What a load answers

A load skips a run for one of a few reasons, none of which has to do with the
intents and orders of the run; a payload that it gives says what the store has
of these.
-/

namespace TradingPlatform.Strategy

open Storage MarketData

/-- The reasons for which a load skips a run. -/
def loadReasons : List String :=
  ["BOT_NOT_FOUND", "CONFIG_NOT_FOUND", "CONFIG_INVALID", "RUNTIME_DISABLED",
    "RUNTIME_INPUTS_MISSING", "RUNTIME_INPUTS_INVALID", "BALANCE_SNAPSHOT_UNAVAILABLE",
    "MARKET_SNAPSHOT_NOT_FOUND"]

section Reasons

variable {sources : LoaderSources} {bot : BotDetail} {run : StrategyRun} {spec : RuntimeSpec}
  {skip : Skip}

theorem reason_of_acceptRuntimeSpec {configJson : Json}
    (haccept : acceptRuntimeSpec configJson = .error skip) : skip.reason ∈ loadReasons := by
  unfold acceptRuntimeSpec at haccept
  split at haccept
  · split at haccept
    · split at haccept
      · rw [← Except.error.inj haccept]
        decide
      · split_ifs at haccept
        · dsimp only at haccept
          split at haccept
          · rw [← Except.error.inj haccept]
            decide
          · rw [← Except.error.inj haccept]
            decide
          · cases haccept
        · rw [← Except.error.inj haccept]
          simp [loadReasons]
    · rw [← Except.error.inj haccept]
      decide
  · rw [← Except.error.inj haccept]
    decide

theorem reason_of_loadRuntimeSpec
    (hloaded : loadRuntimeSpec sources.getBotDetail sources.listConfigVersions run =
      .ok (.error skip)) : skip.reason ∈ loadReasons := by
  unfold loadRuntimeSpec at hloaded
  split_ifs at hloaded
  · rw [← Except.error.inj (Except.ok.inj hloaded)]
    decide
  · obtain ⟨bot, -, hloaded⟩ := bind_eq_ok_iff.mp hloaded
    cases bot with
    | none =>
        rw [← Except.error.inj (Except.ok.inj hloaded)]
        decide
    | some bot =>
        obtain ⟨version, -, hloaded⟩ := bind_eq_ok_iff.mp hloaded
        cases version with
        | none =>
            rw [← Except.error.inj (Except.ok.inj hloaded)]
            decide
        | some version =>
            have haccept := Except.ok.inj hloaded
            cases hspec : acceptRuntimeSpec version.configJson with
            | error other =>
                rw [hspec] at haccept
                rw [← Except.error.inj haccept]
                exact reason_of_acceptRuntimeSpec hspec
            | ok spec =>
                rw [hspec] at haccept
                cases haccept

theorem reason_of_loadRuntimeConfigBalanceSnapshots {runtimeSpec : Dict} {exchanges : List String}
    {baseAsset quoteAsset isoNow : String}
    (hloaded : loadRuntimeConfigBalanceSnapshots runtimeSpec exchanges baseAsset quoteAsset isoNow =
      .error skip) : skip.reason ∈ loadReasons := by
  unfold loadRuntimeConfigBalanceSnapshots at hloaded
  dsimp only at hloaded
  split at hloaded
  · cases hloaded
  · rw [← Except.error.inj hloaded]
    simp [loadReasons]

theorem reason_of_privateBalanceSnapshot {baseAsset quoteAsset isoNow exchange : String}
    {result : Exchange.PrivateExchangeResult}
    (hsnapshot : privateBalanceSnapshot baseAsset quoteAsset isoNow exchange result = .error skip) :
    skip.reason ∈ loadReasons := by
  unfold privateBalanceSnapshot at hsnapshot
  split_ifs at hsnapshot
  · rw [← Except.error.inj hsnapshot]
    simp [loadReasons]
  · split at hsnapshot
    · cases hsnapshot
    · rw [← Except.error.inj hsnapshot]
      simp [loadReasons]

theorem reason_of_privateBalances {connectors : List (String × BalanceReader)}
    {baseAsset quoteAsset isoNow : String} {exchanges : List String}
    (hloaded : privateBalances connectors baseAsset quoteAsset isoNow exchanges =
      .ok (.error skip)) :
    skip.reason ∈ loadReasons := by
  induction exchanges with
  | nil => cases hloaded
  | cons exchange rest ih =>
      unfold privateBalances at hloaded
      split at hloaded
      · rw [← Except.error.inj (Except.ok.inj hloaded)]
        simp [loadReasons]
      next reader _ =>
        obtain ⟨result, -, hloaded⟩ := bind_eq_ok_iff.mp hloaded
        split at hloaded
        next other hsnapshot =>
          rw [← Except.error.inj (Except.ok.inj hloaded)]
          exact reason_of_privateBalanceSnapshot hsnapshot
        next =>
          obtain ⟨later, hlater, hloaded⟩ := bind_eq_ok_iff.mp hloaded
          have hskip := Except.ok.inj hloaded
          cases later with
          | error other =>
              obtain rfl := Except.error.inj hskip
              exact ih hlater
          | ok balances => cases hskip

theorem reason_of_loadBalanceSnapshots {runtimeSpec : Dict} {exchanges : List String}
    {baseAsset quoteAsset runMode botMode isoNow : String}
    {connectors : Option (List (String × BalanceReader))}
    (hloaded : loadBalanceSnapshots runtimeSpec exchanges baseAsset quoteAsset runMode botMode
      isoNow connectors = .ok (.error skip)) : skip.reason ∈ loadReasons := by
  unfold loadBalanceSnapshots at hloaded
  dsimp only at hloaded
  split_ifs at hloaded
  · rw [← Except.error.inj (Except.ok.inj hloaded)]
    simp [loadReasons]
  · unfold loadPrivateExchangeBalanceSnapshots at hloaded
    split at hloaded
    · rw [← Except.error.inj (Except.ok.inj hloaded)]
      simp [loadReasons]
    · obtain ⟨loaded, hprivate, hloaded⟩ := bind_eq_ok_iff.mp hloaded
      have hskip := Except.ok.inj hloaded
      cases loaded with
      | error other =>
          rw [← Except.error.inj hskip]
          exact reason_of_privateBalances hprivate
      | ok balances => cases hskip
  · exact reason_of_loadRuntimeConfigBalanceSnapshots (Except.ok.inj hloaded)
  · rw [← Except.error.inj (Except.ok.inj hloaded)]
    simp [loadReasons]

theorem reason_of_loadRuntimeInputs
    (hloaded : loadRuntimeInputs sources bot run spec = .ok (.skipped skip)) :
    skip.reason ∈ loadReasons := by
  unfold loadRuntimeInputs at hloaded
  obtain ⟨snapshots, -, hloaded⟩ := bind_eq_ok_iff.mp hloaded
  split at hloaded
  · unfold loadBookedInputs at hloaded
    obtain ⟨orderbooks, -, hloaded⟩ := bind_eq_ok_iff.mp hloaded
    obtain ⟨balances, hbalances, hloaded⟩ := bind_eq_ok_iff.mp hloaded
    cases balances with
    | error other =>
        obtain rfl := LoadResult.skipped.inj (Except.ok.inj hloaded)
        exact reason_of_loadBalanceSnapshots hbalances
    | ok balances =>
        obtain ⟨payload, -, hloaded⟩ := bind_eq_ok_iff.mp hloaded
        cases hloaded
  · rw [← LoadResult.skipped.inj (Except.ok.inj hloaded)]
    simp [loadReasons]

/-- A load that skips a run does so for one of its own reasons. -/
theorem reason_of_load
    (hloaded : loadArbitrageRuntimePayload sources run = .ok (.skipped skip)) :
    skip.reason ∈ loadReasons := by
  unfold loadArbitrageRuntimePayload at hloaded
  obtain ⟨loaded, hspec, hloaded⟩ := bind_eq_ok_iff.mp hloaded
  cases loaded with
  | error other =>
      obtain rfl := LoadResult.skipped.inj (Except.ok.inj hloaded)
      exact reason_of_loadRuntimeSpec hspec
  | ok both => exact reason_of_loadRuntimeInputs hloaded

end Reasons

section States

variable {sources : LoaderSources} {run : StrategyRun}

/-- What the loaded state of a run says of its intents and orders. -/
structure StateOf (intents : List OrderIntent) (orders : List Order) (payload state : Dict) :
    Prop where
  found : payload.get "runtime_state" = .obj state
  duplicate : optionalField state "duplicate_intent_active" (.bool false) =
    .bool (intents.any (·.status ∈ activeIntentStatuses))
  openOrders : optionalField state "open_order_count" (.int 0) =
    .int (orders.filter (·.status ∈ activeOrderStatuses)).length

/-- A missing field is as false as one that is read as null. -/
theorem truthy_optionalField_false (fields : Dict) (key : String) :
    (optionalField fields key (.bool false)).truthy = (fields.get key).truthy := by
  unfold optionalField Dict.get
  cases fields.get? key <;> rfl

/-- The market of a loaded run is neither blank nor has it blanks at its ends. -/
theorem exists_market_of_load {payload : Dict}
    (hload : loadArbitrageRuntimePayload sources run = .ok (.payload payload)) :
    ∃ market, payload.get "market" = .str market ∧ Text.strip market = market ∧ market ≠ "" := by
  obtain ⟨bot, spec, orderbooks, balances, hpayload⟩ := exists_runtimePayload_of_load hload
  unfold runtimePayload at hpayload
  obtain ⟨baseOrderbook, -, hpayload⟩ := bind_eq_ok_iff.mp hpayload
  obtain ⟨hedgeOrderbook, -, hpayload⟩ := bind_eq_ok_iff.mp hpayload
  obtain ⟨baseBalance, -, hpayload⟩ := bind_eq_ok_iff.mp hpayload
  obtain ⟨hedgeBalance, -, hpayload⟩ := bind_eq_ok_iff.mp hpayload
  obtain ⟨state, -, hfields⟩ := bind_eq_ok_iff.mp hpayload
  refine ⟨spec.market, ?_, ?_, spec.market_ne⟩
  · rw [← Except.ok.inj hfields]
    rfl
  · rw [spec.market_eq, Text.strip_strip]

/-- The state that is loaded is what the store has of the run. -/
theorem exists_stateOf_of_load {payload : Dict} {intents : List OrderIntent} {orders : List Order}
    (hintents : sources.listOrderIntents run.runId = .ok intents)
    (horders : sources.listOrders run.runId = .ok orders)
    (hload : loadArbitrageRuntimePayload sources run = .ok (.payload payload)) :
    ∃ state, StateOf intents orders payload state := by
  obtain ⟨bot, spec, orderbooks, balances, hpayload⟩ := exists_runtimePayload_of_load hload
  unfold runtimePayload at hpayload
  obtain ⟨baseOrderbook, -, hpayload⟩ := bind_eq_ok_iff.mp hpayload
  obtain ⟨hedgeOrderbook, -, hpayload⟩ := bind_eq_ok_iff.mp hpayload
  obtain ⟨baseBalance, -, hpayload⟩ := bind_eq_ok_iff.mp hpayload
  obtain ⟨hedgeBalance, -, hpayload⟩ := bind_eq_ok_iff.mp hpayload
  obtain ⟨state, hstate, hfields⟩ := bind_eq_ok_iff.mp hpayload
  unfold runtimeDefaults at hstate
  rw [hintents, horders] at hstate
  obtain ⟨listed, hlisted, hstate⟩ := bind_eq_ok_iff.mp hstate
  obtain ⟨opened, hopened, hstate⟩ := bind_eq_ok_iff.mp hstate
  obtain ⟨cap, -, hstate⟩ := bind_eq_ok_iff.mp hstate
  obtain rfl := Except.ok.inj hlisted
  obtain rfl := Except.ok.inj hopened
  refine ⟨state, ?_, ?_, ?_⟩
  · rw [← Except.ok.inj hfields]
    rfl
  · rw [← Except.ok.inj hstate]
    rfl
  · rw [← Except.ok.inj hstate]
    rfl

end States

section Inputs

theorem get_of_requiredField {payload : Dict} {key : String} {value : Json}
    (hvalue : requiredField payload key = .ok value) : payload.get key = value := by
  unfold requiredField at hvalue
  split at hvalue
  next found hfound =>
    rw [Dict.get, hfound, Except.ok.inj hvalue]
    rfl
  next => cases hvalue

theorem loadObject_eq_ok {value : Json} {fields : Dict} (hload : loadObject value = .ok fields) :
    value = .obj fields := by
  cases value with
  | obj other => rw [Except.ok.inj hload]
  | null | bool | int | float | str | arr => cases hload

/-- Listed candidates are evaluated in the market and on the state of their payload. -/
theorem loadCandidateStrategyInputs_state {payload : Dict} {exchanges : List Json}
    {inputs : ArbitrageCandidateInputs}
    (hlist : payload.get "candidate_exchanges" = .arr exchanges)
    (hload : loadCandidateStrategyInputs payload = .ok inputs) :
    inputs.market = (payload.get "market").toText ∧
      ∃ state, payload.get "runtime_state" = .obj state ∧
        loadRuntimeState state = .ok inputs.runtimeState := by
  unfold loadCandidateStrategyInputs at hload
  obtain ⟨botId, -, hload⟩ := bind_eq_ok_iff.mp hload
  obtain ⟨strategyRunId, -, hload⟩ := bind_eq_ok_iff.mp hload
  obtain ⟨riskValue, -, hload⟩ := bind_eq_ok_iff.mp hload
  obtain ⟨risk, -, hload⟩ := bind_eq_ok_iff.mp hload
  obtain ⟨stateValue, hstateValue, hload⟩ := bind_eq_ok_iff.mp hload
  obtain ⟨state, hstate, hload⟩ := bind_eq_ok_iff.mp hload
  rw [hlist] at hload
  dsimp only at hload
  split at hload
  next =>
    split_ifs at hload
    obtain ⟨candidates, -, hload⟩ := bind_eq_ok_iff.mp hload
    obtain ⟨symbol, -, hload⟩ := bind_eq_ok_iff.mp hload
    obtain ⟨market, hmarket, hload⟩ := bind_eq_ok_iff.mp hload
    obtain ⟨riskConfig, -, hload⟩ := bind_eq_ok_iff.mp hload
    obtain ⟨runtimeState, hruntimeState, hload⟩ := bind_eq_ok_iff.mp hload
    obtain rfl := Except.ok.inj hload
    refine ⟨congrArg Json.toText (get_of_requiredField hmarket).symm, state, ?_, hruntimeState⟩
    exact (get_of_requiredField hstateValue).trans (loadObject_eq_ok hstate)
  next => cases hload

/-- Two exchanges are evaluated under the names and on the state of their payload. -/
theorem loadStrategyInputs_fields {payload : Dict} {inputs : ArbitrageInputs}
    (hload : loadStrategyInputs payload = .ok inputs) :
    inputs.market = (payload.get "market").toText ∧
      inputs.baseExchange = (payload.get "base_exchange").toText ∧
      inputs.hedgeExchange = (payload.get "hedge_exchange").toText ∧
      ∃ state, payload.get "runtime_state" = .obj state ∧
        loadRuntimeState state = .ok inputs.runtimeState := by
  simp only [loadStrategyInputs, bind_eq_ok_iff] at hload
  obtain ⟨_, -, _, -, _, -, _, -, _, -, _, -, _, -, _, -, _, -, _, -, stateValue, hstateValue,
    state,
    hstate, _, -, _, -, _, -, market, hmarket, base, hbase, hedge, hhedge, _, -, _, -, _, -, _, -,
      _, -,
    runtimeState, hruntimeState, hinputs⟩ := hload
  obtain rfl := Except.ok.inj hinputs
  refine ⟨congrArg Json.toText (get_of_requiredField hmarket).symm,
    congrArg Json.toText (get_of_requiredField hbase).symm,
    congrArg Json.toText (get_of_requiredField hhedge).symm, state, ?_, hruntimeState⟩
  exact (get_of_requiredField hstateValue).trans (loadObject_eq_ok hstate)

/-- What a state is loaded with of intents and orders. -/
theorem loadRuntimeState_facts {fields : Dict} {state : RuntimeState}
    (hload : loadRuntimeState fields = .ok state) :
    state.duplicateIntentActive =
        (optionalField fields "duplicate_intent_active" (.bool false)).truthy ∧
      loadInt (optionalField fields "open_order_count" (.int 0)) = .ok state.openOrderCount := by
  obtain ⟨nowValue, -, hload⟩ := bind_eq_ok_iff.mp hload
  obtain ⟨now, -, hload⟩ := bind_eq_ok_iff.mp hload
  obtain ⟨count, hcount, hload⟩ := bind_eq_ok_iff.mp hload
  obtain ⟨cap, -, hload⟩ := bind_eq_ok_iff.mp hload
  obtain ⟨recent, -, hload⟩ := bind_eq_ok_iff.mp hload
  obtain ⟨remaining, -, hload⟩ := bind_eq_ok_iff.mp hload
  obtain rfl := Except.ok.inj hload
  exact ⟨rfl, hcount⟩

end Inputs

end TradingPlatform.Strategy

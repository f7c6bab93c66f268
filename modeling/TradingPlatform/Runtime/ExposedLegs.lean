import TradingPlatform.Execution.OrderEvidence
import TradingPlatform.Runtime.ExecuteIntent

/-! # Exposed legs

A leg that an exchange accepted should never be left without a recovery trace.
A failed submit always opens one. A call that raises, or an answer whose numbers
cannot be read without raising, does not: what it leaves exposed stays so unless the
bot already had an open trace.
-/

namespace TradingPlatform.Runtime

open Storage Exchange Execution

section Legs

variable {σ : Type} (P : StoreProtocol σ) (ctx : DecimalContext)
  (connectors : List (String × PrivateExchangeConnector)) (intent : OrderIntent)

/-- The answer of a leg is read as an order, its numbers do not overflow, and the
store takes the order. -/
structure LegPlaced (leg : ConnectorLeg) (connector : PrivateExchangeConnector)
    (response : PrivateExchangeResult) (s s' : σ) : Prop where
  answered : (connector.placeOrder (requestPayload intent leg)).answer = .ok response
  persisted : ∃ fields item,
    orderItemFromResponse response intent leg connector.name = .ok fields ∧
      itemOverflows ctx fields = false ∧
      validateOrderItems ctx (P.listOrders s) intent false "private_connectors" 1 [] []
        [.obj fields] = .ok [item] ∧
      (P.createOrder (item.newOrder intent.intentId) s).1.createdRow.isSome ∧
      (P.createOrder (item.newOrder intent.intentId) s).2 = s'

/-- Placing the legs comes to a call that raises, or whose answer is read as an order
with a quantity or price that overflows, while an order is taken: by that call, by a
placed leg before it, or before the legs. -/
inductive RaisesExposed : Bool → List ConnectorLeg → σ → Prop
  | raises {taken : Bool} {leg : ConnectorLeg} {rest : List ConnectorLeg} {s : σ}
      {connector : PrivateExchangeConnector} {text : String}
      (hlookup : connectors.lookup leg.exchangeName = some connector)
      (hraised : (connector.placeOrder (requestPayload intent leg)).answer = .error text)
      (htaken : taken || (connector.placeOrder (requestPayload intent leg)).accepted) :
      RaisesExposed taken (leg :: rest) s
  | overflows {taken : Bool} {leg : ConnectorLeg} {rest : List ConnectorLeg} {s : σ}
      {connector : PrivateExchangeConnector} {response : PrivateExchangeResult} {fields : Dict}
      (hlookup : connectors.lookup leg.exchangeName = some connector)
      (hanswered : (connector.placeOrder (requestPayload intent leg)).answer = .ok response)
      (hfields : orderItemFromResponse response intent leg connector.name = .ok fields)
      (hoverflows : itemOverflows ctx fields)
      (htaken : taken || (connector.placeOrder (requestPayload intent leg)).accepted) :
      RaisesExposed taken (leg :: rest) s
  | placed {taken : Bool} {leg : ConnectorLeg} {rest : List ConnectorLeg} {s s' : σ}
      {connector : PrivateExchangeConnector} {response : PrivateExchangeResult}
      (hlookup : connectors.lookup leg.exchangeName = some connector)
      (hplaced : LegPlaced P ctx intent leg connector response s s')
      (hrest : RaisesExposed (taken || (connector.placeOrder (requestPayload intent leg)).accepted)
        rest s') :
      RaisesExposed taken (leg :: rest) s

variable {P ctx connectors intent}

/-- A single order of a response is persisted exactly when it passes the checks
and the store creates it. -/
theorem createOrdersFromResponse_single_iff {fields : Dict} {s s' : σ} :
    let placed := createOrdersFromResponse P ctx intent (.arr [.obj fields]) false
      "private_connectors" s
    (placed.error = none ∧ placed.store = s') ↔
      ∃ item, validateOrderItems ctx (P.listOrders s) intent false "private_connectors" 1 [] []
          [.obj fields] = .ok [item] ∧
        (P.createOrder (item.newOrder intent.intentId) s).1.createdRow.isSome ∧
        (P.createOrder (item.newOrder intent.intentId) s).2 = s' := by
  simp only [createOrdersFromResponse]
  cases hitems : validateOrderItems ctx (P.listOrders s) intent false "private_connectors" 1 [] []
      [.obj fields] with
  | error message => simp
  | ok items =>
      obtain ⟨item, rfl, -⟩ := eq_of_validateOrderItems_single hitems
      simp only [createOrderItems, Option.map_eq_none_iff, Except.ok.injEq, List.cons.injEq,
        and_true, exists_eq_left']
      cases hrow : (P.createOrder (item.newOrder intent.intentId) s).1.createdRow with
      | none =>
          rw [createRows_cons_refused
            (fun item : OrderItem => P.createOrder (item.newOrder intent.intentId)) hrow]
          simp
      | some row =>
          rw [createRows_cons_created
            (fun item : OrderItem => P.createOrder (item.newOrder intent.intentId)) hrow]
          simp [createRows]

theorem legPlaced_iff {leg : ConnectorLeg} {connector : PrivateExchangeConnector}
    {response : PrivateExchangeResult} {s s' : σ}
    (hanswer : (connector.placeOrder (requestPayload intent leg)).answer = .ok response) :
    LegPlaced P ctx intent leg connector response s s' ↔
      ∃ fields, orderItemFromResponse response intent leg connector.name = .ok fields ∧
        itemOverflows ctx fields = false ∧
        (createOrdersFromResponse P ctx intent (.arr [.obj fields]) false "private_connectors"
          s).error = none ∧
        (createOrdersFromResponse P ctx intent (.arr [.obj fields]) false "private_connectors"
          s).store = s' := by
  constructor
  · rintro ⟨-, fields, item, hfields, hreads, hitem⟩
    exact ⟨fields, hfields, hreads, createOrdersFromResponse_single_iff.mpr ⟨item, hitem⟩⟩
  · rintro ⟨fields, hfields, hreads, hplaced⟩
    obtain ⟨item, hitem⟩ := createOrdersFromResponse_single_iff.mp hplaced
    exact ⟨hanswer, fields, item, hfields, hreads, hitem⟩

/-- After an answered call, reading the order or the legs after a placed one can raise. -/
theorem raisesExposed_answered_iff {taken : Bool} {leg : ConnectorLeg} {rest : List ConnectorLeg}
    {s : σ} {connector : PrivateExchangeConnector} {response : PrivateExchangeResult}
    (hlookup : connectors.lookup leg.exchangeName = some connector)
    (hanswer : (connector.placeOrder (requestPayload intent leg)).answer = .ok response) :
    RaisesExposed P ctx connectors intent taken (leg :: rest) s ↔
      (∃ fields, orderItemFromResponse response intent leg connector.name = .ok fields ∧
        itemOverflows ctx fields = true ∧
        (taken || (connector.placeOrder (requestPayload intent leg)).accepted) = true) ∨
      ∃ s', LegPlaced P ctx intent leg connector response s s' ∧
        RaisesExposed P ctx connectors intent
          (taken || (connector.placeOrder (requestPayload intent leg)).accepted) rest s' := by
  constructor
  · intro hexposed
    cases hexposed with
    | raises hother hraised _ =>
        obtain rfl := Option.some.inj (hlookup.symm.trans hother)
        exact absurd (hanswer.symm.trans hraised) (by simp)
    | overflows hother hanswered hfields hoverflows htaken =>
        obtain rfl := Option.some.inj (hlookup.symm.trans hother)
        obtain rfl := Except.ok.inj (hanswer.symm.trans hanswered)
        exact Or.inl ⟨_, hfields, hoverflows, htaken⟩
    | placed hother hplaced hrest =>
        obtain rfl := Option.some.inj (hlookup.symm.trans hother)
        obtain rfl := Except.ok.inj (hanswer.symm.trans hplaced.answered)
        exact Or.inr ⟨_, hplaced, hrest⟩
  · rintro (⟨fields, hfields, hoverflows, htaken⟩ | ⟨s', hplaced, hrest⟩)
    · exact .overflows hlookup hanswer hfields hoverflows htaken
    · exact .placed hlookup hplaced hrest

/-- Some call of a run was accepted by its exchange. -/
def AnyAccepted (calls : List PlaceOrderCall) : Prop := ∃ call ∈ calls, call.accepted = true

variable (ctx) (connectors) (intent) in
/-- A run of legs raises with an order taken exactly when it comes to such a call. -/
theorem submitLegs_raised_iff (auto : Bool) (taken : Bool) (legs : List ConnectorLeg)
    (created : List Order) (s : σ) :
    let run := submitLegs P ctx connectors intent auto legs created s
    ((∃ text, run.outcome = .raised text) ∧ (taken = true ∨ AnyAccepted run.calls)) ↔
      RaisesExposed P ctx connectors intent taken legs s := by
  -- along the legs: taken says whether one before has been accepted
  induction legs generalizing taken created s with
  | nil =>
      refine iff_of_false ?_ nofun
      rintro ⟨⟨text, hraised⟩, -⟩
      exact absurd hraised (by simp [submitLegs])
  | cons leg rest ih =>
      simp only [submitLegs]
      cases hlookup : connectors.lookup leg.exchangeName with
      | none =>
          refine iff_of_false (by simp) ?_
          rintro (⟨hsome, -, -⟩ | ⟨hsome, -, -, -, -⟩ | ⟨hsome, -, -⟩) <;> simp [hlookup] at hsome
      | some connector =>
          cases hanswer : (connector.placeOrder (requestPayload intent leg)).answer with
          | error text =>
              simp only [hanswer]
              constructor
              · rintro ⟨-, htaken⟩
                refine .raises hlookup hanswer ?_
                simpa [AnyAccepted] using htaken
              · intro hexposed
                refine ⟨⟨text, rfl⟩, ?_⟩
                cases hexposed with
                | raises hother _ htaken =>
                    obtain rfl := Option.some.inj (hlookup.symm.trans hother)
                    simpa [AnyAccepted] using htaken
                | overflows hother hanswered _ _ _ =>
                    obtain rfl := Option.some.inj (hlookup.symm.trans hother)
                    exact absurd (hanswer.symm.trans hanswered) (by simp)
                | placed hother hplaced _ =>
                    obtain rfl := Option.some.inj (hlookup.symm.trans hother)
                    exact absurd (hanswer.symm.trans hplaced.answered) (by simp)
          | ok response =>
              rw [raisesExposed_answered_iff hlookup hanswer]
              simp only [legPlaced_iff hanswer]
              cases hfields : orderItemFromResponse response intent leg connector.name with
              | error message => simp [hanswer, hfields]
              | ok fields =>
                  simp only [hanswer, hfields, Except.ok.injEq, exists_eq_left']
                  -- an accepted answer whose numbers overflow raises with its order live
                  by_cases hoverflows : itemOverflows ctx fields = true
                  · simp [hoverflows, AnyAccepted]
                  rw [if_neg hoverflows]
                  simp only [hoverflows, Bool.false_eq_true, false_and, false_or, true_and]
                  -- whatever the store answers, only an error keeps the next leg from its turn
                  generalize createOrdersFromResponse P ctx intent (.arr [.obj fields]) false
                    "private_connectors" s = placed
                  cases herror : placed.error with
                  | some message => simp
                  | none =>
                      simp only [true_and, exists_eq_left']
                      refine Iff.trans (and_congr_right' ?_) (ih
                        (taken || (connector.placeOrder (requestPayload intent leg)).accepted)
                        (created ++ placed.createdOrders) placed.store)
                      simp only [AnyAccepted, List.exists_mem_cons_iff, Bool.or_eq_true, or_assoc]

end Legs

section Execution

variable {σ : Type} {P : StoreProtocol σ} {ctx : DecimalContext} {s : σ}
  {connectors : List (String × PrivateExchangeConnector)}

/-- An execution whose legs were accepted somewhere has succeeded, or the bot is
left with an open recovery trace. -/
def RecoversAcceptedLegs (botId : String) (run : ExecutionRun σ) : Prop :=
  AnyAccepted run.calls →
    (∀ outcome, run.outcome = .ok outcome → outcome.status ≠ "submitted") →
    run.redis.HasOpenTrace botId

@[simp] theorem reportSubmit_recoveryTraces (e : IntentExecution) (stamps : ExecutionStamps)
    (reads : ReadStore) (result : ArbitrageSubmitResult) (redis : RedisRuntime) :
    (reportSubmit e stamps reads result redis).2.recoveryTraces = redis.recoveryTraces := by
  simp [reportSubmit]

theorem hasOpenTrace_congr {redis other : RedisRuntime}
    (hsame : redis.recoveryTraces = other.recoveryTraces) (botId : String) :
    redis.HasOpenTrace botId ↔ other.HasOpenTrace botId := by
  simp only [RedisRuntime.HasOpenTrace, RedisRuntime.getRecoveryTrace, hsame]

@[simp] theorem openRecoveryTrace_recoveryTraces (e : IntentExecution) (stamps : ExecutionStamps)
    (result : ArbitrageSubmitResult) (payload : Dict) (redis : RedisRuntime) :
    (openRecoveryTrace e stamps result payload redis).2.recoveryTraces =
      (redis.syncRecoveryTrace (recoveryTraceId stamps) (submitFailureTrace e stamps result)
        (stamps.isoNow 3)).recoveryTraces := by
  simp [openRecoveryTrace, RedisRuntime.getRecoveryTrace_syncRecoveryTrace]

/-- Opening a recovery trace leaves the bot with an open one. -/
theorem openRecoveryTrace_hasOpenTrace (e : IntentExecution) (stamps : ExecutionStamps)
    (result : ArbitrageSubmitResult) (payload : Dict) (redis : RedisRuntime) :
    (openRecoveryTrace e stamps result payload redis).2.HasOpenTrace e.botId := by
  rw [hasOpenTrace_congr (openRecoveryTrace_recoveryTraces e stamps result payload redis)]
  refine ⟨recoveryTraceId stamps, _, RedisRuntime.getRecoveryTrace_syncRecoveryTrace .., ?_, ?_⟩
  · simp [submitFailureTrace, Dict.merge, Dict.set, Dict.get, Dict.get?_cons]
  · have hstatus : ((submitFailureTrace e stamps result).merge
        [("recovery_trace_id", .str (recoveryTraceId stamps)),
          ("updated_at", .str (stamps.isoNow 3))]).get "status" = .str "active" := by
      simp [submitFailureTrace, Dict.merge, Dict.set, Dict.get, Dict.get?_cons]
    left
    rw [hstatus]
    decide +kernel

variable (ctx) (connectors) in
/-- A submit raises what placing the legs raises. -/
theorem submitPrivateConnectors_raises_iff (decision : SubmitDecision) (intent : OrderIntent)
    (auto : Bool) :
    let run := submitPrivateConnectors P ctx connectors decision intent auto s
    ((∃ text, run.result = .error text) ∧ AnyAccepted run.calls) ↔
      ∃ edge, decision.executableEdge = some edge ∧
        RaisesExposed P ctx connectors intent false (connectorLegs intent edge) s := by
  simp only [submitPrivateConnectors]
  cases hedge : decision.executableEdge with
  | none => simp
  | some edge =>
      simp only [Option.some.injEq, exists_eq_left']
      have hlegs := submitLegs_raised_iff (P := P) ctx connectors intent auto false
        (connectorLegs intent edge) [] s
      simp only [Bool.false_eq_true, false_or] at hlegs
      rw [← hlegs]
      generalize submitLegs P ctx connectors intent auto (connectorLegs intent edge) [] s = legs
      cases legs.outcome with
      | raised text => simp
      | failed result => simp
      | placed orders =>
          dsimp only
          split <;> simp

/-- An execution misses an accepted leg only when its submit raised. -/
theorem recoversAcceptedLegs_iff (e : IntentExecution) (stamps : ExecutionStamps)
    (reads : σ → ReadStore) (redis : RedisRuntime) :
    let run := e.adapter.submit P ctx e.decision e.intent e.autoUnwindOnFailure s
    RecoversAcceptedLegs e.botId (executePersistedArbitrageIntent e stamps P reads ctx redis s) ↔
      redis.HasOpenTrace e.botId ∨
        ¬ ((∃ text, run.result = .error text) ∧ AnyAccepted run.calls) := by
  simp only [RecoversAcceptedLegs, executePersistedArbitrageIntent]
  generalize e.adapter.submit P ctx e.decision e.intent e.autoUnwindOnFailure s = run
  cases hresult : run.result with
  | error text =>
      simp only [reduceCtorEq, false_implies, implies_true, true_implies, Except.error.injEq,
        exists_eq', true_and]
      tauto
  | ok result =>
      refine iff_of_true ?_ (by simp)
      by_cases hfailed : result.outcome = .submitFailed
      · simp only [hfailed, if_true]
        exact fun _ _ => openRecoveryTrace_hasOpenTrace e stamps result _ _
      · simp only [hfailed, if_false]
        exact fun _ hnot => absurd rfl (hnot _ rfl)

/-- An execution through the private connectors leaves no accepted leg without a
recovery trace exactly when the bot had an open trace before, or nothing raises
while an order is taken. -/
theorem executePersistedArbitrageIntent_recovers_iff (e : IntentExecution)
    (stamps : ExecutionStamps) (reads : σ → ReadStore) (redis : RedisRuntime) :
    RecoversAcceptedLegs e.botId
        (executePersistedArbitrageIntent { e with adapter := .privateConnectors connectors }
          stamps P
          reads ctx redis s) ↔
      redis.HasOpenTrace e.botId ∨
        ∀ edge, e.decision.executableEdge = some edge →
          ¬ RaisesExposed P ctx connectors e.intent false (connectorLegs e.intent edge) s := by
  have hraises := submitPrivateConnectors_raises_iff (P := P) (s := s) ctx connectors e.decision
    e.intent e.autoUnwindOnFailure
  refine (recoversAcceptedLegs_iff _ stamps reads redis).trans (or_congr_right ?_)
  refine (not_congr hraises).trans ?_
  simp only [not_exists, not_and]

/-- Upbit's connection is reset before its answer is read. -/
def resettingUpbit : PrivateExchangeConnector :=
  upbitConnector (fun _ => ⟨false, .error (.raised "[Errno 104] Connection reset by peer")⟩) "upbit"

/-- Coinone takes the buy order and upbit's connection is reset: the buy order is
exposed and no trace says so. -/
theorem execute_exposes_coinone_order :
    ∃ intent,
      (MemoryStore.withIntent .counting (oneUnitIntent "coinone" "upbit")).orderIntents.head? =
        some intent ∧
      ¬ RecoversAcceptedLegs intent.botId
        (executePersistedArbitrageIntent
          { decision := ⟨some unitEdge⟩
            reasonCode := "ARBITRAGE_OPPORTUNITY_FOUND"
            intent := intent
            runId := intent.strategyRunId
            botId := intent.botId
            adapter := .privateConnectors [("coinone", submittedCoinone), ("upbit", resettingUpbit)]
            autoUnwindOnFailure := true
            payloadBuilder := fun preview result =>
              [("lifecycle_preview", .str preview), ("submit_result", .obj result)] }
          ⟨fun _ => "2024-01-01T00:00:00Z", "0", "alert-1"⟩ (memoryStore .counting .default)
          (MemoryStore.reads .default) .default .empty
          (MemoryStore.withIntent .counting (oneUnitIntent "coinone" "upbit"))) := by
  refine ⟨_, rfl, fun hrecovers => ?_⟩
  rcases (recoversAcceptedLegs_iff _ _ _ _).mp hrecovers with ⟨id, trace, htrace, -⟩ | hreturned
  · simp [RedisRuntime.empty, RedisRuntime.getRecoveryTrace] at htrace
  · refine hreturned ⟨?_, ?_⟩
    · generalize hrun : SubmitAdapter.submit _ _ _ _ _ _ _ = run
      have hraised : run.result.toOption.isNone := by
        rw [← hrun]
        decide +kernel
      cases hresult : run.result with
      | error text => exact ⟨text, rfl⟩
      | ok result => simp [hresult, Except.toOption] at hraised
    · have haccepted : ∀ calls : List PlaceOrderCall,
          calls.any (·.accepted) = true → AnyAccepted calls := by
        intro calls hany
        simpa [AnyAccepted] using hany
      exact haccepted _ (by decide +kernel)

end Execution

end TradingPlatform.Runtime

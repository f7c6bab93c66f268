import TradingPlatform.Execution.Adapter

/-! # Submit results report what was persisted

A submit adds to the store the rows its result lists and no others, whatever
the store answers. The simulated adapter misses this when the store takes its
first fill and refuses the second one.
-/

namespace TradingPlatform.Execution

open Storage Exchange

variable {σ : Type} {P : StoreProtocol σ}

/-- The rows of a result are the rows added between two states of the store. -/
structure Reports (log : StoreLog P) (s : σ) (result : ArbitrageSubmitResult) (s' : σ) : Prop where
  orders : log.orderIds s' = log.orderIds s ++ result.createdOrders.map Order.orderId
  fills : log.fillIds s' = log.fillIds s ++ result.createdFills.map Fill.fillId

section Calls

variable {Item : Type}

theorem createRows_orders (log : StoreLog P) (request : Item → NewOrder) (items : List Item)
    (s : σ) :
    log.orderIds (createRows (fun item => P.createOrder (request item)) items s).store =
        log.orderIds s ++
          (createRows (fun item => P.createOrder (request item)) items s).rows.map
            (fun created => created.2.orderId) ∧
      log.fillIds (createRows (fun item => P.createOrder (request item)) items s).store =
        log.fillIds s := by
  refine ⟨createRows_log log.orderIds Order.orderId
    (fun item s => log.createOrder_orders (request item) s) items s, ?_⟩
  exact createRows_preserves (motive := fun s' => log.fillIds s' = log.fillIds s)
    (fun item s' hs => (log.createOrder_fills (request item) s').trans hs) items rfl

theorem createRows_fills (log : StoreLog P) (request : Item → NewFill) (items : List Item) (s : σ) :
    log.fillIds (createRows (fun item => P.createFill (request item)) items s).store =
        log.fillIds s ++
          (createRows (fun item => P.createFill (request item)) items s).rows.map
            (fun created => created.2.fillId) ∧
      log.orderIds (createRows (fun item => P.createFill (request item)) items s).store =
        log.orderIds s := by
  refine ⟨createRows_log log.fillIds Fill.fillId
    (fun item s => log.createFill_fills (request item) s) items s, ?_⟩
  exact createRows_preserves (motive := fun s' => log.orderIds s' = log.orderIds s)
    (fun item s' hs => (log.createFill_orders (request item) s').trans hs) items rfl

/-- Orders of a run have identifiers that are read as themselves. -/
theorem createRows_plain (log : StoreLog P) (request : Item → NewOrder) (items : List Item)
    (s : σ) :
    ∀ created ∈ (createRows (fun item => P.createOrder (request item)) items s).rows,
      created.2.HasPlainId :=
  createRows_forall (motive := fun _ order => order.HasPlainId) (fun _ => True)
    (fun _ _ _ => trivial)
    (fun item s order _ hrow => log.createdOrder_plain (request item) s order hrow) items trivial

variable (ctx : DecimalContext)

/-- What persisting the orders of a response adds. -/
theorem createOrdersFromResponse_log (log : StoreLog P) (intent : OrderIntent) (payload : Json)
    (normalize : Bool)
    (mode : String) (s : σ) :
    log.orderIds (createOrdersFromResponse P ctx intent payload normalize mode s).store =
        log.orderIds s ++
          (createOrdersFromResponse P ctx intent payload normalize mode s).createdOrders.map
            Order.orderId ∧
      log.fillIds (createOrdersFromResponse P ctx intent payload normalize mode s).store =
        log.fillIds s ∧
      ∀ order ∈ (createOrdersFromResponse P ctx intent payload normalize mode s).createdOrders,
        order.HasPlainId := by
  have hnone : ∀ error, log.orderIds s =
      log.orderIds s ++ (OrdersCreation.mk [] error s).createdOrders.map Order.orderId := by
    intro error
    simp [OrdersCreation.createdOrders]
  unfold createOrdersFromResponse
  split
  · split
    · exact ⟨hnone _, rfl, by simp [OrdersCreation.createdOrders]⟩
    next items _ =>
      obtain ⟨horders, hfills⟩ :=
        createRows_orders log (fun item : OrderItem => item.newOrder intent.intentId) items s
      refine ⟨?_, hfills, ?_⟩
      · simpa [OrdersCreation.createdOrders, createOrderItems, Function.comp_def] using horders
      · intro order hmem
        simp only [OrdersCreation.createdOrders, List.map_map, List.mem_map,
          Function.comp_apply] at hmem
        obtain ⟨created, hcreated, rfl⟩ := hmem
        exact createRows_plain log _ items s created hcreated
  · exact ⟨hnone _, rfl, by simp [OrdersCreation.createdOrders]⟩

theorem validateOrderItems_length {listOrders : String → List Order} {intent : OrderIntent}
    {normalize : Bool} {mode : String} {payload : List Json} {index : Nat}
    {seenLegs : List LegKey} {seenIds : List (String × String)} {items : List OrderItem}
    (hitems : validateOrderItems ctx listOrders intent normalize mode index seenLegs seenIds
      payload =
      .ok items) : items.length = payload.length := by
  induction payload generalizing index seenLegs seenIds items with
  | nil =>
      simp only [validateOrderItems, Except.ok.injEq] at hitems
      simp [← hitems]
  | cons value rest ih =>
      cases value with
      | obj fields =>
          simp only [validateOrderItems] at hitems
          split at hitems
          · exact absurd hitems (by simp)
          · simp only [require_eq_ok] at hitems
            obtain ⟨-, -, -, htail⟩ := hitems
            split at htail
            · exact absurd htail (by simp)
            next later hlater =>
              obtain rfl := Except.ok.inj htail
              simp [ih hlater]
      | null | bool | int | float | str | arr => simp [validateOrderItems] at hitems

/-- A response of one order that is not persisted leaves no row. -/
theorem createOrdersFromResponse_single (intent : OrderIntent) (item : Dict) (normalize : Bool)
    (mode : String) {s : σ}
    (herror : (createOrdersFromResponse P ctx intent (.arr [.obj item]) normalize mode s).error ≠
      none) :
    (createOrdersFromResponse P ctx intent (.arr [.obj item]) normalize mode s).createdOrders =
      [] := by
  unfold createOrdersFromResponse at herror ⊢
  simp only at herror ⊢
  split
  · rfl
  next items hitems =>
    rw [hitems] at herror
    have hrefused : (createOrderItems P intent items s).refusal ≠ none := by simpa using herror
    have hshort := createRows_length_lt_of_refusal hrefused
    rw [validateOrderItems_length ctx hitems] at hshort
    have hempty : (createOrderItems P intent items s).rows = [] := by
      refine List.eq_nil_of_length_eq_zero ?_
      simpa [createOrderItems] using hshort
    simp [OrdersCreation.createdOrders, hempty]

/-- What persisting the fills of a response adds. -/
theorem createFillsFromResponse_log (log : StoreLog P) (isoNow : Nat → String)
    (index : List (LegKey × Order))
    (payload : Json) (s : σ) :
    log.fillIds (createFillsFromResponse P ctx isoNow index payload s).store =
        log.fillIds s ++
          (createFillsFromResponse P ctx isoNow index payload s).createdFills.map Fill.fillId ∧
      log.orderIds (createFillsFromResponse P ctx isoNow index payload s).store =
        log.orderIds s := by
  unfold createFillsFromResponse
  split
  · simp
  · split
    · simp
    next items _ =>
      obtain ⟨hfills, horders⟩ := createRows_fills log FillItem.newFill items s
      exact ⟨by simpa [createFillItems, Function.comp_def] using hfills, horders⟩
  · simp

theorem refreshOrders_readOrderId (log : StoreLog P) {s : σ} {orders : List Order}
    (hplain : ∀ order ∈ orders, order.HasPlainId) :
    (refreshOrders P readOrderId s orders).map Order.orderId = orders.map Order.orderId := by
  refine refreshOrders_orderIds log fun order hmem id hid => ?_
  rw [readOrderId_of_plain (hplain order hmem), Option.mem_def] at hid
  exact (Option.some.inj hid).symm

end Calls

section Adapters

variable (log : StoreLog P) (ctx : DecimalContext)

theorem submitFailedResponse_reports (isoNow : Nat → String) (intent : OrderIntent) (auto : Bool)
    (payload : Dict) (s : σ) :
    Reports log s (submitFailedResponse P ctx isoNow intent auto payload s).1
      (submitFailedResponse P ctx isoNow intent auto payload s).2 := by
  obtain ⟨horders, hfills, hplain⟩ := createOrdersFromResponse_log ctx log intent
    (payload.get "orders") false "private_http" s
  simp only [submitFailedResponse]
  generalize createOrdersFromResponse P ctx intent (payload.get "orders") false "private_http" s =
    placed at *
  split
  · exact ⟨by simp [failureResult], by simp [failureResult]⟩
  · split
    · split
      · exact ⟨by simpa [failureResult] using horders, by simpa [failureResult] using hfills⟩
      · split
        · exact ⟨by simpa [failureResult] using horders, by simpa [failureResult] using hfills⟩
        · obtain ⟨hadded, hkept⟩ := createFillsFromResponse_log ctx log isoNow placed.orderIndex
            (payload.get "fills") placed.store
          refine ⟨?_, ?_⟩
          · simp [failureResult, hkept, horders, refreshOrders_readOrderId log hplain]
          · simp [failureResult, hadded, hfills]
    · exact ⟨by simp [failureResult], by simp [failureResult]⟩

theorem submitAcceptedResponse_reports (isoNow : Nat → String) (outcome : SubmitOutcome)
    (preview : Option String) (intent : OrderIntent) (auto : Bool) (payload : Dict) (s : σ) :
    Reports log s
      (submitAcceptedResponse P ctx isoNow outcome preview intent auto payload s).1
      (submitAcceptedResponse P ctx isoNow outcome preview intent auto payload s).2 := by
  obtain ⟨horders, hfills, hplain⟩ := createOrdersFromResponse_log ctx log intent
    (payload.get "orders") (outcome = .filled) "private_http" s
  simp only [submitAcceptedResponse]
  generalize createOrdersFromResponse P ctx intent (payload.get "orders") (outcome = .filled)
    "private_http" s = placed at *
  split
  · exact ⟨by simp [failureResult], by simp [failureResult]⟩
  · split
    · exact ⟨by simpa [failureResult] using horders, by simpa [failureResult] using hfills⟩
    · split
      · exact ⟨by simpa [failureResult] using horders, by simpa [failureResult] using hfills⟩
      · obtain ⟨hadded, hkept⟩ := createFillsFromResponse_log ctx log isoNow placed.orderIndex
          (payload.get "fills") placed.store
        have hrefreshed := refreshOrders_readOrderId (s := (createFillsFromResponse P ctx isoNow
          placed.orderIndex (payload.get "fills") placed.store).store) log hplain
        split
        · exact ⟨by simp [failureResult, hkept, horders, hrefreshed],
            by simp [failureResult, hadded, hfills]⟩
        · split
          next hnone =>
            exact ⟨by simp [failureResult, hkept, horders, hrefreshed],
              by simp [failureResult, hadded, hfills, hnone.2]⟩
          · split
            · exact ⟨by simp [failureResult, hkept, horders, hrefreshed],
                by simp [failureResult, hadded, hfills]⟩
            · exact ⟨by simp [hkept, horders, hrefreshed], by simp [hadded, hfills]⟩

theorem submitPrivateHttp_reports (isoNow : Nat → String) (url : Option String)
    (response : Except String Dict) (intent : OrderIntent) (auto : Bool) (s : σ) :
    Reports log s (submitPrivateHttp P ctx isoNow url response intent auto s).1
      (submitPrivateHttp P ctx isoNow url response intent auto s).2 := by
  have hfail : ∀ reason details, Reports log s
      (failureResult auto "private_http" reason details [] []) s :=
    fun reason details => ⟨by simp [failureResult], by simp [failureResult]⟩
  unfold submitPrivateHttp
  split
  · exact hfail _ _
  · split
    · exact hfail _ _
    · simp only [submitResponse]
      split
      · exact hfail _ _
      · split
        · exact hfail _ _
        · split
          · exact submitFailedResponse_reports log ctx isoNow intent auto _ s
          · exact submitAcceptedResponse_reports log ctx isoNow _ _ intent auto _ s
          · exact submitAcceptedResponse_reports log ctx isoNow _ _ intent auto _ s

/-- Placing legs adds the orders placed, on top of those placed before. -/
theorem submitLegs_reports (connectors : List (String × PrivateExchangeConnector))
    (intent : OrderIntent) (auto : Bool) (legs : List ConnectorLeg) (created : List Order)
    (start s : σ) (horders : log.orderIds s = log.orderIds start ++ created.map Order.orderId)
    (hfills : log.fillIds s = log.fillIds start)
    (hplain : ∀ order ∈ created, order.HasPlainId) :
    let run := submitLegs P ctx connectors intent auto legs created s
    match run.outcome with
    | .raised _ => True
    | .failed result => Reports log start result run.store
    | .placed orders =>
        log.orderIds run.store = log.orderIds start ++ orders.map Order.orderId ∧
          log.fillIds run.store = log.fillIds start ∧
          ∀ order ∈ orders, order.HasPlainId := by
  -- along the legs: what was created so far is what the log has more than at the start
  induction legs generalizing created s with
  | nil => exact ⟨horders, hfills, hplain⟩
  | cons leg rest ih =>
      have hfail : ∀ reason details, Reports log start
          (failureResult auto "private_connectors" reason details created []) s :=
        fun reason details => ⟨by simpa [failureResult] using horders,
          by simpa [failureResult] using hfills⟩
      simp only [submitLegs]
      cases connectors.lookup leg.exchangeName with
      | none => exact hfail _ _
      | some connector =>
          cases hanswer : (connector.placeOrder (requestPayload intent leg)).answer with
          | error text => simp [hanswer]
          | ok response =>
              cases hitem : orderItemFromResponse response intent leg connector.name with
              | error message =>
                  simp only [hanswer, hitem]
                  exact hfail _ _
              | ok item =>
                  obtain ⟨hadded, hkept, hnew⟩ := createOrdersFromResponse_log ctx log intent
                    (.arr [.obj item]) false "private_connectors" s
                  have hsingle := createOrdersFromResponse_single (P := P) (s := s) ctx intent
                    item false "private_connectors"
                  simp only [hanswer, hitem]
                  by_cases hoverflows : itemOverflows ctx item = true
                  · simp [if_pos hoverflows]
                  rw [if_neg hoverflows]
                  generalize createOrdersFromResponse P ctx intent (.arr [.obj item]) false
                    "private_connectors" s = placed at *
                  cases herror : placed.error with
                  | some message =>
                      have hempty := hsingle (by simp [herror])
                      rw [hempty] at hadded
                      exact ⟨by simpa [failureResult, hadded] using horders,
                        by simpa [failureResult, hkept] using hfills⟩
                  | none =>
                      refine ih (created ++ placed.createdOrders) placed.store ?_ ?_ ?_
                      · simp [hadded, horders]
                      · rw [hkept, hfills]
                      · intro order hmem
                        rcases List.mem_append.mp hmem with hold | hrow
                        · exact hplain order hold
                        · exact hnew order hrow

theorem submitPrivateConnectors_reports (connectors : List (String × PrivateExchangeConnector))
    (decision : SubmitDecision) (intent : OrderIntent) (auto : Bool) (s : σ)
    {result : ArbitrageSubmitResult}
    (hresult : (submitPrivateConnectors P ctx connectors decision intent auto s).result =
      .ok result) :
    Reports log s result
      (submitPrivateConnectors P ctx connectors decision intent auto s).store := by
  unfold submitPrivateConnectors at hresult ⊢
  split at hresult
  next hnone =>
    obtain rfl := Except.ok.inj hresult
    exact ⟨by simp [failureResult], by simp [failureResult]⟩
  next edge hedge =>
    have hlegs := submitLegs_reports log ctx connectors intent auto (connectorLegs intent edge) []
      s s (by simp) rfl (by simp)
    simp only at hresult hlegs ⊢
    generalize submitLegs P ctx connectors intent auto (connectorLegs intent edge) [] s = run at *
    cases hrun : run.outcome with
    | raised text => simp [hrun] at hresult
    | failed failure =>
        simp only [hrun, Except.ok.injEq] at hresult hlegs
        subst hresult
        simpa using hlegs
    | placed created =>
        simp only [hrun] at hresult hlegs
        obtain ⟨horders, hfills, hplain⟩ := hlegs
        have hrefreshed := refreshOrders_readOrderId (s := run.store) log hplain
        split at hresult
        next message hmessage =>
          obtain rfl := Except.ok.inj hresult
          simp only [hmessage]
          exact ⟨by simp [failureResult, horders, hrefreshed], by simp [failureResult, hfills]⟩
        next hnone =>
          obtain rfl := Except.ok.inj hresult
          simp only [hnone]
          exact ⟨by simp [horders, hrefreshed], by simp [hfills]⟩

end Adapters

section Simulated

variable {token filledAt : Nat → String} {decision : SubmitDecision} {intent : OrderIntent}

/-- The store takes both simulated orders and the first fill, and refuses the second fill. -/
def SecondFillRefused (P : StoreProtocol σ) (token filledAt : Nat → String)
    (decision : SubmitDecision) (intent : OrderIntent) (s : σ) : Prop :=
  ∃ edge buyOrder sellOrder fill s₁ s₂ s₃,
    decision.executableEdge = some edge ∧
    P.createOrder (simulatedOrder token intent (0, "buy", intent.buyExchange)) s =
      (⟨.created, some buyOrder⟩, s₁) ∧
    P.createOrder (simulatedOrder token intent (1, "sell", intent.sellExchange)) s₁ =
      (⟨.created, some sellOrder⟩, s₂) ∧
    P.createFill (simulatedFill token filledAt (1, buyOrder, edge.buyVwap)) s₂ =
      (⟨.created, some fill⟩, s₃) ∧
    (P.createFill (simulatedFill token filledAt (2, sellOrder, edge.sellVwap)) s₃).1.createdRow =
      none

/-- Two simulated orders are placed when neither is refused. -/
theorem createSimulatedOrders_eq_of_noRefusal {s : σ}
    (hnone : (createSimulatedOrders P token intent s).refusal = none) :
    ∃ buyOrder sellOrder s₁,
      P.createOrder (simulatedOrder token intent (0, "buy", intent.buyExchange)) s =
        (⟨.created, some buyOrder⟩, s₁) ∧
      P.createOrder (simulatedOrder token intent (1, "sell", intent.sellExchange)) s₁ =
        (⟨.created, some sellOrder⟩, (createSimulatedOrders P token intent s).store) ∧
      (createSimulatedOrders P token intent s).rows.map Prod.snd = [buyOrder, sellOrder] := by
  simp only [createSimulatedOrders, simulatedLegs, createRows] at hnone ⊢
  rcases hbuy : P.createOrder (simulatedOrder token intent (0, "buy", intent.buyExchange)) s with
    ⟨buyAnswer, s₁⟩
  simp only [hbuy] at hnone ⊢
  rcases hbuyRow : buyAnswer.createdRow with _ | buyOrder
  · simp [hbuyRow] at hnone
  rcases hsell : P.createOrder (simulatedOrder token intent (1, "sell", intent.sellExchange)) s₁
    with ⟨sellAnswer, s₂⟩
  simp only [hbuyRow, hsell] at hnone ⊢
  rcases hsellRow : sellAnswer.createdRow with _ | sellOrder
  · simp [hsellRow] at hnone
  refine ⟨buyOrder, sellOrder, s₁, ?_, ?_, ?_⟩
  · rw [StoreAnswer.eq_created_of_createdRow hbuyRow]
  · rw [← StoreAnswer.eq_created_of_createdRow hsellRow]
    exact hsell
  · rfl

/-- When simulated fills stop at a refusal, no fill was made or only the first. -/
theorem createSimulatedFills_refused {edge : EdgePrices} {buyOrder sellOrder : Order} {s : σ}
    (hsome : (createSimulatedFills P token filledAt edge [buyOrder, sellOrder] s).refusal ≠ none) :
    (createSimulatedFills P token filledAt edge [buyOrder, sellOrder] s).rows = [] ∨
      ∃ fill s₁,
        P.createFill (simulatedFill token filledAt (1, buyOrder, edge.buyVwap)) s =
          (⟨.created, some fill⟩, s₁) ∧
        (P.createFill (simulatedFill token filledAt (2, sellOrder, edge.sellVwap))
          s₁).1.createdRow =
          none := by
  simp only [createSimulatedFills, simulatedFillSpecs, List.zip_cons_cons, List.zip_nil_right,
    createRows] at hsome ⊢
  rcases hfirst : P.createFill (simulatedFill token filledAt (1, buyOrder, edge.buyVwap)) s with
    ⟨answer, s₁⟩
  simp only [hfirst] at hsome ⊢
  rcases hrow : answer.createdRow with _ | fill
  · exact Or.inl rfl
  · refine Or.inr ⟨fill, s₁, by rw [StoreAnswer.eq_created_of_createdRow hrow], ?_⟩
    simp only [hrow] at hsome
    rcases hsecond :
        P.createFill (simulatedFill token filledAt (2, sellOrder, edge.sellVwap)) s₁ with
      ⟨second, s₂⟩
    rcases hsecondRow : second.createdRow with _ | last
    · rfl
    · simp [hsecond, hsecondRow] at hsome

/-- A refused second fill comes after two orders and one fill. -/
theorem SecondFillRefused.rows {s : σ}
    (hrefused : SecondFillRefused P token filledAt decision intent s) :
    (createSimulatedOrders P token intent s).refusal = none ∧
      ∀ edge, decision.executableEdge = some edge →
        (createSimulatedFills P token filledAt edge
          ((createSimulatedOrders P token intent s).rows.map Prod.snd)
          (createSimulatedOrders P token intent s).store).refusal ≠ none ∧
        (createSimulatedFills P token filledAt edge
          ((createSimulatedOrders P token intent s).rows.map Prod.snd)
          (createSimulatedOrders P token intent s).store).rows ≠ [] := by
  obtain ⟨edge, buyOrder, sellOrder, fill, s₁, s₂, s₃, hedge, hbuy, hsell, hfirst, hsecond⟩ :=
    hrefused
  have hplaced : createSimulatedOrders P token intent s =
      ⟨[((0, "buy", intent.buyExchange), buyOrder), ((1, "sell", intent.sellExchange), sellOrder)],
        none, s₂⟩ := by
    simp [createSimulatedOrders, simulatedLegs, createRows, hbuy, hsell]
  refine ⟨by rw [hplaced], fun other hother => ?_⟩
  obtain rfl := Option.some.inj (hedge.symm.trans hother)
  simp [hplaced, createSimulatedFills, simulatedFillSpecs, createRows, hfirst, hsecond]

variable (token) (filledAt) (decision) (intent) in
theorem submitArbitrageOrders_reports_iff (log : StoreLog P) (mode : String) (auto : Bool) (s : σ) :
    Reports log s (submitArbitrageOrders P token filledAt decision intent mode auto s).1
        (submitArbitrageOrders P token filledAt decision intent mode auto s).2 ↔
      ¬ (Text.lower (Text.strip mode) = "simulate_fill" ∧
        SecondFillRefused P token filledAt decision intent s) := by
  obtain ⟨horders, hfills⟩ := createRows_orders log (simulatedOrder token intent)
    (simulatedLegs intent) s
  rw [← createSimulatedOrders] at horders hfills
  simp only [submitArbitrageOrders]
  -- the exits of the submit in turn: only a refusal of the second fill hides a row
  split
  next hfailure =>
    rw [hfailure]
    exact iff_of_true ⟨by simp, by simp⟩ (by simp)
  next =>
    split
    next hrefusal =>
      refine iff_of_true ⟨by simpa [Function.comp_def] using horders, by simpa using hfills⟩ ?_
      rintro ⟨-, hsecond⟩
      rw [hsecond.rows.1] at hrefusal
      exact absurd hrefusal (by simp)
    next hnone =>
      split
      next hfill =>
        split
        next hedge =>
          refine iff_of_true ⟨by simpa [Function.comp_def] using horders, by simpa using hfills⟩ ?_
          rintro ⟨-, edge, -, -, -, -, -, -, hsome, -⟩
          rw [hedge] at hsome
          exact absurd hsome (by simp)
        next edge hedge =>
          obtain ⟨buyOrder, sellOrder, s₁, hbuy, hsell, hrows⟩ :=
            createSimulatedOrders_eq_of_noRefusal hnone
          obtain ⟨hadded, hkept⟩ := createRows_fills log (simulatedFill token filledAt)
            (simulatedFillSpecs edge ((createSimulatedOrders P token intent s).rows.map Prod.snd))
            (createSimulatedOrders P token intent s).store
          rw [← createSimulatedFills] at hadded hkept
          split
          next hrefused =>
            simp only [hfill, true_and]
            constructor
            · -- Nothing is reported of the fills, so none was made.
              intro hreports hsecond
              have hlog := hreports.fills
              rw [hadded, hfills] at hlog
              exact (hsecond.rows.2 edge hedge).2 (by simpa using hlog)
            · intro hnot
              refine ⟨by simpa [hkept, Function.comp_def] using horders, ?_⟩
              have hempty : (createSimulatedFills P token filledAt edge
                  ((createSimulatedOrders P token intent s).rows.map Prod.snd)
                  (createSimulatedOrders P token intent s).store).rows = [] := by
                have hsome : (createSimulatedFills P token filledAt edge
                    ((createSimulatedOrders P token intent s).rows.map Prod.snd)
                    (createSimulatedOrders P token intent s).store).refusal ≠ none := by
                  simp [hrefused]
                rw [hrows] at hsome ⊢
                rcases createSimulatedFills_refused hsome with hnil | ⟨fill, s₂, hfirst, hsecond⟩
                · exact hnil
                · exact absurd ⟨edge, buyOrder, sellOrder, fill, s₁, _, s₂, hedge, hbuy, hsell,
                    hfirst, hsecond⟩ hnot
              simp [hadded, hempty, hfills]
          next hnoRefusal =>
            refine iff_of_true ⟨?_, by simp [hadded, hfills, Function.comp_def]⟩ ?_
            · -- rows that are read again keep their identifiers
              rw [hkept, refreshOrders_orderIds log]
              · simpa [Function.comp_def] using horders
              · intro order _ id hid
                simp only [simulatedOrderId] at hid
                split at hid
                · exact absurd hid (by simp)
                · exact (Option.some.inj hid).symm
            · rintro ⟨-, hsecond⟩
              exact (hsecond.rows.2 edge hedge).1 hnoRefusal
      next hother =>
        exact iff_of_true ⟨by simpa [Function.comp_def] using horders, by simpa using hfills⟩
          (fun h => hother h.1)

end Simulated

section Submit

/-- A submit that returns reports exactly the rows it added. -/
def ReportsOnReturn (log : StoreLog P) (s : σ) (run : ConnectorsSubmit σ) : Prop :=
  ∀ result, run.result = .ok result → Reports log s result run.store

/-- The adapter fills simulated orders, and the store takes the first fill but
not the second. -/
def DropsFirstFill (P : StoreProtocol σ) (adapter : SubmitAdapter) (decision : SubmitDecision)
    (intent : OrderIntent) (s : σ) : Prop :=
  ∃ mode token filledAt, adapter = .simulated mode token filledAt ∧
    Text.lower (Text.strip mode) = "simulate_fill" ∧
    SecondFillRefused P token filledAt decision intent s

/-- A submit reports exactly what it persisted, unless a simulated fill is
refused after another one was made. -/
theorem submit_reports_iff (log : StoreLog P) (ctx : DecimalContext) (adapter : SubmitAdapter)
    (decision : SubmitDecision) (intent : OrderIntent) (auto : Bool) (s : σ) :
    ReportsOnReturn log s (adapter.submit P ctx decision intent auto s) ↔
      ¬ DropsFirstFill P adapter decision intent s := by
  cases adapter with
  | simulated mode token filledAt =>
      have hiff := submitArbitrageOrders_reports_iff token filledAt decision intent log mode auto s
      simpa [SubmitAdapter.submit, ReportsOnReturn, DropsFirstFill] using hiff
  | privateHttp url response isoNow =>
      refine iff_of_true ?_ (by simp [DropsFirstFill])
      intro result hresult
      obtain rfl := Except.ok.inj hresult
      exact submitPrivateHttp_reports log ctx isoNow url response intent auto s
  | privateConnectors connectors =>
      refine iff_of_true ?_ (by simp [DropsFirstFill])
      intro result hresult
      exact submitPrivateConnectors_reports log ctx connectors decision intent auto s hresult
  | privateStub =>
      refine iff_of_true ?_ (by simp [DropsFirstFill])
      intro result hresult
      obtain rfl := Except.ok.inj hresult
      exact ⟨by simp [SubmitAdapter.submit], by simp [SubmitAdapter.submit]⟩

/-- The memory store while another client cancels an order before its fill,
once some fill was made. -/
def cancelledMeanwhile (p : Platform) (ctx : DecimalContext) : StoreProtocol MemoryStore :=
  { memoryStore p ctx with
    createFill := fun new s =>
      MemoryStore.createFill p ctx new
        (if s.fills.isEmpty then s
          else (MemoryStore.updateOrderStatus p new.orderId "cancelled" s).2) }

def cancelledMeanwhileLog (p : Platform) (ctx : DecimalContext) :
    StoreLog (cancelledMeanwhile p ctx) :=
  { memoryStoreLog p ctx with
    createFill_orders := by
      intro new s
      simp only [cancelledMeanwhile]
      split
      · exact (memoryStoreLog p ctx).createFill_orders new s
      · exact ((memoryStoreLog p ctx).createFill_orders new _).trans
          (MemoryStore.updateOrderStatus_rows p new.orderId "cancelled" s).1
    createFill_fills := by
      intro new s
      simp only [cancelledMeanwhile]
      split
      · exact (memoryStoreLog p ctx).createFill_fills new s
      · have hadded := (memoryStoreLog p ctx).createFill_fills new
          (MemoryStore.updateOrderStatus p new.orderId "cancelled" s).2
        simpa [memoryStoreLog, memoryStore,
          (MemoryStore.updateOrderStatus_rows p new.orderId "cancelled" s).2] using hadded }

/-- One unit of a market, bought at one exchange and sold at another. -/
def oneUnitIntent (buyExchange sellExchange : String) : NewOrderIntent where
  strategyRunId := ""
  market := "XRP-KRW"
  buyExchange := buyExchange
  sellExchange := sellExchange
  sidePair := "buy_then_sell"
  targetQty := .one
  expectedProfit := none
  expectedProfitRatio := none
  status := "created"
  decisionContext := []

/-- The simulated fill of an intent whose sell order another client cancels. -/
theorem submit_drops_first_fill :
    ∃ intent,
      (MemoryStore.withIntent .counting (oneUnitIntent "upbit" "bithumb")).orderIntents.head? =
        some intent ∧
      ¬ ReportsOnReturn (cancelledMeanwhileLog .counting .default)
        (MemoryStore.withIntent .counting (oneUnitIntent "upbit" "bithumb"))
        ((SubmitAdapter.simulated "simulate_fill" (fun n => toString n) (fun _ => "")).submit
          (cancelledMeanwhile .counting .default) .default
          ⟨some ⟨.one, .one⟩⟩ intent false
          (MemoryStore.withIntent .counting (oneUnitIntent "upbit" "bithumb"))) := by
  refine ⟨_, rfl, fun hreports => ?_⟩
  have hfills := congrArg List.length (hreports _ rfl).fills
  revert hfills
  decide +kernel

end Submit

end TradingPlatform.Execution

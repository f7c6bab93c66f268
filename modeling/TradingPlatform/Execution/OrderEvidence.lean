import TradingPlatform.Execution.PersistedOrders
import TradingPlatform.Execution.Reporting

/-! # Evidence of accepted orders

An order that an exchange accepted should leave a row. The private_connectors
adapter keeps a row exactly of the accepted legs it can read as a live order
with an allowed status, a positive quantity and price, and the intent's own
exchange and market texts.
-/

namespace TradingPlatform.Execution

open Storage Exchange

section Evidence

/-- The order a result reports as accepted. -/
def acceptedOrderId (response : PrivateExchangeResult) : Option String :=
  if response.outcome = "ok" then
    match response.data with
    | .obj payload => jsonText (Dict.get payload "exchange_order_id")
    | _ => none
  else none

/-- The result of a leg reports an order whose identifier the store does not have. -/
def AcceptedFresh (s : MemoryStore) (leg : ConnectorLeg) (response : PrivateExchangeResult)
    (id : String) : Prop :=
  acceptedOrderId response = some id ∧
    ∀ order ∈ s.orders, order.exchangeName = leg.exchangeName → order.exchangeOrderId ≠ some id

/-- An order row of the intent for a leg's accepted order, among the given identifiers. -/
def LegRecorded (s : MemoryStore) (intent : OrderIntent) (leg : ConnectorLeg) (id : String)
    (orderIds : List String) : Prop :=
  ∃ order ∈ s.orders, order.orderIntentId = intent.intentId ∧
    order.exchangeName = leg.exchangeName ∧ order.exchangeOrderId = some id ∧
    order.orderId ∈ orderIds

/-- The quantity and price a leg's answer is recorded with. -/
def legQty (ctx : DecimalContext) (intent : OrderIntent) (payload : Dict) : Numeral :=
  (jsonNumberText ctx
    (.str ((jsonText (payload.get "requested_qty")).getD intent.targetQty.text))).getD
      intent.targetQty

def legPrice (ctx : DecimalContext) (leg : ConnectorLeg) (payload : Dict) : Option Numeral :=
  jsonNumberText ctx
    (.str ((jsonText (payload.get "requested_price")).getD leg.requestedPrice.text))

/-- The answer of a leg is read as a live order with a positive quantity and
price, and the intent's exchange and market are read as themselves. -/
structure LegRecordable (ctx : DecimalContext) (intent : OrderIntent) (leg : ConnectorLeg)
    (payload : Dict) : Prop where
  live : payloadStatus payload ∉ terminalStatuses
  allowed : Text.lower ((jsonText (.str (payloadStatus payload))).getD "submitted") ∈
    allowedOrderStatuses
  named : leg.exchangeName ≠ ""
  expected : (leg.side, leg.exchangeName) ∈ expectedLegs intent
  market : (jsonText (.str intent.market)).getD intent.market = intent.market
  qty : 0 < (legQty ctx intent payload).value
  price : ∀ price ∈ legPrice ctx leg payload, 0 < price.value

instance (ctx : DecimalContext) (intent : OrderIntent) (leg : ConnectorLeg) (payload : Dict) :
    Decidable (LegRecordable ctx intent leg payload) :=
  decidable_of_iff
    (payloadStatus payload ∉ terminalStatuses ∧
      Text.lower ((jsonText (.str (payloadStatus payload))).getD "submitted") ∈
        allowedOrderStatuses ∧
      leg.exchangeName ≠ "" ∧ (leg.side, leg.exchangeName) ∈ expectedLegs intent ∧
      (jsonText (.str intent.market)).getD intent.market = intent.market ∧
      0 < (legQty ctx intent payload).value ∧
      (legPrice ctx leg payload).all isPositiveNumberText)
    ⟨fun ⟨hlive, hallowed, hnamed, hleg, hmarket, hqty, hprice⟩ =>
      ⟨hlive, hallowed, hnamed, hleg, hmarket, hqty, all_isPositiveNumberText.mp hprice⟩,
     fun h => ⟨h.live, h.allowed, h.named, h.expected, h.market, h.qty,
      all_isPositiveNumberText.mpr h.price⟩⟩

/-- The answer of a leg is read as a live order whose quantity or price overflows. -/
def LegRaises (ctx : DecimalContext) (intent : OrderIntent) (leg : ConnectorLeg)
    (payload : Dict) : Prop :=
  payloadStatus payload ∉ terminalStatuses ∧
    (numberOverflows ctx ((jsonText (payload.get "requested_qty")).getD intent.targetQty.text) ||
      numberOverflows ctx
        ((jsonText (payload.get "requested_price")).getD leg.requestedPrice.text))

/-- Every accepted leg that is reached is recordable, unless reading it raises; a
leg is reached when the legs before it were accepted and recordable. -/
def LegsRecordable (ctx : DecimalContext) (s : MemoryStore)
    (connectors : List (String × PrivateExchangeConnector)) (intent : OrderIntent) :
    List ConnectorLeg → Prop
  | [] => True
  | leg :: rest => ∀ connector response payload id,
      connectors.lookup leg.exchangeName = some connector →
      (connector.placeOrder (requestPayload intent leg)).answer = .ok response →
      response.data = .obj payload → AcceptedFresh s leg response id →
        LegRaises ctx intent leg payload ∨
          LegRecordable ctx intent leg payload ∧ LegsRecordable ctx s connectors intent rest

/-- The orders a run of legs reports, unless it raised. -/
def LegsOutcome.reported : LegsOutcome → Option (List String)
  | .placed orders => some (orders.map Order.orderId)
  | .failed result => some (result.createdOrders.map Order.orderId)
  | .raised _ => none

/-- Every leg whose call was answered with a fresh order has a reported row. -/
def KeepsLegs (start : MemoryStore) (intent : OrderIntent) (legs : List ConnectorLeg)
    (calls : List PlaceOrderCall) (s : MemoryStore) (orderIds : List String) : Prop :=
  ∀ placed ∈ legs.zip calls, ∀ response id, placed.2.answer = .ok response →
    AcceptedFresh start placed.1 response id → LegRecorded s intent placed.1 id orderIds

/-- A submit that returns keeps every accepted order. -/
def KeepsAcceptedOrders (start : MemoryStore) (decision : SubmitDecision) (intent : OrderIntent)
    (run : ConnectorsSubmit MemoryStore) : Prop :=
  ∀ result edge, run.result = .ok result → decision.executableEdge = some edge →
    KeepsLegs start intent (connectorLegs intent edge) run.calls run.store
      (result.createdOrders.map Order.orderId)

end Evidence

variable {p : Platform} {ctx : DecimalContext} {intent : OrderIntent}
  {connectors : List (String × PrivateExchangeConnector)}

section Items

theorem acceptedOrderId_eq_some {response : PrivateExchangeResult} {id : String} :
    acceptedOrderId response = some id ↔
      response.outcome = "ok" ∧ ∃ payload : Dict, response.data = .obj payload ∧
        jsonText (payload.get "exchange_order_id") = some id := by
  unfold acceptedOrderId
  split_ifs with houtcome
  · cases response.data <;> simp [houtcome]
  · simp [houtcome]

/-- The item of a live answer repeats the leg and the answer. -/
structure LegItem (intent : OrderIntent) (leg : ConnectorLeg) (payload fields : Dict)
    (id : String) : Prop where
  exchange : fields.get "exchange_name" = .str leg.exchangeName
  side : fields.get "side" = .str leg.side
  market : fields.get "market" = .str intent.market
  qty : fields.get "requested_qty" =
    .str ((jsonText (payload.get "requested_qty")).getD intent.targetQty.text)
  price : fields.get "requested_price" =
    .str ((jsonText (payload.get "requested_price")).getD leg.requestedPrice.text)
  id : fields.get "exchange_order_id" = .str id
  status : fields.get "status" = .str (payloadStatus payload)

theorem orderItemFromResponse_ok {response : PrivateExchangeResult} {leg : ConnectorLeg}
    {connectorName : String} {fields : Dict}
    (hfields : orderItemFromResponse response intent leg connectorName = .ok fields) :
    ∃ payload id, response.data = .obj payload ∧ acceptedOrderId response = some id ∧
      payloadStatus payload ∉ terminalStatuses ∧ LegItem intent leg payload fields id := by
  simp only [orderItemFromResponse] at hfields
  split_ifs at hfields with houtcome
  split at hfields
  next payload hdata =>
    split_ifs at hfields with hterminal
    split at hfields
    · exact absurd hfields (by simp)
    next id hid =>
      obtain rfl := Except.ok.inj hfields
      exact ⟨payload, id, hdata,
        acceptedOrderId_eq_some.mpr ⟨not_not.mp houtcome, payload, hdata, hid⟩, hterminal,
        ⟨rfl, rfl, rfl, rfl, rfl, rfl, rfl⟩⟩
  next => exact absurd hfields (by simp)

variable (intent) in
/-- A live answer with an identifier is read as an item. -/
theorem exists_orderItemFromResponse {response : PrivateExchangeResult} (leg : ConnectorLeg)
    (connectorName : String) {id : String} {payload : Dict}
    (hid : acceptedOrderId response = some id)
    (hdata : response.data = .obj payload) (hlive : payloadStatus payload ∉ terminalStatuses) :
    ∃ fields, orderItemFromResponse response intent leg connectorName = .ok fields := by
  obtain ⟨houtcome, other, hother, hid⟩ := acceptedOrderId_eq_some.mp hid
  obtain rfl := Json.obj.inj (hdata.symm.trans hother)
  simp [orderItemFromResponse, houtcome, hdata, hlive, hid]

/-- Reading the item of a leg raises exactly when its quantity or price overflows. -/
theorem LegItem.itemOverflows_iff {leg : ConnectorLeg} {payload fields : Dict} {id : String}
    (hleg : LegItem intent leg payload fields id)
    (hlive : payloadStatus payload ∉ terminalStatuses) :
    itemOverflows ctx fields = true ↔ LegRaises ctx intent leg payload := by
  simp [itemOverflows, LegRaises, hleg.qty, hleg.price, jsonNumberOverflows, hlive]

theorem validateOrderItems_single {listOrders : String → List Order} {normalize : Bool}
    {mode : String} {fields : Dict} {item : OrderItem}
    (hitem : readOrderItem ctx intent normalize mode 1 fields = .ok item)
    (hfree : item.exchangeOrderId.all fun id =>
      some id ∉ (listOrders item.exchangeName).map Order.exchangeOrderId) :
    validateOrderItems ctx listOrders intent normalize mode 1 [] [] [.obj fields] = .ok [item] := by
  simp only [validateOrderItems, hitem, hfree, require]
  simp

theorem eq_of_validateOrderItems_single {listOrders : String → List Order} {normalize : Bool}
    {mode : String} {fields : Dict} {items : List OrderItem}
    (hitems : validateOrderItems ctx listOrders intent normalize mode 1 [] [] [.obj fields] =
      .ok items) :
    ∃ item, items = [item] ∧ readOrderItem ctx intent normalize mode 1 fields = .ok item := by
  simp only [validateOrderItems] at hitems
  split at hitems
  · exact absurd hitems (by simp)
  next item hitem =>
    simp only [require_eq_ok, Except.ok.injEq] at hitems
    exact ⟨item, hitems.2.2.2.symm, hitem⟩

/-- The item of a leg names the leg's exchange and order. -/
theorem LegItem.names {leg : ConnectorLeg} {payload fields : Dict} {id : String}
    {item : OrderItem} (hleg : LegItem intent leg payload fields id)
    (hstrip : Text.strip leg.exchangeName = leg.exchangeName)
    (hread : ReadItem ctx intent false fields item) (htext : jsonText (.str id) = some id) :
    item.exchangeName = leg.exchangeName ∧ item.exchangeOrderId = some id := by
  have hexchange := hread.exchange
  rw [hleg.exchange] at hexchange
  exact ⟨(eq_strip_of_jsonText_str hexchange).trans hstrip,
    by rw [hread.exchangeOrderId, hleg.id, htext]⟩

/-- A side as the legs have them is read as itself. -/
theorem lower_side {side : String} (hside : side = "buy" ∨ side = "sell") :
    Text.lower ((jsonText (.str side)).getD "") = side := by
  rcases hside with rfl | rfl <;> decide +kernel

theorem LegItem.recordable {leg : ConnectorLeg} {payload fields : Dict} {id : String}
    {item : OrderItem} (hleg : LegItem intent leg payload fields id)
    (hside : leg.side = "buy" ∨ leg.side = "sell")
    (hstrip : Text.strip leg.exchangeName = leg.exchangeName)
    (hlive : payloadStatus payload ∉ terminalStatuses)
    (hread : ReadItem ctx intent false fields item) (hmarket : item.market = intent.market) :
    LegRecordable ctx intent leg payload := by
  have hexchange := hread.exchange
  rw [hleg.exchange] at hexchange
  have hname : item.exchangeName = leg.exchangeName :=
    (eq_strip_of_jsonText_str hexchange).trans hstrip
  have hitemSide : item.side = leg.side := by
    rw [hread.side, itemSide, hleg.side, lower_side hside]
  refine
    { live := hlive
      allowed := by simpa only [itemStatus, hleg.status] using hread.allowed
      named := hname ▸ (jsonText_eq_some hexchange).2
      expected := by simpa only [OrderItem.leg, hitemSide, hname] using hread.leg
      market := by rw [← hleg.market, ← hread.market, hmarket]
      qty := by simpa only [legQty, hread.requestedQty, hleg.qty] using hread.positive
      price := by
        simpa only [legPrice, hread.requestedPrice, hleg.price] using hread.pricePositive }

/-- The checks of the item of a recordable leg pass. -/
theorem LegItem.read {leg : ConnectorLeg} {payload fields : Dict} {id : String}
    (hleg : LegItem intent leg payload fields id)
    (hstrip : Text.strip leg.exchangeName = leg.exchangeName)
    (hrecordable : LegRecordable ctx intent leg payload) (mode : String) :
    ∃ item, readOrderItem ctx intent false mode 1 fields = .ok item ∧
      item.market = intent.market := by
  have hexchange : jsonText (.str leg.exchangeName) = some leg.exchangeName :=
    jsonText_str_of_strip hstrip hrecordable.named
  have hside : leg.side = "buy" ∨ leg.side = "sell" := by
    have hmem := hrecordable.expected
    simp only [expectedLegs, List.mem_cons, Prod.mk.injEq, List.not_mem_nil, or_false] at hmem
    exact hmem.imp And.left And.left
  have hqty : isPositiveNumberText ((jsonNumberText ctx (fields.get "requested_qty")).getD
      intent.targetQty) = true := by
    simpa [isPositiveNumberText, hleg.qty, legQty] using hrecordable.qty
  have hprice : (jsonNumberText ctx (fields.get "requested_price")).all isPositiveNumberText =
      true := by
    simpa only [all_isPositiveNumberText, hleg.price, legPrice] using hrecordable.price
  have hallowed : itemStatus fields ∈ allowedOrderStatuses := by
    simpa only [itemStatus, hleg.status] using hrecordable.allowed
  simp only [readOrderItem, itemSide, hleg.exchange, hleg.side, hleg.market, hexchange,
    lower_side hside, hrecordable.market, hrecordable.expected, hqty, hprice, hallowed, require]
  simp [hside]

end Items

section Legs

variable (ctx) in
/-- What an attempt to persist one leg does: nothing, or one row for the leg's order. -/
theorem persistLeg_cases {s : MemoryStore} (hwf : MemoryStore.WellFormed p s)
    (hrec : s.Records intent) {leg : ConnectorLeg} {connectorName : String}
    {response : PrivateExchangeResult} {fields payload : Dict}
    (hside : leg.side = "buy" ∨ leg.side = "sell")
    (hstrip : Text.strip leg.exchangeName = leg.exchangeName)
    (hfields : orderItemFromResponse response intent leg connectorName = .ok fields)
    (hdata : response.data = .obj payload) :
    let placed := createOrdersFromResponse (memoryStore p ctx) ctx intent (.arr [.obj fields]) false
      "private_connectors" s
    (placed.error ≠ none ∧ placed.store.orders = s.orders ∧
      ∀ id, AcceptedFresh s leg response id → ¬ LegRecordable ctx intent leg payload) ∨
    (placed.error = none ∧ LegRecordable ctx intent leg payload ∧
      ∃ id order, AcceptedFresh s leg response id ∧ placed.createdOrders = [order] ∧
        placed.store.orders = s.orders ++ [order] ∧ order.orderIntentId = intent.intentId ∧
        order.exchangeName = leg.exchangeName ∧ order.exchangeOrderId = some id) := by
  intro placed
  obtain ⟨horders, -, -, -⟩ := createOrdersFromResponse_rows ctx hwf hrec false
    "private_connectors" (.arr [.obj fields])
  obtain ⟨other, id, hother, hid, hlive, hleg⟩ := orderItemFromResponse_ok hfields
  obtain rfl : payload = other := Json.obj.inj (hdata.symm.trans hother)
  have htext : jsonText (.str id) = some id := by
    obtain ⟨-, _, -, hpayload⟩ := acceptedOrderId_eq_some.mp hid
    exact jsonText_str_jsonText hpayload
  cases herror : placed.error with
  | some message =>
      left
      have hnone : placed.createdOrders = [] :=
        createOrdersFromResponse_single ctx _ _ _ _ (by simp [placed, herror])
      refine ⟨by simp, by simpa [placed, hnone] using horders, ?_⟩
      -- A fresh and recordable leg would have passed every check.
      rintro freshId ⟨hfreshId, hfree⟩ hrecordable
      obtain rfl := Option.some.inj (hid.symm.trans hfreshId)
      obtain ⟨item, hitem, hmarket⟩ := hleg.read hstrip hrecordable "private_connectors"
      have hread := readItem_of_ok hitem
      obtain ⟨hexchange, hitemId⟩ := hleg.names hstrip hread htext
      have hne : item.exchangeName ≠ "" := (jsonText_eq_some hread.exchange).2
      have hunused : item.exchangeOrderId.all fun id =>
          some id ∉ (s.listOrders item.exchangeName).map Order.exchangeOrderId := by
        simp only [hitemId, Option.all_some, decide_eq_true_eq, List.mem_map, not_exists, not_and]
        intro order hmem
        obtain ⟨horder, hname⟩ := (mem_listOrders hne).mp hmem
        exact hfree order horder (hname.trans hexchange)
      have hok := (createOrdersFromResponse_error_eq_none (p := p) ctx hrec false
        "private_connectors" (.arr [.obj fields])).mpr
          ⟨_, _, [item], rfl, validateOrderItems_single hitem hunused, by simpa using hmarket⟩
      simp [placed, hok] at herror
  | none =>
      right
      obtain ⟨first, rest, items, heq, haccepted⟩ := (createOrdersFromResponse_error_eq_none
        (p := p) ctx hrec false "private_connectors" (.arr [.obj fields])).mp herror
      obtain ⟨rfl, rfl⟩ := List.cons.inj (Json.arr.inj heq)
      have hindex := createOrdersFromResponse_accepted (p := p) hrec haccepted
      obtain ⟨item, rfl, hitem⟩ := eq_of_validateOrderItems_single haccepted.1
      have hread := readItem_of_ok hitem
      obtain ⟨hexchange, hitemId⟩ := hleg.names hstrip hread htext
      have hcreated : placed.createdOrders =
          [MemoryStore.orderRow p s.serial intent (item.newOrder intent.intentId)] := by
        simp only [placed, OrdersCreation.createdOrders, hindex]
        rfl
      refine ⟨rfl, hleg.recordable hside hstrip hlive hread
        (haccepted.2 item List.mem_cons_self), id, _, ⟨hid, ?_⟩, hcreated, ?_, rfl, hexchange,
        hitemId⟩
      · intro order hmem hname
        exact (readItems_of_ok haccepted.1).freeIds item List.mem_cons_self id hitemId order hmem
          (hname.trans hexchange.symm)
      · rw [← hcreated]
        exact horders

variable (ctx) (connectors) in
/-- Placing legs removes no order and forgets no order already reported. -/
theorem submitLegs_extends (auto : Bool) (legs : List ConnectorLeg) (created : List Order)
    (s : MemoryStore) (hwf : MemoryStore.WellFormed p s) (hrec : s.Records intent) :
    let run := submitLegs (memoryStore p ctx) ctx connectors intent auto legs created s
    (∀ order ∈ s.orders, order ∈ run.store.orders) ∧
      ∀ ids ∈ run.outcome.reported, ∀ order ∈ created, order.orderId ∈ ids := by
  induction legs generalizing created s with
  | nil =>
      refine ⟨fun _ hmem => hmem, ?_⟩
      rintro ids hids order hmem
      obtain rfl := Option.some.inj hids
      exact List.mem_map_of_mem hmem
  | cons leg rest ih =>
      have hfailed : ∀ reason details, ∀ ids ∈ (LegsOutcome.failed (failureResult auto
          "private_connectors" reason details created [])).reported,
          ∀ order ∈ created, order.orderId ∈ ids := by
        rintro reason details ids hids order hmem
        obtain rfl := Option.some.inj hids
        exact List.mem_map_of_mem hmem
      simp only [submitLegs]
      cases connectors.lookup leg.exchangeName with
      | none => exact ⟨fun _ hmem => hmem, hfailed _ _⟩
      | some connector =>
          cases hanswer : (connector.placeOrder (requestPayload intent leg)).answer with
          | error text =>
              simp only [hanswer]
              exact ⟨fun _ hmem => hmem, by simp [LegsOutcome.reported]⟩
          | ok response =>
              cases hfields : orderItemFromResponse response intent leg connector.name with
              | error message =>
                  simp only [hanswer, hfields]
                  exact ⟨fun _ hmem => hmem, hfailed _ _⟩
              | ok fields =>
                  obtain ⟨horders, -, hwf', hrec'⟩ := createOrdersFromResponse_rows ctx
                    hwf hrec false "private_connectors" (.arr [.obj fields])
                  simp only [hanswer, hfields]
                  by_cases hoverflows : itemOverflows ctx fields = true
                  · rw [if_pos hoverflows]
                    exact ⟨fun _ hmem => hmem, by simp [LegsOutcome.reported]⟩
                  rw [if_neg hoverflows]
                  generalize createOrdersFromResponse (memoryStore p ctx) ctx intent
                    (.arr [.obj fields]) false "private_connectors" s = placed at *
                  have hkept : ∀ order ∈ s.orders, order ∈ placed.store.orders := by
                    intro order hmem
                    rw [horders]
                    exact List.mem_append_left _ hmem
                  cases herror : placed.error with
                  | some message => exact ⟨hkept, hfailed _ _⟩
                  | none =>
                      obtain ⟨hstore, hids⟩ := ih (created ++ placed.createdOrders) placed.store
                        hwf' hrec'
                      exact ⟨fun order hmem => hstore order (hkept order hmem),
                        fun ids hmem order hold =>
                          hids ids hmem order (List.mem_append_left _ hold)⟩

/-- A leg that left no row keeps every accepted order only when its own order is not fresh. -/
theorem keepsLegs_refused {start s : MemoryStore} {leg : ConnectorLeg} {rest : List ConnectorLeg}
    {call : PlaceOrderCall} {response : PrivateExchangeResult} {orderIds : List String}
    (hanswer : call.answer = .ok response)
    (hfresh : ∀ id, AcceptedFresh start leg response id ↔ AcceptedFresh s leg response id) :
    KeepsLegs start intent (leg :: rest) [call] s orderIds ↔
      ∀ id, ¬ AcceptedFresh start leg response id := by
  constructor
  · intro hkeeps id hid
    obtain ⟨order, hmem, -, hname, hexchangeId, -⟩ := hkeeps (leg, call) (by simp) response id
      hanswer hid
    exact ((hfresh id).mp hid).2 order hmem hname hexchangeId
  · intro hnone placed hplaced other id hother hid
    obtain rfl : placed = (leg, call) := by simpa using hplaced
    obtain rfl := Except.ok.inj (hanswer.symm.trans hother)
    exact absurd hid (hnone id)

/-- The first of several legs left its row. -/
theorem keepsLegs_recorded {start s : MemoryStore} {leg : ConnectorLeg} {rest : List ConnectorLeg}
    {call : PlaceOrderCall} {calls : List PlaceOrderCall} {response : PrivateExchangeResult}
    {orderIds : List String} (hanswer : call.answer = .ok response)
    (hrecorded : ∀ id, AcceptedFresh start leg response id → LegRecorded s intent leg id orderIds) :
    KeepsLegs start intent (leg :: rest) (call :: calls) s orderIds ↔
      KeepsLegs start intent rest calls s orderIds := by
  constructor
  · exact fun hkeeps placed hplaced => hkeeps placed (List.mem_cons_of_mem _ hplaced)
  · intro hkeeps placed hplaced other id hother hid
    rcases List.mem_cons.mp hplaced with rfl | hrest
    · obtain rfl := Except.ok.inj (hanswer.symm.trans hother)
      exact hrecorded id hid
    · exact hkeeps placed hrest other id hother hid

/-- Freshness of a leg's order does not depend on orders of other exchanges. -/
theorem acceptedFresh_congr {start s : MemoryStore} {leg : ConnectorLeg}
    {response : PrivateExchangeResult} (hstart : ∀ order ∈ start.orders, order ∈ s.orders)
    (hadded : ∀ order ∈ s.orders, order ∈ start.orders ∨ order.exchangeName ≠ leg.exchangeName)
    (id : String) : AcceptedFresh start leg response id ↔ AcceptedFresh s leg response id := by
  refine and_congr_right' ⟨fun hfree order hmem hname => ?_, fun hfree order hmem =>
    hfree order (hstart order hmem)⟩
  rcases hadded order hmem with hold | hother
  · exact hfree order hold hname
  · exact absurd hname hother

/-- A leg with an answer asks only about that answer. -/
theorem legsRecordable_cons {start : MemoryStore} {leg : ConnectorLeg} {rest : List ConnectorLeg}
    {connector : PrivateExchangeConnector} {response : PrivateExchangeResult}
    (hlookup : connectors.lookup leg.exchangeName = some connector)
    (hanswer : (connector.placeOrder (requestPayload intent leg)).answer = .ok response) :
    LegsRecordable ctx start connectors intent (leg :: rest) ↔
      ∀ payload id, response.data = .obj payload → AcceptedFresh start leg response id →
        LegRaises ctx intent leg payload ∨
          LegRecordable ctx intent leg payload ∧
            LegsRecordable ctx start connectors intent rest := by
  constructor
  · exact fun hall payload id => hall connector response payload id hlookup hanswer
  · intro hall other result payload id hother hresult
    obtain rfl := Option.some.inj (hlookup.symm.trans hother)
    obtain rfl := Except.ok.inj (hanswer.symm.trans hresult)
    exact hall payload id

section AnsweredLeg

variable {start : MemoryStore} {leg : ConnectorLeg} {rest : List ConnectorLeg}
  {connector : PrivateExchangeConnector} {response : PrivateExchangeResult} {payload : Dict}

/-- Nothing is asked of a leg whose numbers cannot be read, nor of those after it. -/
theorem legsRecordable_cons_of_raises
    (hlookup : connectors.lookup leg.exchangeName = some connector)
    (hanswer : (connector.placeOrder (requestPayload intent leg)).answer = .ok response)
    (hdata : response.data = .obj payload) (hraises : LegRaises ctx intent leg payload) :
    LegsRecordable ctx start connectors intent (leg :: rest) := by
  rw [legsRecordable_cons hlookup hanswer]
  intro other _ hother _
  obtain rfl := Json.obj.inj (hdata.symm.trans hother)
  exact Or.inl hraises

/-- A leg that cannot be recorded must not have been accepted. -/
theorem legsRecordable_cons_of_refused
    (hlookup : connectors.lookup leg.exchangeName = some connector)
    (hanswer : (connector.placeOrder (requestPayload intent leg)).answer = .ok response)
    (hrefused : ∀ payload id, response.data = .obj payload → AcceptedFresh start leg response id →
      ¬ LegRaises ctx intent leg payload ∧ ¬ LegRecordable ctx intent leg payload) :
    LegsRecordable ctx start connectors intent (leg :: rest) ↔
      ∀ id, ¬ AcceptedFresh start leg response id := by
  rw [legsRecordable_cons hlookup hanswer]
  constructor
  · intro hall id hid
    obtain ⟨-, payload, hdata, -⟩ := acceptedOrderId_eq_some.mp hid.1
    obtain ⟨hreadable, hunrecordable⟩ := hrefused payload id hdata hid
    rcases hall payload id hdata hid with hraises | ⟨hrecordable, -⟩
    · exact hreadable hraises
    · exact hunrecordable hrecordable
  · exact fun hnone payload id _ hid => absurd hid (hnone id)

/-- A leg that is recorded leaves the rest to be recordable. -/
theorem legsRecordable_cons_of_recorded
    (hlookup : connectors.lookup leg.exchangeName = some connector)
    (hanswer : (connector.placeOrder (requestPayload intent leg)).answer = .ok response)
    (hdata : response.data = .obj payload) (hreadable : ¬ LegRaises ctx intent leg payload)
    (hrecordable : LegRecordable ctx intent leg payload) {id : String}
    (hid : AcceptedFresh start leg response id) :
    LegsRecordable ctx start connectors intent (leg :: rest) ↔
      LegsRecordable ctx start connectors intent rest := by
  rw [legsRecordable_cons hlookup hanswer]
  constructor
  · exact fun hall => ((hall payload id hdata hid).resolve_left hreadable).2
  · intro hrest other _ hother _
    obtain rfl := Json.obj.inj (hdata.symm.trans hother)
    exact Or.inr ⟨hrecordable, hrest⟩

end AnsweredLeg

/-- The identifier of an accepted order is the one its answer names. -/
theorem AcceptedFresh.id_eq {start s : MemoryStore} {leg : ConnectorLeg}
    {response : PrivateExchangeResult} {id other : String}
    (hid : AcceptedFresh start leg response id) (hother : AcceptedFresh s leg response other) :
    id = other := Option.some.inj (hid.1.symm.trans hother.1)

variable (ctx) (connectors) in
/-- Placing legs keeps every accepted order exactly when the legs are recordable. -/
theorem submitLegs_keeps_iff (auto : Bool) (start : MemoryStore) (legs : List ConnectorLeg)
    (created : List Order) (s : MemoryStore) (hwf : MemoryStore.WellFormed p s)
    (hrec : s.Records intent) (hsides : ∀ leg ∈ legs, leg.side = "buy" ∨ leg.side = "sell")
    (hstrip : ∀ leg ∈ legs, Text.strip leg.exchangeName = leg.exchangeName)
    (hdistinct : (legs.map ConnectorLeg.exchangeName).Nodup)
    (hstart : ∀ order ∈ start.orders, order ∈ s.orders)
    (hadded : ∀ order ∈ s.orders, order ∈ start.orders ∨
      order.exchangeName ∉ legs.map ConnectorLeg.exchangeName) :
    let run := submitLegs (memoryStore p ctx) ctx connectors intent auto legs created s
    (∀ ids ∈ run.outcome.reported, KeepsLegs start intent legs run.calls run.store ids) ↔
      LegsRecordable ctx start connectors intent legs := by
  induction legs generalizing created s with
  | nil => exact iff_of_true (fun _ _ => by simp [KeepsLegs]) trivial
  | cons leg rest ih =>
      have hfresh : ∀ response id,
          AcceptedFresh start leg response id ↔ AcceptedFresh s leg response id := by
        intro response
        refine acceptedFresh_congr hstart fun order hmem => ?_
        refine (hadded order hmem).imp_right fun hnot heq => hnot ?_
        simp [heq]
      simp only [submitLegs]
      cases hlookup : connectors.lookup leg.exchangeName with
      | none =>
          refine iff_of_true (fun _ _ => by simp [KeepsLegs]) ?_
          intro connector _ _ _ hsome
          exact absurd (hlookup.symm.trans hsome) (by simp)
      | some connector =>
          cases hanswer : (connector.placeOrder (requestPayload intent leg)).answer with
          | error text =>
              simp only [hanswer]
              refine iff_of_true (by simp [LegsOutcome.reported]) ?_
              intro other response _ _ hsome hresponse
              obtain rfl := Option.some.inj (hlookup.symm.trans hsome)
              exact absurd (hanswer.symm.trans hresponse) (by simp)
          | ok response =>
              cases hfields : orderItemFromResponse response intent leg connector.name with
              | error message =>
                  simp only [hanswer, hfields, LegsOutcome.reported, Option.mem_def,
                    Option.some.injEq, forall_eq']
                  rw [keepsLegs_refused hanswer (hfresh response)]
                  refine (legsRecordable_cons_of_refused hlookup hanswer ?_).symm
                  -- an accepted answer with a live status would have been read
                  intro payload id hdata hid
                  have hdead : ¬ payloadStatus payload ∉ terminalStatuses := by
                    intro hlive
                    obtain ⟨fields, hok⟩ :=
                      exists_orderItemFromResponse intent leg connector.name hid.1 hdata hlive
                    rw [hfields] at hok
                    cases hok
                  exact ⟨fun hraises => hdead hraises.1, fun h => hdead h.live⟩
              | ok fields =>
                  obtain ⟨payload, _, hdata, -, hlive, hitem⟩ := orderItemFromResponse_ok hfields
                  have hraises : itemOverflows ctx fields = true ↔
                      LegRaises ctx intent leg payload :=
                    hitem.itemOverflows_iff hlive
                  obtain ⟨horders, -, hwf', hrec'⟩ := createOrdersFromResponse_rows ctx
                    hwf hrec false "private_connectors" (.arr [.obj fields])
                  have hcases := persistLeg_cases ctx hwf hrec
                    (hsides leg List.mem_cons_self) (hstrip leg List.mem_cons_self) hfields hdata
                  simp only [hanswer, hfields]
                  simp only at hcases
                  by_cases hoverflows : itemOverflows ctx fields = true
                  · rw [if_pos hoverflows]
                    exact iff_of_true (by simp [LegsOutcome.reported])
                      (legsRecordable_cons_of_raises hlookup hanswer hdata (hraises.mp hoverflows))
                  rw [if_neg hoverflows]
                  have hreadable : ¬ LegRaises ctx intent leg payload := mt hraises.mpr hoverflows
                  generalize createOrdersFromResponse (memoryStore p ctx) ctx intent
                    (.arr [.obj fields]) false "private_connectors" s = placed at *
                  rcases hcases with ⟨herror, hkept, hnot⟩ |
                    ⟨hnone, hrecordable, id, order, hid, hcreated, hstore, hrow⟩
                  · -- the adapter or the store refuses the row, and the submit fails
                    obtain ⟨message, hmessage⟩ := Option.ne_none_iff_exists'.mp herror
                    have hfresh' : ∀ id, AcceptedFresh start leg response id ↔
                        AcceptedFresh placed.store leg response id := by
                      intro id
                      rw [hfresh, AcceptedFresh, AcceptedFresh, hkept]
                    simp only [hmessage, LegsOutcome.reported, Option.mem_def, Option.some.injEq,
                      forall_eq']
                    rw [keepsLegs_refused hanswer hfresh']
                    refine (legsRecordable_cons_of_refused hlookup hanswer ?_).symm
                    intro payload' id hdata' hid
                    obtain rfl := Json.obj.inj (hdata.symm.trans hdata')
                    exact ⟨hreadable, hnot id ((hfresh response id).mp hid)⟩
                  · -- the row is there, and the other legs are placed after it
                    simp only [hnone, hcreated]
                    have hiff := ih (created ++ [order]) placed.store hwf' hrec'
                      (fun leg hmem => hsides leg (List.mem_cons_of_mem _ hmem))
                      (fun leg hmem => hstrip leg (List.mem_cons_of_mem _ hmem))
                      (List.nodup_cons.mp hdistinct).2
                      (fun row hmem => hstore ▸ List.mem_append_left _ (hstart row hmem))
                      (fun other hmem => by
                        rw [hstore, List.mem_append, List.mem_singleton] at hmem
                        rcases hmem with hold | rfl
                        · exact (hadded other hold).imp_right fun hnot hlater =>
                            hnot (List.mem_cons_of_mem _ hlater)
                        · rw [hrow.2.1]
                          exact Or.inr (List.nodup_cons.mp hdistinct).1)
                    have hextends := submitLegs_extends ctx connectors auto
                      rest (created ++ [order]) placed.store hwf' hrec'
                    simp only at hiff hextends
                    rw [legsRecordable_cons_of_recorded hlookup hanswer hdata hreadable hrecordable
                      ((hfresh response id).mpr hid), ← hiff]
                    refine forall_congr' fun ids => forall_congr' fun hids => ?_
                    refine keepsLegs_recorded hanswer fun other hother => ?_
                    obtain rfl := hother.id_eq hid
                    exact ⟨order, hextends.1 order (by simp [hstore]), hrow.1, hrow.2.1, hrow.2.2,
                      hextends.2 ids hids order (by simp)⟩

end Legs

section Submit

variable {s : MemoryStore} {decision : SubmitDecision}

variable (ctx) (intent) (connectors) in
/-- What the submit reports is what placing the legs reports. -/
theorem submitPrivateConnectors_reported (auto : Bool) {edge : EdgePrices}
    (hedge : decision.executableEdge = some edge) :
    let legs := submitLegs (memoryStore p ctx) ctx connectors intent auto
      (connectorLegs intent edge) [] s
    let run := submitPrivateConnectors (memoryStore p ctx) ctx connectors decision intent auto s
    run.calls = legs.calls ∧ run.store = legs.store ∧
      legs.outcome.reported =
        run.result.toOption.map fun result => result.createdOrders.map Order.orderId := by
  have hplain := submitLegs_reports (memoryStoreLog p ctx) ctx connectors intent auto
    (connectorLegs intent edge) [] s s (by simp) rfl (by simp)
  simp only [submitPrivateConnectors, hedge] at hplain ⊢
  generalize submitLegs (memoryStore p ctx) ctx connectors intent auto (connectorLegs intent edge)
    [] s = legs at *
  cases houtcome : legs.outcome with
  | raised text => simp [LegsOutcome.reported, Except.toOption]
  | failed result => simp [LegsOutcome.reported, Except.toOption]
  | placed orders =>
      rw [houtcome] at hplain
      have hrefreshed := refreshOrders_readOrderId (s := legs.store) (memoryStoreLog p ctx)
        hplain.2.2
      dsimp only
      split <;> simp [LegsOutcome.reported, Except.toOption, failureResult, hrefreshed]

/-- The private_connectors adapter keeps every accepted order exactly when the
accepted legs it reaches are recordable. -/
theorem submitPrivateConnectors_keeps_iff (hreach : MemoryStore.Reachable p ctx s)
    (hrec : s.Records intent)
    (hdistinct : Text.strip intent.buyExchange ≠ Text.strip intent.sellExchange) (auto : Bool) :
    KeepsAcceptedOrders s decision intent
        (submitPrivateConnectors (memoryStore p ctx) ctx connectors decision intent auto s) ↔
      ∀ edge, decision.executableEdge = some edge →
        LegsRecordable ctx s connectors intent (connectorLegs intent edge) := by
  have hkeeps := fun edge => submitLegs_keeps_iff ctx connectors auto s
    (connectorLegs intent edge) [] s hreach.wellFormed hrec (by simp [connectorLegs])
    (by simp [connectorLegs]) (by simpa [connectorLegs] using hdistinct) (fun _ hmem => hmem)
    (fun _ hmem => Or.inl hmem)
  unfold KeepsAcceptedOrders
  rw [forall_comm]
  refine forall_congr' fun edge => ?_
  constructor
  · intro hall hedge
    obtain ⟨hcalls, hstore, hreported⟩ :=
      submitPrivateConnectors_reported (p := p) (s := s) ctx intent connectors auto hedge
    refine (hkeeps edge).mp fun ids hids => ?_
    rw [hreported] at hids
    rw [← hcalls, ← hstore]
    generalize submitPrivateConnectors (memoryStore p ctx) ctx connectors decision intent auto s =
      run at *
    cases hresult : run.result with
    | error text => simp [hresult, Except.toOption] at hids
    | ok result =>
        rw [hresult] at hids
        obtain rfl := Option.some.inj hids
        exact hall result hresult hedge
  · intro hall result hresult hedge
    obtain ⟨hcalls, hstore, hreported⟩ :=
      submitPrivateConnectors_reported (p := p) (s := s) ctx intent connectors auto hedge
    rw [hcalls, hstore]
    exact (hkeeps edge).mpr (hall hedge) _ (by rw [hreported, hresult]; rfl)

/-- The edge whose prices are one on both sides. -/
def unitEdge : EdgePrices := ⟨.one, .one⟩

theorem legRecordable_of_answer {leg : ConnectorLeg} {answer : Except String PrivateExchangeResult}
    {response : PrivateExchangeResult} {payload : Dict} (hanswer : answer = .ok response)
    (hdata : response.data = .obj payload)
    (hcheck : answer.toOption.all fun response =>
      match response.data with
      | .obj payload => decide (LegRecordable ctx intent leg payload)
      | _ => true) : LegRecordable ctx intent leg payload := by
  simpa [hanswer, Except.toOption, hdata] using hcheck

theorem notAccepted_of_answer {answer : Except String PrivateExchangeResult}
    {response : PrivateExchangeResult} (hanswer : answer = .ok response)
    (hcheck : answer.toOption.bind acceptedOrderId = none) : acceptedOrderId response = none := by
  simpa [hanswer, Except.toOption] using hcheck

/-- Coinone takes an order and upbit refuses one. -/
def submittedCoinone : PrivateExchangeConnector :=
  coinoneConnector (fun _ => ⟨true, .ok (.obj [("order_id", .str "order-1")])⟩) "coinone"

def refusingUpbit : PrivateExchangeConnector :=
  upbitConnector (fun _ => ⟨false, .error (.api (invalidRequest "upbit" "place_order" "refused"))⟩)
    "upbit"

/-- The order that coinone took is kept when upbit refuses the other leg. -/
theorem submit_keeps_coinone_order :
    ∃ intent,
      (MemoryStore.withIntent .counting (oneUnitIntent "coinone" "upbit")).orderIntents.head? =
        some intent ∧
      KeepsAcceptedOrders
        (MemoryStore.withIntent .counting (oneUnitIntent "coinone" "upbit")) ⟨some unitEdge⟩ intent
        (submitPrivateConnectors (memoryStore .counting .default) .default
          [("coinone", submittedCoinone), ("upbit", refusingUpbit)] ⟨some unitEdge⟩ intent false
          (MemoryStore.withIntent .counting (oneUnitIntent "coinone" "upbit"))) := by
  refine ⟨_, rfl, (submitPrivateConnectors_keeps_iff
    (MemoryStore.reachable_withIntent .counting .default (oneUnitIntent "coinone" "upbit"))
    ⟨_, rfl, ⟨rfl, rfl, rfl, rfl, rfl⟩⟩ (by decide +kernel) false).mpr ?_⟩
  rintro edge ⟨⟩ connector response payload id hlookup hanswer hdata -
  right
  have hbuy : Text.strip "coinone" = "coinone" := by decide +kernel
  have hsell : Text.strip "upbit" = "upbit" := by decide +kernel
  constructor
  · obtain rfl : submittedCoinone = connector := by
      simpa [connectorLegs, oneUnitIntent, hbuy] using hlookup
    exact legRecordable_of_answer hanswer hdata (by decide +kernel)
  · rintro connector response payload id hlookup hanswer hdata ⟨hid, -⟩
    obtain rfl : refusingUpbit = connector := by
      simpa [connectorLegs, oneUnitIntent, hsell, List.lookup_cons] using hlookup
    exact absurd hid (by rw [notAccepted_of_answer hanswer (by decide +kernel)]; simp)

/-- A run that leaves no order at all loses an order that was accepted. -/
theorem not_keepsLegs {start : MemoryStore} {legs : List ConnectorLeg}
    {calls : List PlaceOrderCall} {orderIds : List String} (hstart : start.orders.isEmpty)
    (hempty : s.orders.isEmpty)
    (haccepted : (legs.zip calls).any fun placed =>
      (placed.2.answer.toOption.bind acceptedOrderId).isSome) :
    ¬ KeepsLegs start intent legs calls s orderIds := by
  intro hkeeps
  simp only [List.isEmpty_iff] at hstart hempty
  obtain ⟨placed, hplaced, hsome⟩ := List.any_eq_true.mp haccepted
  obtain ⟨id, hid⟩ := Option.isSome_iff_exists.mp hsome
  cases hanswer : placed.2.answer with
  | error text => simp [hanswer, Except.toOption] at hid
  | ok response =>
      have hfresh : AcceptedFresh start placed.1 response id :=
        ⟨by simpa [hanswer, Except.toOption] using hid, by simp [hstart]⟩
      obtain ⟨order, hmem, -⟩ := hkeeps placed hplaced response id hanswer hfresh
      simp [hempty] at hmem

/-- Upbit answers a new order with its state `wait`, which is read as `open`. -/
def waitingUpbit : PrivateExchangeConnector :=
  upbitConnector (fun _ => ⟨true, .ok (.obj [("uuid", .str "order-1"), ("state", .str "wait")])⟩)
    "upbit"

/-- An order that waits at upbit leaves no row. -/
theorem submit_loses_waiting_order :
    MemoryStore.Reachable .counting .default
        (MemoryStore.withIntent .counting (oneUnitIntent "upbit" "bithumb")) ∧
    ∃ intent,
      (MemoryStore.withIntent .counting (oneUnitIntent "upbit" "bithumb")).orderIntents.head? =
        some intent ∧
      ¬ KeepsAcceptedOrders
        (MemoryStore.withIntent .counting (oneUnitIntent "upbit" "bithumb")) ⟨some unitEdge⟩ intent
        (submitPrivateConnectors (memoryStore .counting .default) .default
          [("upbit", waitingUpbit)] ⟨some unitEdge⟩ intent false
          (MemoryStore.withIntent .counting (oneUnitIntent "upbit" "bithumb"))) := by
  refine ⟨MemoryStore.reachable_withIntent _ _ _, _, rfl, fun hkeeps => ?_⟩
  generalize hrun : submitPrivateConnectors _ _ _ _ _ _ _ = run at hkeeps
  have hreturned : run.result.toOption.isSome := by
    rw [← hrun]
    decide +kernel
  cases hresult : run.result with
  | error text => simp [hresult, Except.toOption] at hreturned
  | ok result =>
      refine not_keepsLegs ?_ ?_ ?_ (hkeeps result unitEdge hresult rfl)
      · decide +kernel
      · rw [← hrun]
        decide +kernel
      · rw [← hrun]
        decide +kernel

end Submit

end TradingPlatform.Execution

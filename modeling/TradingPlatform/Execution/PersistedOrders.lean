import TradingPlatform.Execution.ResponseChecks

/-! # Orders of a response in the memory store

When the memory store has the intent, an executor's orders are persisted
exactly when its items pass the checks and are for the intent's market, and
then as the planned rows.
-/

namespace TradingPlatform.Execution

open Storage

section Items

variable {ctx : DecimalContext} {intent : OrderIntent} {normalize : Bool} {mode : String}

/-- What an item that passed its own checks was read from. -/
structure ReadItem (ctx : DecimalContext) (intent : OrderIntent) (normalize : Bool)
    (fields : Dict) (item : OrderItem) : Prop where
  side : item.side = itemSide fields
  exchange : jsonText (fields.get "exchange_name") = some item.exchangeName
  leg : item.leg ∈ expectedLegs intent
  named : LegKey.named item.leg = true
  market : item.market = (jsonText (fields.get "market")).getD intent.market
  requestedQty :
    item.requestedQty = (jsonNumberText ctx (fields.get "requested_qty")).getD intent.targetQty
  positive : 0 < item.requestedQty.value
  requestedPrice : item.requestedPrice = jsonNumberText ctx (fields.get "requested_price")
  pricePositive : ∀ price ∈ item.requestedPrice, 0 < price.value
  exchangeOrderId : item.exchangeOrderId = jsonText (fields.get "exchange_order_id")
  allowed : itemStatus fields ∈ allowedOrderStatuses
  status : item.status =
    if normalize && itemStatus fields = "filled" then "submitted" else itemStatus fields

theorem readItem_of_ok {index : Nat} {fields : Dict} {item : OrderItem}
    (hitem : readOrderItem ctx intent normalize mode index fields = .ok item) :
    ReadItem ctx intent normalize fields item := by
  simp only [readOrderItem] at hitem
  split at hitem
  · exact absurd hitem (by simp)
  next exchangeName hexchange =>
    simp only [require_eq_ok, decide_eq_true_eq, Except.ok.injEq] at hitem
    obtain ⟨hside, -, hleg, hpositive, hprice, hallowed, rfl⟩ := hitem
    refine
      { side := rfl
        exchange := hexchange
        leg := hleg
        named := ?_
        market := rfl
        requestedQty := rfl
        positive := by simpa [isPositiveNumberText] using hpositive
        requestedPrice := rfl
        pricePositive := all_isPositiveNumberText.mp hprice
        exchangeOrderId := rfl
        allowed := hallowed
        status := rfl }
    have hne := (jsonText_eq_some hexchange).2
    simpa [LegKey.named, OrderItem.leg, hne] using hside

/-- The item is on one of the intent's exchanges. -/
theorem ReadItem.exchange_mem {fields : Dict} {item : OrderItem}
    (hread : ReadItem ctx intent normalize fields item) :
    item.exchangeName = intent.buyExchange ∨ item.exchangeName = intent.sellExchange := by
  have hleg := hread.leg
  simp only [expectedLegs, OrderItem.leg, List.mem_cons, Prod.mk.injEq, List.not_mem_nil,
    or_false] at hleg
  tauto

/-- The exchange and identifier of an item that has one. -/
def OrderItem.exchangeKey (item : OrderItem) : Option (String × String) :=
  item.exchangeOrderId.map (item.exchangeName, ·)

/-- What a list of items that passed the checks satisfies together. -/
structure ReadItems (ctx : DecimalContext) (listOrders : String → List Order)
    (intent : OrderIntent) (normalize : Bool) (payload : List Json) (items : List OrderItem) :
    Prop where
  read : List.Forall₂
    (fun value item => ∃ fields, value = .obj fields ∧ ReadItem ctx intent normalize fields item)
    payload items
  legs : (items.map OrderItem.leg).Nodup
  keys : (items.filterMap OrderItem.exchangeKey).Nodup
  free : ∀ item ∈ items, ∀ id ∈ item.exchangeOrderId,
    some id ∉ (listOrders item.exchangeName).map Order.exchangeOrderId

theorem readItems_of_seen {listOrders : String → List Order} {payload : List Json} {index : Nat}
    {seenLegs : List LegKey} {seenIds : List (String × String)} {items : List OrderItem}
    (hitems : validateOrderItems ctx listOrders intent normalize mode index seenLegs seenIds
      payload = .ok items) :
    ReadItems ctx listOrders intent normalize payload items ∧
      (∀ item ∈ items, item.leg ∉ seenLegs) ∧
      ∀ key ∈ items.filterMap OrderItem.exchangeKey, key ∉ seenIds := by
  induction payload generalizing index seenLegs seenIds items with
  | nil =>
      simp only [validateOrderItems, Except.ok.injEq] at hitems
      subst hitems
      exact ⟨⟨.nil, List.nodup_nil, List.nodup_nil, by simp⟩, by simp, by simp⟩
  | cons value rest ih =>
      cases value with
      | obj fields =>
          simp only [validateOrderItems] at hitems
          split at hitems
          · exact absurd hitems (by simp)
          next item hitem =>
            simp only [require_eq_ok, decide_eq_true_eq] at hitems
            obtain ⟨hleg, hid, hfree, htail⟩ := hitems
            split at htail
            · exact absurd htail (by simp)
            next later hlater =>
              obtain rfl := Except.ok.inj htail
              obtain ⟨hread, hlegs, hids⟩ := ih hlater
              have hkey : ∀ key ∈ item.exchangeKey, key ∉ later.filterMap OrderItem.exchangeKey ∧
                  key ∉ seenIds := by
                intro key hmem
                obtain ⟨id, hsome, rfl⟩ := Option.map_eq_some_iff.mp hmem
                refine ⟨fun hlate => ?_, ?_⟩
                · exact hids _ hlate (by simp [hsome])
                · simpa [hsome] using hid
              refine ⟨⟨?_, ?_, ?_, ?_⟩, ?_, ?_⟩
              · exact .cons ⟨fields, rfl, readItem_of_ok hitem⟩ hread.read
              · simp only [List.map_cons, List.nodup_cons]
                refine ⟨fun hmem => ?_, hread.legs⟩
                obtain ⟨other, hother, heq⟩ := List.mem_map.mp hmem
                exact hlegs other hother (by simp [heq])
              · rw [List.filterMap_cons]
                split
                · exact hread.keys
                next key hsome => exact List.nodup_cons.mpr ⟨(hkey key hsome).1, hread.keys⟩
              · intro other hmem
                rcases List.mem_cons.mp hmem with rfl | hrest
                · intro id hsome
                  rw [Option.mem_def] at hsome
                  simpa [hsome] using hfree
                · exact hread.free other hrest
              · intro other hmem
                rcases List.mem_cons.mp hmem with rfl | hrest
                · exact hleg
                · exact fun hseen => hlegs other hrest (List.mem_cons_of_mem _ hseen)
              · intro key hmem
                rw [List.filterMap_cons] at hmem
                split at hmem
                · exact fun hseen => hids key hmem (List.mem_append_right _ hseen)
                next first hsome =>
                  rcases List.mem_cons.mp hmem with rfl | hrest
                  · exact (hkey _ hsome).2
                  · exact fun hseen => hids key hrest (List.mem_append_right _ hseen)
      | null | bool | int | float | str | arr => simp [validateOrderItems] at hitems

theorem readItems_of_ok {listOrders : String → List Order} {payload : List Json}
    {items : List OrderItem}
    (hitems : validateOrderItems ctx listOrders intent normalize mode 1 [] [] payload = .ok items) :
    ReadItems ctx listOrders intent normalize payload items := (readItems_of_seen hitems).1

/-- Every item was read from some entry of the payload. -/
theorem ReadItems.exists_fields {listOrders : String → List Order} {payload : List Json}
    {items : List OrderItem} (hread : ReadItems ctx listOrders intent normalize payload items)
    {item : OrderItem} (hmem : item ∈ items) :
    ∃ fields, .obj fields ∈ payload ∧ ReadItem ctx intent normalize fields item := by
  obtain ⟨read, -, -, -⟩ := hread
  induction read with
  | nil => exact absurd hmem (by simp)
  | cons hhead _ ih =>
      rcases List.mem_cons.mp hmem with rfl | hrest
      · obtain ⟨fields, rfl, hitem⟩ := hhead
        exact ⟨fields, List.mem_cons_self, hitem⟩
      · obtain ⟨fields, hfields, hitem⟩ := ih hrest
        exact ⟨fields, List.mem_cons_of_mem _ hfields, hitem⟩

end Items

section Memory

variable {p : Platform} {ctx : DecimalContext} {intent : OrderIntent} {s : MemoryStore}

theorem mem_listOrders {exchangeName : String} (hne : exchangeName ≠ "") {order : Order} :
    order ∈ s.listOrders exchangeName ↔ order ∈ s.orders ∧ order.exchangeName = exchangeName := by
  simp [MemoryStore.listOrders, MemoryStore.mem_latestFirst, MemoryStore.filterRows, hne]

/-- The rows a store gives to items from a serial on. -/
def plannedRows (p : Platform) (intent : OrderIntent) : Nat → List OrderItem →
    List (OrderItem × Order)
  | _, [] => []
  | serial, item :: rest =>
      (item, MemoryStore.orderRow p serial intent (item.newOrder intent.intentId)) ::
        plannedRows p intent (serial + 1) rest

variable (intent) in
theorem plannedRows_items (serial : Nat) (items : List OrderItem) :
    (plannedRows p intent serial items).map Prod.fst = items := by
  induction items generalizing serial with
  | nil => rfl
  | cons item rest ih => simp [plannedRows, ih]

theorem mem_plannedRows {serial : Nat} {items : List OrderItem} {created : OrderItem × Order}
    (hmem : created ∈ plannedRows p intent serial items) :
    created.1 ∈ items ∧ ∃ n, created.2 =
      MemoryStore.orderRow p n intent (created.1.newOrder intent.intentId) := by
  induction items generalizing serial with
  | nil => simp [plannedRows] at hmem
  | cons item rest ih =>
      rcases List.mem_cons.mp hmem with rfl | hrest
      · exact ⟨List.mem_cons_self, serial, rfl⟩
      · obtain ⟨hitem, hrow⟩ := ih hrest
        exact ⟨List.mem_cons_of_mem _ hitem, hrow⟩

/-- No order of the store has the exchange identifier of an item. -/
def FreeIds (s : MemoryStore) (items : List OrderItem) : Prop :=
  ∀ item ∈ items, ∀ id ∈ item.exchangeOrderId, ∀ order ∈ s.orders,
    order.exchangeName = item.exchangeName → order.exchangeOrderId ≠ some id

theorem ReadItems.freeIds {normalize : Bool} {payload : List Json} {items : List OrderItem}
    (hread : ReadItems ctx s.listOrders intent normalize payload items) : FreeIds s items := by
  intro item hmem id hid order horder hexchange heq
  obtain ⟨fields, -, hfields⟩ := hread.exists_fields hmem
  have hne : item.exchangeName ≠ "" := (jsonText_eq_some hfields.exchange).2
  refine hread.free item hmem id hid (List.mem_map.mpr ⟨order, ?_, heq⟩)
  exact (mem_listOrders hne).mpr ⟨horder, hexchange⟩

theorem findExchangeOrder_eq_none {item : OrderItem} {items : List OrderItem}
    (hfree : FreeIds s (item :: items)) :
    s.findExchangeOrder item.exchangeName item.exchangeOrderId = none := by
  unfold MemoryStore.findExchangeOrder
  cases hid : item.exchangeOrderId with
  | none => rfl
  | some id =>
      simp only [Option.bind_some, List.find?_eq_none, decide_eq_true_eq, not_and]
      exact fun order horder hexchange =>
        hfree item List.mem_cons_self id hid order horder hexchange

variable (ctx) in
/-- Items for the intent's market and exchanges, with free and distinct
identifiers, are persisted as the planned rows. -/
theorem createOrderItems_memory (hrec : s.Records intent) {items : List OrderItem}
    (hmarket : ∀ item ∈ items, item.market = intent.market)
    (hexchange : ∀ item ∈ items, item.exchangeName = intent.buyExchange ∨
      item.exchangeName = intent.sellExchange)
    (hfree : FreeIds s items) (hkeys : (items.filterMap OrderItem.exchangeKey).Nodup) :
    (createOrderItems (memoryStore p ctx) intent items s).rows =
        plannedRows p intent s.serial items ∧
      (createOrderItems (memoryStore p ctx) intent items s).refusal = none := by
  induction items generalizing s with
  | nil => exact ⟨rfl, rfl⟩
  | cons item rest ih =>
      have hcreated := hrec.createOrder_eq (p := p) (item.newOrder intent.intentId) rfl
        (hmarket item List.mem_cons_self) (hexchange item List.mem_cons_self)
        (findExchangeOrder_eq_none hfree)
      have hrec' := hrec.createOrder (p := p) (item.newOrder intent.intentId)
      rw [hcreated] at hrec'
      have hfree' : FreeIds (s.addOrder (MemoryStore.orderRow p s.serial intent
          (item.newOrder intent.intentId))) rest := by
        intro other hother id hid order horder hname
        rcases List.mem_append.mp horder with hold | hnew
        · exact hfree other (List.mem_cons_of_mem _ hother) id hid order hold hname
        · -- The row just added has another key than every later item.
          obtain rfl := List.mem_singleton.mp hnew
          intro heq
          change item.exchangeOrderId = some id at heq
          change item.exchangeName = other.exchangeName at hname
          rw [List.filterMap_cons, OrderItem.exchangeKey, heq] at hkeys
          refine (List.nodup_cons.mp hkeys).1 (List.mem_filterMap.mpr ⟨other, hother, ?_⟩)
          rw [OrderItem.exchangeKey, Option.mem_def.mp hid, Option.map_some, hname]
      have hkeys' : (rest.filterMap OrderItem.exchangeKey).Nodup := by
        rw [List.filterMap_cons] at hkeys
        split at hkeys
        · exact hkeys
        · exact (List.nodup_cons.mp hkeys).2
      obtain ⟨hrows, hnone⟩ := ih hrec'
        (fun other hother => hmarket other (List.mem_cons_of_mem _ hother))
        (fun other hother => hexchange other (List.mem_cons_of_mem _ hother)) hfree' hkeys'
      simp only [createOrderItems, createRows, memoryStore, hcreated,
        StoreAnswer.createdRow_created] at hrows hnone ⊢
      exact ⟨congrArg₂ List.cons rfl hrows, hnone⟩

variable (ctx) (intent) in
/-- A run adds its rows to the orders, touches no fill and keeps the store well formed. -/
theorem createOrderItems_rows (items : List OrderItem) (hwf : MemoryStore.WellFormed p s) :
    (createOrderItems (memoryStore p ctx) intent items s).store.orders =
        s.orders ++ (createOrderItems (memoryStore p ctx) intent items s).rows.map Prod.snd ∧
      (createOrderItems (memoryStore p ctx) intent items s).store.fills = s.fills ∧
      MemoryStore.WellFormed p (createOrderItems (memoryStore p ctx) intent items s).store := by
  refine ⟨?_, ?_, ?_⟩
  · exact createRows_log MemoryStore.orders id
      (fun item s => by simpa [memoryStore] using (createOrder_rows p (item.newOrder _) s).1)
      items s
  · exact createRows_preserves (motive := fun s' => s'.fills = s.fills)
      (fun item s' hs => (createOrder_rows p (item.newOrder intent.intentId) s').2.trans hs)
      items rfl
  · exact createRows_preserves (motive := MemoryStore.WellFormed p)
      (fun item s' hs => hs.createOrder (item.newOrder intent.intentId)) items hwf

/-- A recorded intent stays recorded, and every order placed is for its market. -/
theorem createOrderItems_market (hrec : s.Records intent) (items : List OrderItem) :
    (createOrderItems (memoryStore p ctx) intent items s).store.Records intent ∧
      ∀ created ∈ (createOrderItems (memoryStore p ctx) intent items s).rows,
        created.1.market = intent.market := by
  have hstep : ∀ (item : OrderItem) (s : MemoryStore), s.Records intent →
      (MemoryStore.createOrder p (item.newOrder intent.intentId) s).2.Records intent :=
    fun item s hs => hs.createOrder _
  refine ⟨createRows_preserves hstep items hrec, ?_⟩
  refine createRows_forall (motive := fun item _ => item.market = intent.market)
    _ hstep ?_ items hrec
  intro item s row ⟨stored, hstored, hterms⟩ hrow
  rcases MemoryStore.createOrder_cases p (item.newOrder intent.intentId) s with
    ⟨found, hfound, hmarket, -⟩ | ⟨hnot, -⟩
  · obtain rfl := Option.some.inj (hstored.symm.trans hfound)
    exact hmarket.trans hterms.market
  · simp only [StoreAnswer.createdRow_of_ne hnot] at hrow
    exact absurd hrow (by simp)

/-- The items a response is persisted through, when it is. -/
def AcceptedItems (ctx : DecimalContext) (s : MemoryStore) (intent : OrderIntent)
    (normalize : Bool) (mode : String) (payload : List Json) (items : List OrderItem) : Prop :=
  validateOrderItems ctx s.listOrders intent normalize mode 1 [] [] payload = .ok items ∧
    ∀ item ∈ items, item.market = intent.market

/-- The planned rows by leg. -/
def plannedIndex (p : Platform) (intent : OrderIntent) (serial : Nat) (items : List OrderItem) :
    List (LegKey × Order) :=
  (plannedRows p intent serial items).map fun created => (created.1.leg, created.2)

variable (ctx) in
theorem createOrdersFromResponse_error_eq_none (hrec : s.Records intent) (normalize : Bool)
    (mode : String) (payload : Json) :
    (createOrdersFromResponse (memoryStore p ctx) ctx intent payload normalize mode s).error =
        none ↔
      ∃ first rest items, payload = .arr (first :: rest) ∧
        AcceptedItems ctx s intent normalize mode (first :: rest) items := by
  unfold createOrdersFromResponse AcceptedItems
  split
  next first rest =>
    split
    next message hitems =>
      refine iff_of_false (by simp) ?_
      rintro ⟨_, _, items, heq, hok, -⟩
      obtain ⟨rfl, rfl⟩ := List.cons.inj (Json.arr.inj heq)
      exact absurd (hitems.symm.trans hok) (by simp)
    next items hitems =>
      have hread := readItems_of_ok hitems
      simp only [Option.map_eq_none_iff]
      constructor
      · intro hnone
        refine ⟨first, rest, items, rfl, hitems, ?_⟩
        intro item hmem
        rw [← createRows_items_of_noRefusal hnone, List.mem_map] at hmem
        obtain ⟨created, hcreated, rfl⟩ := hmem
        exact (createOrderItems_market hrec items).2 created hcreated
      · rintro ⟨_, _, others, heq, hok, hmarket⟩
        obtain ⟨rfl, rfl⟩ := List.cons.inj (Json.arr.inj heq)
        obtain rfl := Except.ok.inj (hitems.symm.trans hok)
        refine (createOrderItems_memory _ hrec hmarket ?_ hread.freeIds hread.keys).2
        intro item hmem
        obtain ⟨fields, -, hfields⟩ := hread.exists_fields hmem
        exact hfields.exchange_mem
  next hshape =>
    refine iff_of_false (by simp) ?_
    rintro ⟨first, rest, -, rfl, -⟩
    exact hshape first rest rfl

/-- What an accepted response adds: the planned rows. -/
theorem createOrdersFromResponse_accepted (hrec : s.Records intent) {normalize : Bool}
    {mode : String} {first : Json} {rest : List Json} {items : List OrderItem}
    (haccepted : AcceptedItems ctx s intent normalize mode (first :: rest) items) :
    (createOrdersFromResponse (memoryStore p ctx) ctx intent (.arr (first :: rest)) normalize mode
      s).orderIndex = plannedIndex p intent s.serial items := by
  obtain ⟨hitems, hmarket⟩ := haccepted
  have hread := readItems_of_ok hitems
  have hrows := (createOrderItems_memory (p := p) ctx hrec hmarket (fun item hmem => by
    obtain ⟨fields, -, hfields⟩ := hread.exists_fields hmem
    exact hfields.exchange_mem) hread.freeIds hread.keys).1
  simp only [createOrdersFromResponse, memoryStore] at hitems hrows ⊢
  rw [hitems]
  simp only [plannedIndex, ← hrows]

variable (ctx) in
/-- Whatever a response does, it adds its rows and keeps the store well formed. -/
theorem createOrdersFromResponse_rows (hwf : MemoryStore.WellFormed p s) (hrec : s.Records intent)
    (normalize : Bool) (mode : String) (payload : Json) :
    let placed := createOrdersFromResponse (memoryStore p ctx) ctx intent payload normalize mode s
    placed.store.orders = s.orders ++ placed.createdOrders ∧ placed.store.fills = s.fills ∧
      MemoryStore.WellFormed p placed.store ∧ placed.store.Records intent := by
  unfold createOrdersFromResponse
  split
  · split
    · exact ⟨by simp [OrdersCreation.createdOrders], rfl, hwf, hrec⟩
    next items _ =>
      obtain ⟨horders, hfills, hwf'⟩ := createOrderItems_rows ctx intent items hwf
      exact ⟨by simpa [OrdersCreation.createdOrders, Function.comp_def] using horders, hfills, hwf',
        (createOrderItems_market hrec items).1⟩
  · exact ⟨by simp [OrdersCreation.createdOrders], rfl, hwf, hrec⟩

end Memory

end TradingPlatform.Execution

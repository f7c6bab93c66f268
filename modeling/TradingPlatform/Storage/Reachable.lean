import TradingPlatform.Storage.MemoryStore

/-! # Reachable memory stores

What each call of the memory store can do, and what every store reached from an
empty one satisfies: order identifiers were all handed out and never twice, and
a fill names an order of the store and repeats its intent, side and exchange,
and no two fills of an order have one trade identifier.
-/

namespace TradingPlatform.Storage.MemoryStore

variable {p : Platform} {ctx : DecimalContext} {s s' : MemoryStore}

section Frames

@[simp] theorem setIntentStatus_orders (s : MemoryStore) (id : String) (f : String → String) :
    (s.setIntentStatus id f).orders = s.orders := rfl

@[simp] theorem setIntentStatus_fills (s : MemoryStore) (id : String) (f : String → String) :
    (s.setIntentStatus id f).fills = s.fills := rfl

@[simp] theorem setIntentStatus_serial (s : MemoryStore) (id : String) (f : String → String) :
    (s.setIntentStatus id f).serial = s.serial := rfl

@[simp] theorem settleIntent_orders (s : MemoryStore) (id : String) :
    (s.settleIntent id).orders = s.orders := rfl

@[simp] theorem settleIntent_fills (s : MemoryStore) (id : String) :
    (s.settleIntent id).fills = s.fills := rfl

@[simp] theorem settleIntent_serial (s : MemoryStore) (id : String) :
    (s.settleIntent id).serial = s.serial := rfl

@[simp] theorem addOrder_orders (s : MemoryStore) (order : Order) :
    (s.addOrder order).orders = s.orders ++ [order] := rfl

@[simp] theorem addOrder_fills (s : MemoryStore) (order : Order) :
    (s.addOrder order).fills = s.fills := rfl

@[simp] theorem addOrder_serial (s : MemoryStore) (order : Order) :
    (s.addOrder order).serial = s.serial + 1 := rfl

@[simp] theorem addFill_fills (s : MemoryStore) (fill : Fill) :
    (s.addFill fill).fills = fill :: s.fills := rfl

@[simp] theorem addFill_serial (s : MemoryStore) (fill : Fill) :
    (s.addFill fill).serial = s.serial + 1 := rfl

@[simp] theorem addFill_orders (s : MemoryStore) (fill : Fill) :
    (s.addFill fill).orders =
      (s.setOrderStatus fill.orderId fill.orderStatus fill.createdAt).orders := rfl

@[simp] theorem setOrderStatus_fills (s : MemoryStore) (id status at_ : String) :
    (s.setOrderStatus id status at_).fills = s.fills := rfl

@[simp] theorem setOrderStatus_orderIds (s : MemoryStore) (id status at_ : String) :
    (s.setOrderStatus id status at_).orders.map Order.orderId = s.orders.map Order.orderId := by
  simp only [setOrderStatus, List.map_map]
  refine List.map_congr_left fun order _ => ?_
  simp only [Function.comp_apply]
  split <;> rfl

/-- Intents keep everything but their status. -/
theorem findIntent_setIntentStatus (s : MemoryStore) (id other : String) (f : String → String) :
    (s.setIntentStatus id f).findIntent other =
      (s.findIntent other).map fun intent =>
        if intent.intentId = id then { intent with status := f intent.status } else intent := by
  simp only [findIntent, setIntentStatus, List.find?_map]
  congr 2
  funext intent
  simp only [Function.comp_apply]
  split <;> rfl

end Frames

section Intents

/-- Two rows of an intent that differ in nothing orders are made from. -/
structure SameTerms (row intent : OrderIntent) : Prop where
  market : row.market = intent.market
  buyExchange : row.buyExchange = intent.buyExchange
  sellExchange : row.sellExchange = intent.sellExchange
  botId : row.botId = intent.botId
  strategyRunId : row.strategyRunId = intent.strategyRunId

/-- The store has the intent, up to its status. -/
def Records (s : MemoryStore) (intent : OrderIntent) : Prop :=
  ∃ row, s.findIntent intent.intentId = some row ∧ SameTerms row intent

theorem Records.setIntentStatus {intent : OrderIntent} (hrec : s.Records intent) (id : String)
    (f : String → String) : (s.setIntentStatus id f).Records intent := by
  obtain ⟨row, hrow, hterms⟩ := hrec
  refine ⟨_, by rw [findIntent_setIntentStatus, hrow]; rfl, ?_⟩
  beta_reduce
  split <;> exact ⟨hterms.1, hterms.2, hterms.3, hterms.4, hterms.5⟩

theorem Records.of_sameIntents {intent : OrderIntent} (hrec : s.Records intent)
    (hsame : s'.orderIntents = s.orderIntents) : s'.Records intent := by
  simpa only [Records, findIntent, hsame] using hrec

theorem orderRow_of_sameTerms {row intent : OrderIntent} (hterms : SameTerms row intent)
    (serial : Nat) (new : NewOrder) : orderRow p serial row new = orderRow p serial intent new := by
  simp only [orderRow, hterms.botId, hterms.strategyRunId]

end Intents

section Calls

/-- An intent is created for a run of the store, or nothing changes. -/
theorem createOrderIntent_cases (p : Platform) (new : NewOrderIntent) (s : MemoryStore) :
    (∃ intent, (createOrderIntent p new s).1 = ⟨.created, some intent⟩ ∧
      intent.intentId = p.uuid s.serial ∧ intent.decisionContext = new.decisionContext ∧
      (createOrderIntent p new s).2.orderIntents = s.orderIntents ++ [intent] ∧
      (createOrderIntent p new s).2.orders = s.orders) ∨
    ((createOrderIntent p new s).1.createdRow = none ∧ (createOrderIntent p new s).2 = s) := by
  unfold createOrderIntent
  split
  · exact Or.inr ⟨rfl, rfl⟩
  · exact Or.inl ⟨_, rfl, rfl, rfl, rfl, rfl⟩

/-- A created order: its intent is recorded with the order's market and one of
its exchanges, and the exchange identifier was free. -/
theorem createOrder_cases (p : Platform) (new : NewOrder) (s : MemoryStore) :
    (∃ intent, s.findIntent new.orderIntentId = some intent ∧ new.market = intent.market ∧
      (new.exchangeName = intent.buyExchange ∨ new.exchangeName = intent.sellExchange) ∧
      s.findExchangeOrder new.exchangeName new.exchangeOrderId = none ∧
      createOrder p new s = (⟨.created, some (orderRow p s.serial intent new)⟩,
        s.addOrder (orderRow p s.serial intent new))) ∨
    ((createOrder p new s).1.outcome ≠ .created ∧ (createOrder p new s).2 = s) := by
  unfold createOrder
  split
  · exact Or.inr ⟨by simp, rfl⟩
  next intent hintent =>
    split_ifs with hmarket hexchange
    · exact Or.inr ⟨by simp, rfl⟩
    · exact Or.inr ⟨by simp, rfl⟩
    · split
      · exact Or.inr ⟨by simp, rfl⟩
      next hfree =>
        refine Or.inl ⟨intent, hintent, not_not.mp hmarket, ?_, hfree, rfl⟩
        tauto

/-- The call answers with a new row when its four checks pass. -/
theorem createOrder_eq_created {new : NewOrder} {intent : OrderIntent}
    (hintent : s.findIntent new.orderIntentId = some intent)
    (hmarket : new.market = intent.market)
    (hexchange : new.exchangeName = intent.buyExchange ∨ new.exchangeName = intent.sellExchange)
    (hfree : s.findExchangeOrder new.exchangeName new.exchangeOrderId = none) :
    createOrder p new s = (⟨.created, some (orderRow p s.serial intent new)⟩,
      s.addOrder (orderRow p s.serial intent new)) := by
  have hknown : ¬ (new.exchangeName ≠ intent.buyExchange ∧
      new.exchangeName ≠ intent.sellExchange) := by tauto
  simp [createOrder, hintent, hmarket, hknown, hfree]

theorem Records.createOrder {intent : OrderIntent} (hrec : s.Records intent) (new : NewOrder) :
    (createOrder p new s).2.Records intent := by
  rcases createOrder_cases p new s with ⟨row, -, -, -, -, hcreated⟩ | ⟨-, hsame⟩
  · rw [hcreated]
    exact (hrec.setIntentStatus _ _).of_sameIntents rfl
  · rw [hsame]
    exact hrec

/-- A recorded intent takes an order for its market and one of its exchanges. -/
theorem Records.createOrder_eq {intent : OrderIntent} (hrec : s.Records intent) (new : NewOrder)
    (hintent : new.orderIntentId = intent.intentId) (hmarket : new.market = intent.market)
    (hexchange : new.exchangeName = intent.buyExchange ∨ new.exchangeName = intent.sellExchange)
    (hfree : s.findExchangeOrder new.exchangeName new.exchangeOrderId = none) :
    MemoryStore.createOrder p new s = (⟨.created, some (orderRow p s.serial intent new)⟩,
      s.addOrder (orderRow p s.serial intent new)) := by
  obtain ⟨row, hrow, hterms⟩ := hrec
  rw [← orderRow_of_sameTerms hterms]
  refine createOrder_eq_created (by rw [hintent, hrow]) (hmarket.trans hterms.market.symm) ?_ hfree
  rwa [hterms.buyExchange, hterms.sellExchange]

/-- The status a fill leaves its order in, when the order takes the fill. -/
def fillStatus (ctx : DecimalContext) (s : MemoryStore) (order : Order) (qty : ℚ) : Option String :=
  let filledQty := s.nextFilledQty ctx order.orderId qty
  if order.status ∈ terminalOrderStatuses then none
  else if order.requestedQty.value < filledQty then none
  else if filledQty = order.requestedQty.value then some "filled"
  else some "partially_filled"

theorem findOrder_orderId {id : String} {order : Order} (horder : s.findOrder id = some order) :
    order.orderId = id := by
  simpa using List.find?_some horder

theorem findOrder_mem {id : String} {order : Order} (horder : s.findOrder id = some order) :
    order ∈ s.orders := List.mem_of_find?_eq_some horder

theorem findTrade_eq_none {new : NewFill} :
    s.findTrade new.orderId new.exchangeTradeId = none ↔
      ∀ key ∈ new.tradeKey, key ∉ s.fills.filterMap Fill.tradeKey := by
  cases hid : new.exchangeTradeId with
  | none => simp [findTrade, NewFill.tradeKey, hid]
  | some id =>
      simp only [findTrade, NewFill.tradeKey, hid, Option.bind_some, List.find?_eq_none,
        decide_eq_true_eq, Option.map_some, Option.mem_def, Option.some.injEq, forall_eq',
        List.mem_filterMap, Fill.tradeKey, Option.map_eq_some_iff, Prod.mk.injEq]
      constructor
      · rintro hall ⟨fill, hmem, other, hother, horder, rfl⟩
        exact hall fill hmem ⟨horder, hother⟩
      · rintro hnone fill hmem ⟨horder, hother⟩
        exact hnone ⟨fill, hmem, id, hother, horder, rfl⟩

/-- A created fill: its order is recorded and takes it, and the trade is new. -/
theorem createFill_cases (p : Platform) (ctx : DecimalContext) (new : NewFill) (s : MemoryStore) :
    (∃ order status, s.findOrder new.orderId = some order ∧
      s.findTrade new.orderId new.exchangeTradeId = none ∧
      fillStatus ctx s order new.fillQty.value = some status ∧
      createFill p ctx new s = (⟨.created, some (fillRow p s.serial order new status)⟩,
        s.addFill (fillRow p s.serial order new status))) ∨
    ((createFill p ctx new s).1.outcome ≠ .created ∧ (createFill p ctx new s).2 = s) := by
  unfold createFill
  split
  · exact Or.inr ⟨by simp, rfl⟩
  next order horder =>
    split_ifs with hterminal
    · exact Or.inr ⟨by simp, rfl⟩
    · split
      · exact Or.inr ⟨by simp, rfl⟩
      next hfree =>
        simp only []
        split_ifs with hover hfull
        · exact Or.inr ⟨by simp, rfl⟩
        · refine Or.inl ⟨order, "filled", horder, hfree, ?_, rfl⟩
          simp [fillStatus, findOrder_orderId horder, hterminal, hfull]
        · refine Or.inl ⟨order, "partially_filled", horder, hfree, ?_, rfl⟩
          simp [fillStatus, findOrder_orderId horder, hterminal, hover, hfull]

/-- The call answers with a new row when the order takes the fill and the trade is new. -/
theorem createFill_eq_created {new : NewFill} {order : Order} {status : String}
    (horder : s.findOrder new.orderId = some order)
    (hfree : s.findTrade new.orderId new.exchangeTradeId = none)
    (hstatus : fillStatus ctx s order new.fillQty.value = some status) :
    createFill p ctx new s = (⟨.created, some (fillRow p s.serial order new status)⟩,
      s.addFill (fillRow p s.serial order new status)) := by
  rcases createFill_cases p ctx new s with
    ⟨other, _, hother, -, hotherStatus, hcreated⟩ | ⟨hnot, -⟩
  · obtain rfl := Option.some.inj (horder.symm.trans hother)
    obtain rfl := Option.some.inj (hstatus.symm.trans hotherStatus)
    exact hcreated
  · refine absurd ?_ hnot
    simp only [fillStatus, findOrder_orderId horder] at hstatus
    split_ifs at hstatus with hterminal hover hfull
    all_goals simp [createFill, horder, hterminal, hfree, hover]

/-- A change of status keeps the rows. -/
theorem updateOrderStatus_rows (p : Platform) (orderId status : String) (s : MemoryStore) :
    (updateOrderStatus p orderId status s).2.orders.map Order.orderId = s.orders.map Order.orderId ∧
      (updateOrderStatus p orderId status s).2.fills = s.fills := by
  unfold updateOrderStatus
  split
  · exact ⟨rfl, rfl⟩
  · simp only []
    split_ifs
    · exact ⟨rfl, rfl⟩
    · exact ⟨rfl, rfl⟩
    · exact ⟨setOrderStatus_orderIds _ _ _ _, rfl⟩
    · exact ⟨rfl, rfl⟩

end Calls

section Reach

/-- One call of the store. -/
inductive Step (p : Platform) (ctx : DecimalContext) (s : MemoryStore) : MemoryStore → Prop
  | createStrategyRun (botId strategyName mode : String) :
      Step p ctx s (createStrategyRun p botId strategyName mode s).2
  | startStrategyRun (runId : String) : Step p ctx s (startStrategyRun p runId s).2
  | stopStrategyRun (runId : String) : Step p ctx s (stopStrategyRun p runId s).2
  | createOrderIntent (new : NewOrderIntent) : Step p ctx s (createOrderIntent p new s).2
  | createOrder (new : NewOrder) : Step p ctx s (createOrder p new s).2
  | updateOrderStatus (orderId status : String) :
      Step p ctx s (updateOrderStatus p orderId status s).2
  | createFill (new : NewFill) : Step p ctx s (createFill p ctx new s).2

/-- Stores reached from an empty one by calls in any order. -/
inductive Reachable (p : Platform) (ctx : DecimalContext) : MemoryStore → Prop
  | empty (botIds : List String) : Reachable p ctx (empty botIds)
  | step {s s' : MemoryStore} : Reachable p ctx s → Step p ctx s s' → Reachable p ctx s'

/-- What every reachable store satisfies. -/
structure WellFormed (p : Platform) (s : MemoryStore) : Prop where
  issued : ∀ order ∈ s.orders, ∃ n < s.serial, order.orderId = p.uuid n
  nodup : (s.orders.map Order.orderId).Nodup
  fills : ∀ fill ∈ s.fills, ∃ order ∈ s.orders, order.orderId = fill.orderId ∧
    order.orderIntentId = fill.orderIntentId ∧ order.side = fill.side ∧
    order.exchangeName = fill.exchangeName
  trades : (s.fills.filterMap Fill.tradeKey).Nodup

/-- The next identifier is none of the orders'. -/
theorem WellFormed.fresh (hwf : WellFormed p s) :
    ∀ order ∈ s.orders, order.orderId ≠ p.uuid s.serial := by
  intro order hmem heq
  obtain ⟨n, hlt, hid⟩ := hwf.issued order hmem
  have hserial := p.uuid_injective (hid.symm.trans heq)
  omega

theorem WellFormed.fresh_fill (hwf : WellFormed p s) :
    ∀ fill ∈ s.fills, fill.orderId ≠ p.uuid s.serial := by
  intro fill hmem heq
  obtain ⟨order, horder, hid, -⟩ := hwf.fills fill hmem
  exact hwf.fresh order horder (hid.trans heq)

theorem WellFormed.fillsOf_fresh (hwf : WellFormed p s) : s.fillsOf (p.uuid s.serial) = [] := by
  simp only [fillsOf, List.filter_eq_nil_iff, decide_eq_true_eq]
  exact hwf.fresh_fill

/-- Distinct identifiers name distinct orders, so an order is found by its own. -/
theorem WellFormed.findOrder_of_mem (hwf : WellFormed p s) {order : Order}
    (hmem : order ∈ s.orders) : s.findOrder order.orderId = some order := by
  cases hfind : s.findOrder order.orderId with
  | none =>
      simp only [findOrder, List.find?_eq_none] at hfind
      exact absurd (hfind order hmem) (by simp)
  | some other =>
      have heq := List.inj_on_of_nodup_map hwf.nodup (findOrder_mem hfind) hmem
        (findOrder_orderId hfind)
      rw [heq]

/-- A fill repeats the terms of its order. -/
theorem WellFormed.fill_terms (hwf : WellFormed p s) {order : Order} {fill : Fill}
    (horder : order ∈ s.orders) (hfill : fill ∈ s.fills) (hid : order.orderId = fill.orderId) :
    fill.orderIntentId = order.orderIntentId ∧ fill.side = order.side ∧
      fill.exchangeName = order.exchangeName := by
  obtain ⟨other, hother, hotherId, hintent, hside, hexchange⟩ := hwf.fills fill hfill
  obtain rfl : other = order :=
    List.inj_on_of_nodup_map hwf.nodup hother horder (hotherId.trans hid.symm)
  exact ⟨hintent.symm, hside.symm, hexchange.symm⟩

/-- The fills of an order have distinct trade identifiers. -/
theorem WellFormed.trades_nodup (hwf : WellFormed p s) (id : String) :
    ((s.fillsOf id).filterMap Fill.exchangeTradeId).Nodup := by
  have hkeys : (s.fillsOf id).filterMap Fill.tradeKey =
      ((s.fillsOf id).filterMap Fill.exchangeTradeId).map (id, ·) := by
    rw [List.map_filterMap]
    refine List.filterMap_congr fun fill hmem => ?_
    have hid : fill.orderId = id := by simpa [fillsOf] using (List.mem_filter.mp hmem).2
    rw [Fill.tradeKey, hid]
  have hsublist : ((s.fillsOf id).filterMap Fill.tradeKey).Nodup :=
    (List.filter_sublist.filterMap _).nodup hwf.trades
  rw [hkeys] at hsublist
  exact hsublist.of_map _

/-- Rows that keep their identifiers keep a store well formed. -/
theorem WellFormed.of_sameOrders (hwf : WellFormed p s) (horders : s'.orders = s.orders)
    (hfills : s'.fills = s.fills) (hserial : s.serial ≤ s'.serial) : WellFormed p s' := by
  refine ⟨?_, ?_, ?_, ?_⟩
  · rw [horders]
    intro order hmem
    obtain ⟨n, hlt, hid⟩ := hwf.issued order hmem
    exact ⟨n, hlt.trans_le hserial, hid⟩
  · rw [horders]
    exact hwf.nodup
  · rw [horders, hfills]
    exact hwf.fills
  · rw [hfills]
    exact hwf.trades

theorem WellFormed.addOrder (hwf : WellFormed p s) {order : Order}
    (hid : order.orderId = p.uuid s.serial) : WellFormed p (s.addOrder order) := by
  refine ⟨?_, ?_, ?_, hwf.trades⟩
  · intro other hmem
    rcases List.mem_append.mp hmem with hold | hnew
    · obtain ⟨n, hlt, hother⟩ := hwf.issued other hold
      exact ⟨n, Nat.lt_succ_of_lt hlt, hother⟩
    · obtain rfl := List.mem_singleton.mp hnew
      exact ⟨s.serial, Nat.lt_succ_self _, hid⟩
  · simp only [addOrder_orders, List.map_append, List.map_cons, List.map_nil]
    refine List.nodup_append.mpr ⟨hwf.nodup, List.nodup_singleton _, ?_⟩
    intro id hmem other hother heq
    obtain ⟨row, hrow, rfl⟩ := List.mem_map.mp hmem
    rw [List.mem_singleton.mp hother, hid] at heq
    exact hwf.fresh row hrow heq
  · intro fill hmem
    obtain ⟨row, hrow, hfill⟩ := hwf.fills fill hmem
    exact ⟨row, List.mem_append_left _ hrow, hfill⟩

theorem WellFormed.setOrderStatus (hwf : WellFormed p s) (id status at_ : String) :
    WellFormed p (s.setOrderStatus id status at_) := by
  refine ⟨?_, ?_, ?_, hwf.trades⟩
  · intro order hmem
    obtain ⟨row, hrow, rfl⟩ := List.mem_map.mp hmem
    obtain ⟨n, hlt, hid⟩ := hwf.issued row hrow
    refine ⟨n, hlt, ?_⟩
    split <;> exact hid
  · rw [setOrderStatus_orderIds]
    exact hwf.nodup
  · intro fill hmem
    obtain ⟨row, hrow, hfill⟩ := hwf.fills fill hmem
    refine ⟨_, List.mem_map.mpr ⟨row, hrow, rfl⟩, ?_⟩
    split <;> exact hfill

theorem WellFormed.addFill (hwf : WellFormed p s) {order : Order} (hmem : order ∈ s.orders)
    {new : NewFill} (hid : order.orderId = new.orderId)
    (hfree : s.findTrade new.orderId new.exchangeTradeId = none) (status : String) :
    WellFormed p (s.addFill (fillRow p s.serial order new status)) := by
  have hset := hwf.setOrderStatus new.orderId status (p.sampleTime s.serial)
  refine ⟨?_, hset.nodup, ?_, ?_⟩
  · intro row hrow
    obtain ⟨n, hlt, hrowId⟩ := hset.issued row hrow
    exact ⟨n, Nat.lt_succ_of_lt hlt, hrowId⟩
  · intro fill hfill
    rcases List.mem_cons.mp hfill with rfl | hold
    · refine ⟨_, List.mem_map.mpr ⟨order, hmem, rfl⟩, ?_⟩
      split <;> exact ⟨hid, rfl, rfl, rfl⟩
    · exact hset.fills fill hold
  · rw [addFill_fills, List.filterMap_cons]
    split
    · exact hwf.trades
    next key hkey =>
      exact List.nodup_cons.mpr ⟨findTrade_eq_none.mp hfree key hkey, hwf.trades⟩

theorem WellFormed.createOrder (hwf : WellFormed p s) (new : NewOrder) :
    WellFormed p (createOrder p new s).2 := by
  rcases createOrder_cases p new s with ⟨intent, -, -, -, -, hcreated⟩ | ⟨-, hsame⟩
  · rw [hcreated]
    exact hwf.addOrder rfl
  · rw [hsame]
    exact hwf

theorem WellFormed.createFill (hwf : WellFormed p s) (new : NewFill) :
    WellFormed p (createFill p ctx new s).2 := by
  rcases createFill_cases p ctx new s with ⟨order, status, horder, hfree, -, hcreated⟩ | ⟨-, hsame⟩
  · rw [hcreated]
    exact hwf.addFill (findOrder_mem horder) (findOrder_orderId horder) hfree status
  · rw [hsame]
    exact hwf

theorem WellFormed.step (hwf : WellFormed p s) (hstep : Step p ctx s s') : WellFormed p s' := by
  cases hstep with
  | createStrategyRun botId strategyName mode =>
      unfold MemoryStore.createStrategyRun
      split
      · exact hwf
      · split
        · exact hwf
        · exact hwf.of_sameOrders rfl rfl (Nat.le_succ _)
  | startStrategyRun runId =>
      unfold MemoryStore.startStrategyRun
      split
      · exact hwf
      · split_ifs
        · exact hwf
        · exact hwf
        · exact hwf.of_sameOrders rfl rfl (Nat.le_succ _)
  | stopStrategyRun runId =>
      unfold MemoryStore.stopStrategyRun
      split
      · exact hwf
      · split_ifs
        · exact hwf
        · exact hwf.of_sameOrders rfl rfl (Nat.le_succ _)
  | createOrderIntent new =>
      unfold MemoryStore.createOrderIntent
      split
      · exact hwf
      · exact hwf.of_sameOrders rfl rfl (Nat.le_succ _)
  | createOrder new => exact hwf.createOrder new
  | createFill new => exact hwf.createFill new
  | updateOrderStatus orderId status =>
      unfold MemoryStore.updateOrderStatus
      split
      · exact hwf
      · simp only []
        split_ifs
        · exact hwf
        · exact hwf
        · exact (hwf.setOrderStatus _ _ _).of_sameOrders rfl rfl (Nat.le_succ _)
        · exact hwf

theorem Reachable.wellFormed (hreach : Reachable p ctx s) : WellFormed p s := by
  induction hreach with
  | empty botIds =>
      exact ⟨by simp [MemoryStore.empty], List.nodup_nil, by simp [MemoryStore.empty],
        List.nodup_nil⟩
  | step _ hstep ih => exact ih.step hstep

/-- Fills have identifiers of their own. -/
structure IssuedFills (p : Platform) (s : MemoryStore) : Prop where
  issued : ∀ fill ∈ s.fills, ∃ n < s.serial, fill.fillId = p.uuid n
  nodup : (s.fills.map Fill.fillId).Nodup

theorem IssuedFills.of_sameFills (hissued : IssuedFills p s) (hfills : s'.fills = s.fills)
    (hserial : s.serial ≤ s'.serial) : IssuedFills p s' := by
  refine ⟨fun fill hfill => ?_, hfills ▸ hissued.nodup⟩
  rw [hfills] at hfill
  obtain ⟨n, hn, hid⟩ := hissued.issued fill hfill
  exact ⟨n, hn.trans_le hserial, hid⟩

theorem IssuedFills.createFill (hissued : IssuedFills p s) (new : NewFill) :
    IssuedFills p (MemoryStore.createFill p ctx new s).2 := by
  rcases createFill_cases p ctx new s with ⟨order, status, -, -, -, hcreated⟩ | ⟨-, hsame⟩
  · rw [hcreated]
    refine ⟨?_, ?_⟩
    · rw [addFill_fills, addFill_serial]
      refine List.forall_mem_cons.mpr ⟨⟨s.serial, Nat.lt_succ_self _, rfl⟩, fun fill hfill => ?_⟩
      obtain ⟨n, hn, hid⟩ := hissued.issued fill hfill
      exact ⟨n, hn.trans (Nat.lt_succ_self _), hid⟩
    · rw [addFill_fills, List.map_cons, List.nodup_cons]
      refine ⟨fun hmem => ?_, hissued.nodup⟩
      obtain ⟨fill, hfill, hsame⟩ := List.mem_map.mp hmem
      obtain ⟨n, hn, hid⟩ := hissued.issued fill hfill
      have hserial := p.uuid_injective (hid.symm.trans hsame)
      omega
  · rw [hsame]
    exact hissued

theorem IssuedFills.step (hissued : IssuedFills p s) (hstep : Step p ctx s s') :
    IssuedFills p s' := by
  cases hstep with
  | createStrategyRun botId strategyName mode =>
      unfold MemoryStore.createStrategyRun
      split
      · exact hissued
      · split
        · exact hissued
        · exact hissued.of_sameFills rfl (Nat.le_succ _)
  | startStrategyRun runId =>
      unfold MemoryStore.startStrategyRun
      split
      · exact hissued
      · split_ifs
        · exact hissued
        · exact hissued
        · exact hissued.of_sameFills rfl (Nat.le_succ _)
  | stopStrategyRun runId =>
      unfold MemoryStore.stopStrategyRun
      split
      · exact hissued
      · split_ifs
        · exact hissued
        · exact hissued.of_sameFills rfl (Nat.le_succ _)
  | createOrderIntent new =>
      unfold MemoryStore.createOrderIntent
      split
      · exact hissued
      · exact hissued.of_sameFills rfl (Nat.le_succ _)
  | createOrder new =>
      rcases createOrder_cases p new s with ⟨intent, -, -, -, -, hcreated⟩ | ⟨-, hsame⟩
      · rw [hcreated]
        exact hissued.of_sameFills rfl (Nat.le_succ _)
      · rw [hsame]
        exact hissued
  | updateOrderStatus orderId status =>
      unfold MemoryStore.updateOrderStatus
      split
      · exact hissued
      · dsimp only
        split_ifs
        · exact hissued
        · exact hissued
        · exact hissued.of_sameFills rfl (Nat.le_succ _)
        · exact hissued
  | createFill new => exact hissued.createFill new

theorem Reachable.issuedFills (hreach : Reachable p ctx s) : IssuedFills p s := by
  induction hreach with
  | empty botIds => exact ⟨by simp [MemoryStore.empty], List.nodup_nil⟩
  | step _ hstep ih => exact ih.step hstep

/-- A store with one bot, one run of it and one intent of the run. -/
def withIntent (p : Platform) (new : NewOrderIntent) : MemoryStore :=
  let started := (MemoryStore.createStrategyRun p "bot" "arbitrage" "shadow"
    (MemoryStore.empty ["bot"])).2
  (MemoryStore.createOrderIntent p { new with strategyRunId := p.uuid 0 } started).2

theorem reachable_withIntent (p : Platform) (ctx : DecimalContext) (new : NewOrderIntent) :
    Reachable p ctx (withIntent p new) :=
  .step (.step (.empty ["bot"]) (.createStrategyRun "bot" "arbitrage" "shadow"))
    (.createOrderIntent _)

end Reach

end TradingPlatform.Storage.MemoryStore

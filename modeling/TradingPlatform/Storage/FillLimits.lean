import TradingPlatform.Storage.Calls

/-! # Fill limits

Whatever calls reach the store, no order is filled beyond its quantity, no trade
and no exchange order is recorded twice, orders keep to the terms of their
intent, and rows are neither removed nor requantified.
-/

namespace TradingPlatform.Storage

open MemoryStore

/-- The exchange and its own identifier of an order that has one. -/
def Order.exchangeKey (order : Order) : Option (String × String) :=
  order.exchangeOrderId.map (order.exchangeName, ·)

/-- The filled quantity of an order. -/
def MemoryStore.filledQty (s : MemoryStore) (orderId : String) : ℚ :=
  ((s.fillsOf orderId).map (·.fillQty.value)).sum

/-- An order of the bot and run of its intent, for its market and at one of its exchanges. -/
def MemoryStore.KeepsToIntent (s : MemoryStore) (order : Order) : Prop :=
  ∃ intent, s.findIntent order.orderIntentId = some intent ∧ order.botId = intent.botId ∧
    order.strategyRunId = intent.strategyRunId ∧ order.market = intent.market ∧
    (order.exchangeName = intent.buyExchange ∨ order.exchangeName = intent.sellExchange)

structure FillLimits (s : MemoryStore) : Prop where
  noOverfill : ∀ order ∈ s.orders, s.filledQty order.orderId ≤ order.requestedQty.value
  trades : (s.fills.filterMap Fill.tradeKey).Nodup
  exchangeOrders : (s.orders.filterMap Order.exchangeKey).Nodup
  intents : ∀ order ∈ s.orders, s.KeepsToIntent order

/-- An order without what a change of status touches. -/
def Order.terms (order : Order) : Order := { order with status := "", updatedAt := "" }

@[simp] theorem Order.terms_orderId (order : Order) : order.terms.orderId = order.orderId := rfl

@[simp] theorem Order.terms_requestedQty (order : Order) :
    order.terms.requestedQty = order.requestedQty := rfl

@[simp] theorem Order.terms_orderIntentId (order : Order) :
    order.terms.orderIntentId = order.orderIntentId := rfl

@[simp] theorem Order.terms_botId (order : Order) : order.terms.botId = order.botId := rfl

@[simp] theorem Order.terms_strategyRunId (order : Order) :
    order.terms.strategyRunId = order.strategyRunId := rfl

@[simp] theorem Order.terms_market (order : Order) : order.terms.market = order.market := rfl

@[simp] theorem Order.terms_exchangeName (order : Order) :
    order.terms.exchangeName = order.exchangeName := rfl

/-- The rows of a store are rows of a later one: orders with their terms, in their
place, and fills as they were. -/
structure KeepsRows (s s' : MemoryStore) : Prop where
  orders : s.orders.map Order.terms <+: s'.orders.map Order.terms
  fills : s.fills <:+ s'.fills

section Rows

variable {p : Platform} {ctx : DecimalContext} {s s' s'' : MemoryStore} {call : Call}
  {outcome : StoreOutcome}

theorem KeepsRows.refl (s : MemoryStore) : KeepsRows s s := ⟨List.prefix_rfl, List.suffix_rfl⟩

theorem KeepsRows.trans (hfirst : KeepsRows s s') (hsecond : KeepsRows s' s'') : KeepsRows s s'' :=
  ⟨hfirst.orders.trans hsecond.orders, hfirst.fills.trans hsecond.fills⟩

theorem setOrderStatus_terms (s : MemoryStore) (orderId status updatedAt : String) :
    (s.setOrderStatus orderId status updatedAt).orders.map Order.terms =
      s.orders.map Order.terms := by
  simp only [setOrderStatus, List.map_map]
  refine List.map_congr_left fun order _ => ?_
  simp only [Function.comp_apply]
  split <;> rfl

/-- An order after a change of status is the order before it, restamped if it is the
one changed. -/
theorem exists_row_of_mem_setOrderStatus {orderId status updatedAt : String} {order : Order}
    (hmem : order ∈ (s.setOrderStatus orderId status updatedAt).orders) :
    ∃ row ∈ s.orders, row.terms = order.terms ∧
      (row.orderId = orderId ∧ order.status = status ∨ row.orderId ≠ orderId ∧ order = row) := by
  obtain ⟨row, hrow, rfl⟩ := List.mem_map.mp hmem
  refine ⟨row, hrow, ?_⟩
  by_cases hid : row.orderId = orderId
  · simp [hid, Order.terms]
  · simp [hid]

/-- No call removes a row or changes its quantity. -/
theorem Effect.keepsRows (heffect : Effect p ctx s call outcome s') : KeepsRows s s' := by
  cases heffect with
  | refused => exact .refl s
  | sameStatus => exact .refl s
  | runs horders hfills => exact ⟨by simp [horders], by simp [hfills]⟩
  | intent intent horders hfills => exact ⟨by simp [horders], by simp [hfills]⟩
  | order intent =>
      refine ⟨?_, List.suffix_rfl⟩
      rw [addOrder_orders, List.map_append]
      exact List.prefix_append _ _
  | status order => exact ⟨by simp [setOrderStatus_terms], List.suffix_rfl⟩
  | fill order status =>
      exact ⟨by simp [setOrderStatus_terms], List.suffix_cons _ _⟩

theorem runCalls_keepsRows (calls : List Call) (s : MemoryStore) :
    KeepsRows s (runCalls p ctx calls s) := by
  induction calls generalizing s with
  | nil => exact .refl s
  | cons call rest ih => exact (call.effect p ctx s).keepsRows.trans (ih _)

/-- A call that does not report a change makes none. -/
theorem Effect.unchanged (heffect : Effect p ctx s call outcome s')
    (houtcome : outcome ∉ [StoreOutcome.created, .updated, .started, .stopped]) : s' = s := by
  cases heffect with
  | refused => rfl
  | sameStatus => rfl
  | runs horders hfills hintents hruns => exact absurd hruns (by simp_all)
  | intent => simp at houtcome
  | order => simp at houtcome
  | status => simp at houtcome
  | fill => simp at houtcome

end Rows

section Intents

variable {p : Platform} {ctx : DecimalContext} {s s' : MemoryStore} {call : Call}
  {outcome : StoreOutcome}

/-- Intents of a store are intents of a later one, with their terms. -/
def KeepsIntents (s s' : MemoryStore) : Prop :=
  ∀ id intent, s.findIntent id = some intent →
    ∃ row, s'.findIntent id = some row ∧ SameTerms row intent

theorem KeepsIntents.of_same (hintents : s'.orderIntents = s.orderIntents) : KeepsIntents s s' := by
  intro id intent hintent
  exact ⟨intent, by rwa [findIntent, hintents], ⟨rfl, rfl, rfl, rfl, rfl⟩⟩

theorem keepsIntents_setIntentStatus (s : MemoryStore) (id : String) (status : String → String) :
    KeepsIntents s (s.setIntentStatus id status) := by
  intro other intent hintent
  refine ⟨_, by rw [findIntent_setIntentStatus, hintent]; rfl, ?_⟩
  beta_reduce
  split <;> exact ⟨rfl, rfl, rfl, rfl, rfl⟩

theorem keepsIntents_addFill (s : MemoryStore) (fill : Fill) : KeepsIntents s (s.addFill fill) := by
  intro id intent hintent
  let restamped := s.setOrderStatus fill.orderId fill.orderStatus fill.createdAt
  have hsettled : KeepsIntents restamped (restamped.settleIntent fill.orderIntentId) :=
    keepsIntents_setIntentStatus restamped fill.orderIntentId _
  exact hsettled id intent hintent

theorem Effect.keepsIntents (heffect : Effect p ctx s call outcome s') : KeepsIntents s s' := by
  cases heffect with
  | refused => exact .of_same rfl
  | sameStatus => exact .of_same rfl
  | runs _ _ hintents => exact .of_same hintents
  | intent added _ _ hintents =>
      intro id intent hintent
      refine ⟨intent, ?_, ⟨rfl, rfl, rfl, rfl, rfl⟩⟩
      rw [findIntent, hintents, List.find?_append]
      rw [findIntent] at hintent
      rw [hintent]
      rfl
  | order intent => exact keepsIntents_setIntentStatus _ _ _
  | status order => exact .of_same rfl
  | fill order status => exact keepsIntents_addFill _ _

theorem MemoryStore.KeepsToIntent.mono {order : Order} (hkeeps : s.KeepsToIntent order)
    (hintents : KeepsIntents s s') : s'.KeepsToIntent order := by
  obtain ⟨intent, hintent, hbot, hrun, hmarket, hexchange⟩ := hkeeps
  obtain ⟨row, hrow, hterms⟩ := hintents _ _ hintent
  refine ⟨row, hrow, hbot.trans hterms.botId.symm, hrun.trans hterms.strategyRunId.symm,
    hmarket.trans hterms.market.symm, ?_⟩
  rwa [hterms.buyExchange, hterms.sellExchange]

theorem MemoryStore.KeepsToIntent.of_terms {row order : Order} (hkeeps : s.KeepsToIntent row)
    (hterms : row.terms = order.terms) : s.KeepsToIntent order := by
  obtain ⟨intent, hintent, hbot, hrun, hmarket, hexchange⟩ := hkeeps
  have hintentId : row.orderIntentId = order.orderIntentId := by
    simpa using congrArg Order.orderIntentId hterms
  have hbotEq : row.botId = order.botId := by simpa using congrArg Order.botId hterms
  have hrunEq : row.strategyRunId = order.strategyRunId := by
    simpa using congrArg Order.strategyRunId hterms
  have hmarketEq : row.market = order.market := by simpa using congrArg Order.market hterms
  have hexchangeEq : row.exchangeName = order.exchangeName := by
    simpa using congrArg Order.exchangeName hterms
  exact ⟨intent, hintentId ▸ hintent, hbotEq ▸ hbot, hrunEq ▸ hrun, hmarketEq ▸ hmarket,
    hexchangeEq ▸ hexchange⟩

/-- Orders keep to their intents through every call. -/
theorem Effect.keepsToIntent (hkeeps : ∀ order ∈ s.orders, s.KeepsToIntent order)
    (heffect : Effect p ctx s call outcome s') : ∀ order ∈ s'.orders, s'.KeepsToIntent order := by
  have hintents := heffect.keepsIntents
  have hrestamped : ∀ (orderId status updatedAt : String) (order : Order),
      order ∈ (s.setOrderStatus orderId status updatedAt).orders → s'.KeepsToIntent order := by
    intro orderId status updatedAt order hmem
    obtain ⟨row, hrow, hterms, -⟩ := exists_row_of_mem_setOrderStatus hmem
    exact ((hkeeps row hrow).of_terms hterms).mono hintents
  intro order hmem
  cases heffect with
  | refused => exact hkeeps order hmem
  | sameStatus => exact hkeeps order hmem
  | runs horders => exact (hkeeps order (horders ▸ hmem)).mono hintents
  | intent intent horders => exact (hkeeps order (horders ▸ hmem)).mono hintents
  | order intent hintent hmarket hexchange =>
      rcases List.mem_append.mp hmem with hold | hnew
      · exact (hkeeps order hold).mono hintents
      · obtain rfl := List.mem_singleton.mp hnew
        exact MemoryStore.KeepsToIntent.mono
          ⟨intent, hintent, rfl, rfl, hmarket, hexchange⟩ hintents
  | status row => exact hrestamped _ _ _ order hmem
  | fill row status => exact hrestamped _ _ _ order hmem

end Intents

section Limits

variable {p : Platform} {s s' : MemoryStore} {call : Call} {outcome : StoreOutcome}

@[simp] theorem filledQty_addOrder (s : MemoryStore) (order : Order) (id : String) :
    (s.addOrder order).filledQty id = s.filledQty id := rfl

theorem filledQty_addFill (s : MemoryStore) (fill : Fill) (id : String) :
    (s.addFill fill).filledQty id =
      if fill.orderId = id then fill.fillQty.value + s.filledQty id else s.filledQty id := by
  rw [filledQty, fillsOf_addFill]
  split <;> simp [filledQty]

/-- The quantity the store compares is the filled quantity and the new one. -/
theorem nextFilledQty_exact (s : MemoryStore) (id : String) (qty : ℚ) :
    s.nextFilledQty .exact id qty = s.filledQty id + qty := by
  simp [nextFilledQty, filledQty, DecimalContext.exact_sum]

theorem FillLimits.noOverfill_of_terms (hlimits : FillLimits s) {row order : Order}
    (hterms : row.terms = order.terms) (hmem : row ∈ s.orders) :
    s.filledQty order.orderId ≤ order.requestedQty.value := by
  have hid : row.orderId = order.orderId := by simpa using congrArg Order.orderId hterms
  have hqty : row.requestedQty = order.requestedQty := by
    simpa using congrArg Order.requestedQty hterms
  simpa only [hid, hqty] using hlimits.noOverfill row hmem

theorem FillLimits.exchangeOrders_of_terms (hlimits : FillLimits s)
    (horders : s'.orders.map Order.terms = s.orders.map Order.terms) :
    (s'.orders.filterMap Order.exchangeKey).Nodup := by
  have hkeys : ∀ rows : List Order, rows.filterMap Order.exchangeKey =
      (rows.map Order.terms).filterMap Order.exchangeKey := by
    intro rows
    rw [List.filterMap_map]
    rfl
  rw [hkeys, horders, ← hkeys]
  exact hlimits.exchangeOrders

/-- The limits speak of orders by their terms only. -/
theorem FillLimits.of_terms (hlimits : FillLimits s)
    (horders : s'.orders.map Order.terms = s.orders.map Order.terms) (hfills : s'.fills = s.fills)
    (hkeeps : ∀ order ∈ s'.orders, s'.KeepsToIntent order) : FillLimits s' := by
  refine ⟨?_, hfills ▸ hlimits.trades, hlimits.exchangeOrders_of_terms horders, hkeeps⟩
  intro order hmem
  have hterms : order.terms ∈ s.orders.map Order.terms := horders ▸ List.mem_map_of_mem hmem
  obtain ⟨row, hrow, heq⟩ := List.mem_map.mp hterms
  have hle := hlimits.noOverfill_of_terms heq hrow
  rwa [filledQty, fillsOf, ← hfills] at hle

theorem findExchangeOrder_eq_none {new : NewOrder} :
    s.findExchangeOrder new.exchangeName new.exchangeOrderId = none ↔
      ∀ key ∈ new.exchangeOrderId.map (new.exchangeName, ·),
        key ∉ s.orders.filterMap Order.exchangeKey := by
  cases hid : new.exchangeOrderId with
  | none => simp [findExchangeOrder]
  | some id =>
      simp only [findExchangeOrder, Option.bind_some, List.find?_eq_none, decide_eq_true_eq,
        Option.map_some, Option.mem_def, Option.some.injEq, forall_eq', List.mem_filterMap,
        Order.exchangeKey, Option.map_eq_some_iff, Prod.mk.injEq]
      constructor
      · rintro hall ⟨order, hmem, other, hother, hname, rfl⟩
        exact hall order hmem ⟨hname, hother⟩
      · rintro hnone order hmem ⟨hname, hother⟩
        exact hnone ⟨order, hmem, id, hother, hname, rfl⟩

/-- A new order has no fill yet, and its exchange order is new. -/
theorem FillLimits.addOrder (hlimits : FillLimits s) (hwf : WellFormed p s) {new : NewOrder}
    {intent : OrderIntent} (hfree : s.findExchangeOrder new.exchangeName new.exchangeOrderId = none)
    (hpositive : 0 < new.requestedQty.value)
    (hkeeps : ∀ order ∈ (s.addOrder (orderRow p s.serial intent new)).orders,
      (s.addOrder (orderRow p s.serial intent new)).KeepsToIntent order) :
    FillLimits (s.addOrder (orderRow p s.serial intent new)) := by
  refine ⟨?_, hlimits.trades, ?_, hkeeps⟩
  · intro order hmem
    rw [filledQty_addOrder]
    rcases List.mem_append.mp hmem with hold | hnew
    · exact hlimits.noOverfill order hold
    · obtain rfl := List.mem_singleton.mp hnew
      have hzero : s.filledQty (p.uuid s.serial) = 0 := by simp [filledQty, hwf.fillsOf_fresh]
      exact (hzero.trans_lt hpositive).le
  · rw [addOrder_orders, List.filterMap_append]
    cases hkey : (orderRow p s.serial intent new).exchangeKey with
    | none => simpa [hkey] using hlimits.exchangeOrders
    | some key =>
        have hnot := findExchangeOrder_eq_none.mp hfree key hkey
        simp only [List.filterMap_cons, hkey, List.filterMap_nil]
        exact hlimits.exchangeOrders.append (List.nodup_singleton _)
          (List.disjoint_singleton.mpr hnot)

/-- A fill the order takes stays within its quantity. -/
theorem FillLimits.addFill (hlimits : FillLimits s) (hwf : WellFormed p s) {new : NewFill}
    {order : Order} {status : String} (horder : s.findOrder new.orderId = some order)
    (hfree : s.findTrade new.orderId new.exchangeTradeId = none)
    (hstatus : fillStatus .exact s order new.fillQty.value = some status)
    (hkeeps : ∀ row ∈ (s.addFill (fillRow p s.serial order new status)).orders,
      (s.addFill (fillRow p s.serial order new status)).KeepsToIntent row) :
    FillLimits (s.addFill (fillRow p s.serial order new status)) := by
  have hid := findOrder_orderId horder
  have hterms := setOrderStatus_terms s new.orderId status (p.sampleTime s.serial)
  refine ⟨?_, (hwf.addFill (findOrder_mem horder) hid hfree status).trades,
    hlimits.exchangeOrders_of_terms hterms, hkeeps⟩
  · intro row hmem
    rw [filledQty_addFill]
    obtain ⟨original, horiginal, hterms, -⟩ := exists_row_of_mem_setOrderStatus hmem
    split_ifs with hsame
    · -- the order that takes the fill
      have hrowId : original.orderId = row.orderId := by simpa using congrArg Order.orderId hterms
      have hqty : original.requestedQty = row.requestedQty := by
        simpa using congrArg Order.requestedQty hterms
      have hnew : row.orderId = new.orderId := hsame.symm
      obtain rfl : original = order := List.inj_on_of_nodup_map hwf.nodup horiginal
        (findOrder_mem horder) (hrowId.trans (hnew.trans hid.symm))
      simp only [fillStatus, nextFilledQty_exact] at hstatus
      split_ifs at hstatus with hterminal hover
      all_goals
        rw [not_lt, hrowId, hqty, add_comm] at hover
        exact hover
    · exact hlimits.noOverfill_of_terms hterms horiginal

/-- Every call keeps the limits of a store that has its quantities positive. -/
theorem FillLimits.effect {call : Call} {outcome : StoreOutcome} (hlimits : FillLimits s)
    (hwf : WellFormed p s) (hpositive : call.Positive)
    (heffect : Effect p .exact s call outcome s') : FillLimits s' := by
  have hkeeps := heffect.keepsToIntent hlimits.intents
  cases heffect with
  | refused => exact hlimits
  | sameStatus => exact hlimits
  | runs horders hfills => exact hlimits.of_terms (by rw [horders]) hfills hkeeps
  | intent intent horders hfills => exact hlimits.of_terms (by rw [horders]) hfills hkeeps
  | order intent hintent hmarket hexchange hfree =>
      exact hlimits.addOrder hwf hfree hpositive hkeeps
  | status order => exact hlimits.of_terms (setOrderStatus_terms _ _ _ _) rfl hkeeps
  | fill order status horder hfree hstatus => exact hlimits.addFill hwf horder hfree hstatus hkeeps

end Limits

section Histories

variable {p : Platform}

theorem fillLimits_empty (botIds : List String) : FillLimits (MemoryStore.empty botIds) := by
  refine ⟨?_, List.nodup_nil, List.nodup_nil, ?_⟩ <;> simp [MemoryStore.empty]

/-- After any calls with positive quantities the limits hold. What is called then keeps
every row, and leaves the store as it was unless it reports a change. -/
theorem runCalls_fillLimits (p : Platform) (botIds : List String) (calls : List PositiveCall) :
    let s := runCalls p .exact (calls.map Subtype.val) (MemoryStore.empty botIds)
    FillLimits s ∧
      (∀ later : List PositiveCall, KeepsRows s (runCalls p .exact (later.map Subtype.val) s)) ∧
      ∀ call : PositiveCall,
        call.val.outcome p .exact s ∉ [StoreOutcome.created, .updated, .started, .stopped] →
          call.val.apply p .exact s = s := by
  intro s
  have hinvariant : WellFormed p s ∧ FillLimits s := by
    have hempty : Reachable p .exact (MemoryStore.empty botIds) := .empty botIds
    refine runCalls_preserves (fun s => WellFormed p s ∧ FillLimits s) Call.Positive ?_ _ ?_
      ⟨hempty.wellFormed, fillLimits_empty botIds⟩
    · rintro s call hpositive ⟨hwf, hlimits⟩
      exact ⟨hwf.step (call.step p .exact s), hlimits.effect hwf hpositive (call.effect p .exact s)⟩
    · intro call hmem
      obtain ⟨positive, -, rfl⟩ := List.mem_map.mp hmem
      exact positive.property
  exact ⟨hinvariant.2, fun later => runCalls_keepsRows _ s,
    fun call => (call.val.effect p .exact s).unchanged⟩

end Histories

end TradingPlatform.Storage

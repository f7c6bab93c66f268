import TradingPlatform.Storage.Reachable

/-! # Creating rows one after another

Submitting an order makes several calls in a row and stops at the first one
that is refused. What such a run adds to a store is exactly the rows it returns.
-/

namespace TradingPlatform.Storage

/-- The rows a run of calls created, each with its request, the request that
was refused, and the store after the run. -/
structure Creation (Item Row σ : Type) where
  rows : List (Item × Row)
  refusal : Option (Item × StoreOutcome)
  store : σ

/-- Call for each item until a call is not answered with a new row. -/
def createRows {Item Row σ : Type} (call : Item → σ → StoreAnswer Row × σ) :
    List Item → σ → Creation Item Row σ
  | [], s => ⟨[], none, s⟩
  | item :: rest, s =>
      let (answer, s') := call item s
      match answer.createdRow with
      | none => ⟨[], some (item, answer.outcome), s'⟩
      | some row =>
          let later := createRows call rest s'
          ⟨(item, row) :: later.rows, later.refusal, later.store⟩

section Runs

variable {Item Row Id σ : Type} {call : Item → σ → StoreAnswer Row × σ}

variable (call) in
theorem createRows_cons_created {item : Item} {rest : List Item} {s : σ} {row : Row}
    (hrow : (call item s).1.createdRow = some row) :
    createRows call (item :: rest) s =
      ⟨(item, row) :: (createRows call rest (call item s).2).rows,
        (createRows call rest (call item s).2).refusal,
        (createRows call rest (call item s).2).store⟩ := by
  simp only [createRows, hrow]

variable (call) in
theorem createRows_cons_refused {item : Item} {rest : List Item} {s : σ}
    (hrow : (call item s).1.createdRow = none) :
    createRows call (item :: rest) s =
      ⟨[], some (item, (call item s).1.outcome), (call item s).2⟩ := by
  simp only [createRows, hrow]

/-- A log that each call extends by its new row is extended by the rows of the run. -/
theorem createRows_log (log : σ → List Id) (id : Row → Id)
    (hcall : ∀ item s,
      log (call item s).2 = log s ++ ((call item s).1.createdRow.map id).toList)
    (items : List Item) (s : σ) :
    log (createRows call items s).store =
      log s ++ (createRows call items s).rows.map fun created => id created.2 := by
  induction items generalizing s with
  | nil => simp [createRows]
  | cons item rest ih =>
      have hlog := hcall item s
      cases hrow : (call item s).1.createdRow with
      | none =>
          rw [hrow] at hlog
          simpa [createRows_cons_refused _ hrow] using hlog
      | some row =>
          rw [hrow] at hlog
          simp [createRows_cons_created _ hrow, ih, hlog]

/-- What each call preserves, a run preserves. -/
theorem createRows_preserves {motive : σ → Prop}
    (hcall : ∀ item s, motive s → motive (call item s).2)
    (items : List Item) {s : σ} (hs : motive s) : motive (createRows call items s).store := by
  induction items generalizing s with
  | nil => exact hs
  | cons item rest ih =>
      have hnext := hcall item s hs
      cases hrow : (call item s).1.createdRow with
      | none => simpa [createRows_cons_refused _ hrow] using hnext
      | some row => simpa [createRows_cons_created _ hrow] using ih hnext

/-- Every row of a run satisfies what each call's new row does, in the states
an invariant of the calls allows. -/
theorem createRows_forall (invariant : σ → Prop) {motive : Item → Row → Prop}
    (hstep : ∀ item s, invariant s → invariant (call item s).2)
    (hcall : ∀ item s row, invariant s → (call item s).1.createdRow = some row → motive item row)
    (items : List Item) {s : σ} (hs : invariant s) :
    ∀ created ∈ (createRows call items s).rows, motive created.1 created.2 := by
  induction items generalizing s with
  | nil => simp [createRows]
  | cons item rest ih =>
      cases hrow : (call item s).1.createdRow with
      | none => simp [createRows_cons_refused _ hrow]
      | some row =>
          intro created hmem
          simp only [createRows_cons_created _ hrow, List.mem_cons] at hmem
          rcases hmem with rfl | hmem
          · exact hcall item s row hs hrow
          · exact ih (hstep item s hs) created hmem

/-- A run without refusal creates a row for every item. -/
theorem createRows_items_of_noRefusal {items : List Item} {s : σ}
    (hnone : (createRows call items s).refusal = none) :
    (createRows call items s).rows.map Prod.fst = items := by
  induction items generalizing s with
  | nil => rfl
  | cons item rest ih =>
      cases hrow : (call item s).1.createdRow with
      | none => simp [createRows_cons_refused _ hrow] at hnone
      | some row =>
          rw [createRows_cons_created _ hrow] at hnone ⊢
          simp [ih hnone]

/-- A refused run creates fewer rows than there are items. -/
theorem createRows_length_lt_of_refusal {items : List Item} {s : σ}
    (hsome : (createRows call items s).refusal ≠ none) :
    (createRows call items s).rows.length < items.length := by
  induction items generalizing s with
  | nil => exact absurd rfl hsome
  | cons item rest ih =>
      cases hrow : (call item s).1.createdRow with
      | none => simp [createRows_cons_refused _ hrow]
      | some row =>
          rw [createRows_cons_created _ hrow] at hsome ⊢
          have hshort := ih hsome
          simpa using hshort

end Runs

/-- An order whose identifier is read as itself. -/
def Order.HasPlainId (order : Order) : Prop := jsonText (.str order.orderId) = some order.orderId

/-- The bookkeeping of a store: which order and fill rows it has, oldest first,
and that its calls answer with the rows they add. -/
structure StoreLog {σ : Type} (P : StoreProtocol σ) where
  orderIds : σ → List String
  fillIds : σ → List String
  createOrder_orders : ∀ new s, orderIds (P.createOrder new s).2 =
    orderIds s ++ ((P.createOrder new s).1.createdRow.map Order.orderId).toList
  createOrder_fills : ∀ new s, fillIds (P.createOrder new s).2 = fillIds s
  createFill_orders : ∀ new s, orderIds (P.createFill new s).2 = orderIds s
  createFill_fills : ∀ new s, fillIds (P.createFill new s).2 =
    fillIds s ++ ((P.createFill new s).1.createdRow.map Fill.fillId).toList
  createdOrder_plain : ∀ new s order, (P.createOrder new s).1.createdRow = some order →
    order.HasPlainId
  detail_orderId : ∀ s id order, P.getOrderDetail s id = some order → order.orderId = id

@[simp] theorem StoreAnswer.createdRow_created {Row : Type} (row : Option Row) :
    (StoreAnswer.mk .created row).createdRow = row := rfl

theorem StoreAnswer.createdRow_of_ne {Row : Type} {answer : StoreAnswer Row}
    (hne : answer.outcome ≠ .created) : answer.createdRow = none := if_neg hne

theorem StoreAnswer.eq_created_of_createdRow {Row : Type} {answer : StoreAnswer Row} {row : Row}
    (hrow : answer.createdRow = some row) : answer = ⟨.created, some row⟩ := by
  obtain ⟨outcome, answered⟩ := answer
  simp only [StoreAnswer.createdRow] at hrow
  split at hrow
  next houtcome => simp [houtcome, hrow]
  next => exact absurd hrow (by simp)

section Memory

open MemoryStore

variable (p : Platform) (ctx : DecimalContext)

/-- A call that creates orders adds its new row, if any, and touches no fill. -/
theorem createOrder_rows (new : NewOrder) (s : MemoryStore) :
    (createOrder p new s).2.orders = s.orders ++ (createOrder p new s).1.createdRow.toList ∧
      (createOrder p new s).2.fills = s.fills := by
  rcases createOrder_cases p new s with ⟨intent, -, -, -, -, hcreated⟩ | ⟨hnot, hsame⟩
  · simp [hcreated]
  · simp [hsame, StoreAnswer.createdRow_of_ne hnot]

/-- A call that creates fills adds its new row, if any, and adds no order. -/
theorem createFill_rows (new : NewFill) (s : MemoryStore) :
    (createFill p ctx new s).2.fills = (createFill p ctx new s).1.createdRow.toList ++ s.fills ∧
      (createFill p ctx new s).2.orders.map Order.orderId = s.orders.map Order.orderId := by
  rcases createFill_cases p ctx new s with ⟨order, _, -, -, -, hcreated⟩ | ⟨hnot, hsame⟩
  · simp [hcreated]
  · simp [hsame, StoreAnswer.createdRow_of_ne hnot]

theorem memoryStore_createOrder_orders (new : NewOrder) (s : MemoryStore) :
    ((memoryStore p ctx).createOrder new s).2.orders.map Order.orderId =
      s.orders.map Order.orderId ++
        (((memoryStore p ctx).createOrder new s).1.createdRow.map Order.orderId).toList := by
  simp only [memoryStore, (createOrder_rows p new s).1]
  cases (createOrder p new s).1.createdRow <;> simp

theorem memoryStore_createFill_fills (new : NewFill) (s : MemoryStore) :
    (((memoryStore p ctx).createFill new s).2.fills.map Fill.fillId).reverse =
      (s.fills.map Fill.fillId).reverse ++
        (((memoryStore p ctx).createFill new s).1.createdRow.map Fill.fillId).toList := by
  simp only [memoryStore, (createFill_rows p ctx new s).1]
  cases (createFill p ctx new s).1.createdRow <;> simp

theorem memoryStore_createdOrder_plain (new : NewOrder) (s : MemoryStore) (order : Order)
    (hrow : ((memoryStore p ctx).createOrder new s).1.createdRow = some order) :
    order.HasPlainId := by
  simp only [memoryStore] at hrow
  rcases createOrder_cases p new s with ⟨intent, -, -, -, -, hcreated⟩ | ⟨hnot, -⟩
  · rw [hcreated] at hrow
    obtain rfl := Option.some.inj hrow
    exact p.uuid_plain s.serial
  · rw [StoreAnswer.createdRow_of_ne hnot] at hrow
    exact absurd hrow (by simp)

theorem memoryStore_createOrder_fills (new : NewOrder) (s : MemoryStore) :
    (((memoryStore p ctx).createOrder new s).2.fills.map Fill.fillId).reverse =
      (s.fills.map Fill.fillId).reverse := by
  simp only [memoryStore, (createOrder_rows p new s).2]

theorem memoryStore_createFill_orders (new : NewFill) (s : MemoryStore) :
    ((memoryStore p ctx).createFill new s).2.orders.map Order.orderId =
      s.orders.map Order.orderId :=
  (createFill_rows p ctx new s).2

theorem memoryStore_detail_orderId (s : MemoryStore) (id : String) (order : Order)
    (hdetail : (memoryStore p ctx).getOrderDetail s id = some order) : order.orderId = id :=
  findOrder_orderId hdetail

/-- The memory store keeps the books. -/
def memoryStoreLog : StoreLog (memoryStore p ctx) where
  orderIds s := s.orders.map Order.orderId
  fillIds s := (s.fills.map Fill.fillId).reverse
  createOrder_orders := memoryStore_createOrder_orders p ctx
  createOrder_fills := memoryStore_createOrder_fills p ctx
  createFill_orders := memoryStore_createFill_orders p ctx
  createFill_fills := memoryStore_createFill_fills p ctx
  createdOrder_plain := memoryStore_createdOrder_plain p ctx
  detail_orderId := memoryStore_detail_orderId p ctx

end Memory

end TradingPlatform.Storage

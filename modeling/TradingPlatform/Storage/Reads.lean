import TradingPlatform.Storage.MemoryStore

/-! # Reads of the control plane store

What the runtimes read of the store: intents, and the orders and fills of a bot
and a strategy run.
-/

namespace TradingPlatform.Storage

/-- The reads of a store in one of its states. An empty bot or run stands for any. -/
structure ReadStore where
  getOrderIntent : String → Option OrderIntent
  listOrders : (botId strategyRunId : String) → List Order
  listFills : (botId strategyRunId : String) → List Fill
  getOrderDetail : String → Option Order
  /-- The filled quantity an order is listed with. -/
  filledQty : String → ℚ

namespace MemoryStore

variable (ctx : DecimalContext) (s : MemoryStore)

def listRunOrders (botId strategyRunId : String) : List Order :=
  latestFirst (·.updatedAt)
    (filterRows (·.strategyRunId) strategyRunId (filterRows (·.botId) botId s.orders))

def listRunFills (botId strategyRunId : String) : List Fill :=
  latestFirst (·.filledAt)
    (filterRows (·.strategyRunId) strategyRunId (filterRows (·.botId) botId s.fills))

/-- The filled quantity of an order, rounded when it is summed and when it is shown. -/
def shownFilledQty (orderId : String) : ℚ :=
  ctx.round (ctx.sum ((s.fillsOf orderId).map (·.fillQty.value)))

def reads : ReadStore where
  getOrderIntent := s.findIntent
  listOrders := s.listRunOrders
  listFills := s.listRunFills
  getOrderDetail := s.findOrder
  filledQty := s.shownFilledQty ctx

variable {s}

theorem mem_listRunOrders {botId strategyRunId : String} {order : Order} :
    order ∈ s.listRunOrders botId strategyRunId ↔
      order ∈ s.orders ∧ (botId = "" ∨ order.botId = botId) ∧
        (strategyRunId = "" ∨ order.strategyRunId = strategyRunId) := by
  simp only [listRunOrders, mem_latestFirst, mem_filterRows]
  tauto

theorem sublist_filterRows {Row : Type} (field : Row → String) (filter : String) (rows : List Row) :
    (filterRows field filter rows).Sublist rows := by
  unfold filterRows
  split_ifs
  · exact List.Sublist.refl rows
  · exact List.filter_sublist

/-- Rows that differ in something differ in it in every listing. -/
theorem nodup_listed {Row Id : Type} {id : Row → Id} {rows listed : List Row}
    (instant : Row → String) (hlisted : listed.Sublist rows) (hnodup : (rows.map id).Nodup) :
    ((latestFirst instant listed).map id).Nodup := by
  have hperm := (List.perm_insertionSort (fun a b => instant b ≤ instant a) listed).map id
  exact hperm.nodup_iff.mpr (hnodup.sublist (hlisted.map id))

theorem nodup_listRunOrders (hnodup : (s.orders.map Order.orderId).Nodup)
    (botId strategyRunId : String) :
    ((s.listRunOrders botId strategyRunId).map Order.orderId).Nodup :=
  nodup_listed _ ((sublist_filterRows _ _ _).trans (sublist_filterRows _ _ _)) hnodup

theorem nodup_listRunFills (hnodup : (s.fills.map Fill.fillId).Nodup)
    (botId strategyRunId : String) :
    ((s.listRunFills botId strategyRunId).map Fill.fillId).Nodup :=
  nodup_listed _ ((sublist_filterRows _ _ _).trans (sublist_filterRows _ _ _)) hnodup

theorem mem_listRunFills {botId strategyRunId : String} {fill : Fill}
    (hmem : fill ∈ s.listRunFills botId strategyRunId) : fill ∈ s.fills :=
  (mem_filterRows.mp (mem_filterRows.mp (mem_latestFirst.mp hmem)).1).1

end MemoryStore

end TradingPlatform.Storage

import Mathlib.Data.List.Sort
import TradingPlatform.Storage.Rows

/-! # The memory store

Strategy runs, order intents, orders and fills kept in memory. A call that is
not answered with a new or changed row leaves the store as it was.
-/

namespace TradingPlatform.Storage

/-- Where rows get their identifiers and instants from. Identifiers are drawn
one after another and no text is drawn twice. -/
structure Platform where
  uuid : Nat → String
  uuid_injective : Function.Injective uuid
  /-- An identifier is read as itself. -/
  uuid_plain : ∀ n, jsonText (.str (uuid n)) = some (uuid n)
  sampleTime : Nat → String

/-- Identifiers in unary notation, every instant the same. -/
def Platform.counting : Platform where
  uuid n := String.ofList ('#' :: List.replicate n '|')
  uuid_injective := by
    intro m n heq
    have hlength := congrArg (fun s : String => s.toList.length) heq
    simpa using hlength
  uuid_plain n := by
    refine jsonText_str_of_strip (Text.strip_of_noSpace ?_) (by simp [← String.toList_inj])
    intro c hmem
    simp only [String.toList_ofList, List.mem_cons, List.mem_replicate] at hmem
    rcases hmem with rfl | ⟨-, rfl⟩ <;> rfl
  sampleTime _ := "2024-01-01T00:00:00Z"

def validOrderStatuses : List String :=
  ["new", "partially_filled", "filled", "cancelled", "rejected", "expired"]

def terminalOrderStatuses : List String := ["filled", "cancelled", "rejected", "expired"]

/-- The tables of the store. Fills stand newest first, other rows in the order
they were added; `serial` counts the rows and instants handed out. -/
structure MemoryStore where
  botIds : List String
  strategyRuns : List StrategyRun
  orderIntents : List OrderIntent
  orders : List Order
  fills : List Fill
  serial : Nat

namespace MemoryStore

/-- A store that knows its bots and nothing else. -/
def empty (botIds : List String) : MemoryStore := ⟨botIds, [], [], [], [], 0⟩

def findRun (s : MemoryStore) (runId : String) : Option StrategyRun :=
  s.strategyRuns.find? (·.runId = runId)

def findIntent (s : MemoryStore) (intentId : String) : Option OrderIntent :=
  s.orderIntents.find? (·.intentId = intentId)

def findOrder (s : MemoryStore) (orderId : String) : Option Order :=
  s.orders.find? (·.orderId = orderId)

def fillsOf (s : MemoryStore) (orderId : String) : List Fill :=
  s.fills.filter (·.orderId = orderId)

section Runs

variable (p : Platform)

def createStrategyRun (botId strategyName mode : String) (s : MemoryStore) :
    StoreAnswer StrategyRun × MemoryStore :=
  if botId ∉ s.botIds then (⟨.notFound, none⟩, s)
  else
    match s.strategyRuns.find? fun run =>
        run.botId = botId ∧ (run.status = "created" ∨ run.status = "running") with
    | some run => (⟨.conflict, some run⟩, s)
    | none =>
        let run : StrategyRun :=
          { runId := p.uuid s.serial
            botId := botId
            strategyName := strategyName
            mode := mode
            status := "created"
            createdAt := p.sampleTime s.serial
            startedAt := none
            stoppedAt := none
            decisionCount := 0 }
        (⟨.created, some run⟩,
          { s with strategyRuns := s.strategyRuns ++ [run], serial := s.serial + 1 })

def updateRun (s : MemoryStore) (runId : String) (f : StrategyRun → StrategyRun) : MemoryStore :=
  { s with strategyRuns := s.strategyRuns.map fun run => if run.runId = runId then f run else run }

def startStrategyRun (runId : String) (s : MemoryStore) : StoreAnswer StrategyRun × MemoryStore :=
  match s.findRun runId with
  | none => (⟨.notFound, none⟩, s)
  | some run =>
      if run.status ≠ "created" then (⟨.conflict, some run⟩, s)
      else if s.strategyRuns.any fun other =>
          other.botId = run.botId ∧ other.runId ≠ runId ∧ other.status = "running" then
        (⟨.conflict, some run⟩, s)
      else
        let start (run : StrategyRun) : StrategyRun :=
          { run with status := "running", startedAt := some (p.sampleTime s.serial),
                     stoppedAt := none }
        (⟨.started, some (start run)⟩, { s.updateRun runId start with serial := s.serial + 1 })

def stopStrategyRun (runId : String) (s : MemoryStore) : StoreAnswer StrategyRun × MemoryStore :=
  match s.findRun runId with
  | none => (⟨.notFound, none⟩, s)
  | some run =>
      if run.status ≠ "running" then (⟨.conflict, some run⟩, s)
      else
        let stop (run : StrategyRun) : StrategyRun :=
          { run with status := "stopped", stoppedAt := some (p.sampleTime s.serial) }
        (⟨.stopped, some (stop run)⟩, { s.updateRun runId stop with serial := s.serial + 1 })

def createOrderIntent (new : NewOrderIntent) (s : MemoryStore) :
    StoreAnswer OrderIntent × MemoryStore :=
  match s.findRun new.strategyRunId with
  | none => (⟨.notFound, none⟩, s)
  | some run =>
      let intent : OrderIntent :=
        { intentId := p.uuid s.serial
          botId := run.botId
          strategyRunId := new.strategyRunId
          market := new.market
          buyExchange := new.buyExchange
          sellExchange := new.sellExchange
          sidePair := new.sidePair
          targetQty := new.targetQty
          expectedProfit := new.expectedProfit
          expectedProfitRatio := new.expectedProfitRatio
          status := new.status
          createdAt := p.sampleTime s.serial
          decisionContext := new.decisionContext }
      let counted := s.updateRun new.strategyRunId fun run =>
        { run with decisionCount := run.decisionCount + 1 }
      (⟨.created, some intent⟩,
        { counted with orderIntents := s.orderIntents ++ [intent], serial := s.serial + 1 })

end Runs

section Orders

variable (p : Platform) (ctx : DecimalContext)

def setIntentStatus (s : MemoryStore) (intentId : String) (status : String → String) :
    MemoryStore :=
  { s with orderIntents := s.orderIntents.map fun intent =>
      if intent.intentId = intentId then { intent with status := status intent.status }
      else intent }

def setOrderStatus (s : MemoryStore) (orderId status updatedAt : String) : MemoryStore :=
  { s with orders := s.orders.map fun order =>
      if order.orderId = orderId then { order with status := status, updatedAt := updatedAt }
      else order }

/-- An intent with an order is no longer just created. -/
def submittedStatus (status : String) : String := if status = "created" then "submitted" else status

/-- The row of a new order, stamped with the next serial. -/
def orderRow (serial : Nat) (intent : OrderIntent) (new : NewOrder) : Order :=
  let createdAt := p.sampleTime serial
  { orderId := p.uuid serial
    orderIntentId := new.orderIntentId
    botId := intent.botId
    strategyRunId := intent.strategyRunId
    exchangeName := new.exchangeName
    exchangeOrderId := new.exchangeOrderId
    market := new.market
    side := new.side
    requestedPrice := new.requestedPrice
    requestedQty := new.requestedQty
    status := new.status
    createdAt := createdAt
    submittedAt := createdAt
    updatedAt := createdAt
    rawPayload := new.rawPayload }

/-- An order with the exchange's own identifier, when there is one. -/
def findExchangeOrder (s : MemoryStore) (exchangeName : String) (exchangeOrderId : Option String) :
    Option Order :=
  exchangeOrderId.bind fun id =>
    s.orders.find? fun order => order.exchangeName = exchangeName ∧ order.exchangeOrderId = some id

/-- The store with one more order row, its intent submitted. -/
def addOrder (s : MemoryStore) (order : Order) : MemoryStore :=
  { s.setIntentStatus order.orderIntentId submittedStatus with
    orders := s.orders ++ [order]
    serial := s.serial + 1 }

def createOrder (new : NewOrder) (s : MemoryStore) : StoreAnswer Order × MemoryStore :=
  match s.findIntent new.orderIntentId with
  | none => (⟨.notFound, none⟩, s)
  | some intent =>
      if new.market ≠ intent.market then (⟨.invalid, none⟩, s)
      else if new.exchangeName ≠ intent.buyExchange ∧ new.exchangeName ≠ intent.sellExchange then
        (⟨.invalid, none⟩, s)
      else
        match s.findExchangeOrder new.exchangeName new.exchangeOrderId with
        | some existing => (⟨.conflict, some existing⟩, s)
        | none =>
            let order := orderRow p s.serial intent new
            (⟨.created, some order⟩, s.addOrder order)

def updateOrderStatus (orderId status : String) (s : MemoryStore) :
    StoreAnswer Order × MemoryStore :=
  match s.findOrder orderId with
  | none => (⟨.notFound, none⟩, s)
  | some order =>
      let normalized := Text.lower (Text.strip status)
      let current := Text.lower (Text.strip order.status)
      if normalized ∉ validOrderStatuses then (⟨.invalid, none⟩, s)
      else if current ∈ terminalOrderStatuses ∧ current ≠ normalized then
        (⟨.conflict, some order⟩, s)
      else if current = normalized then (⟨.updated, some order⟩, s)
      else
        let updatedAt := p.sampleTime s.serial
        (⟨.updated, some { order with status := normalized, updatedAt := updatedAt }⟩,
          { s.setOrderStatus orderId normalized updatedAt with serial := s.serial + 1 })

/-- Filled quantity of an order after one more fill, in the store's own order of summing. -/
def nextFilledQty (s : MemoryStore) (orderId : String) (fillQty : ℚ) : ℚ :=
  ctx.add (ctx.sum ((s.fillsOf orderId).map (·.fillQty.value))) fillQty

/-- The row of a new fill, stamped with the next serial. -/
def fillRow (serial : Nat) (order : Order) (new : NewFill) (status : String) : Fill :=
  { fillId := p.uuid serial
    orderId := new.orderId
    orderIntentId := order.orderIntentId
    botId := order.botId
    strategyRunId := order.strategyRunId
    exchangeName := order.exchangeName
    exchangeTradeId := new.exchangeTradeId
    market := order.market
    side := order.side
    fillPrice := new.fillPrice
    fillQty := new.fillQty
    feeAsset := new.feeAsset
    feeAmount := new.feeAmount
    orderStatus := status
    filledAt := new.filledAt
    createdAt := p.sampleTime serial }

/-- A fill of the order with the same trade identifier. -/
def findTrade (s : MemoryStore) (orderId : String) (exchangeTradeId : Option String) :
    Option Fill :=
  exchangeTradeId.bind fun id =>
    s.fills.find? fun fill => fill.orderId = orderId ∧ fill.exchangeTradeId = some id

/-- The intent is done when all its orders are filled. -/
def settleIntent (s : MemoryStore) (intentId : String) : MemoryStore :=
  let related := s.orders.filter (·.orderIntentId = intentId)
  let settled := !related.isEmpty && related.all (·.status = "filled")
  s.setIntentStatus intentId fun status => if settled then "simulated" else submittedStatus status

/-- The store with one more fill row, its order and intent updated. -/
def addFill (s : MemoryStore) (fill : Fill) : MemoryStore :=
  { (s.setOrderStatus fill.orderId fill.orderStatus fill.createdAt).settleIntent
      fill.orderIntentId with
    fills := fill :: s.fills
    serial := s.serial + 1 }

def createFill (new : NewFill) (s : MemoryStore) : StoreAnswer Fill × MemoryStore :=
  match s.findOrder new.orderId with
  | none => (⟨.notFound, none⟩, s)
  | some order =>
      if order.status ∈ terminalOrderStatuses then (⟨.invalid, none⟩, s)
      else
        match s.findTrade new.orderId new.exchangeTradeId with
        | some existing => (⟨.conflict, some existing⟩, s)
        | none =>
            let filledQty := s.nextFilledQty ctx new.orderId new.fillQty.value
            if order.requestedQty.value < filledQty then (⟨.invalid, none⟩, s)
            else
              let status :=
                if filledQty = order.requestedQty.value then "filled" else "partially_filled"
              let fill := fillRow p s.serial order new status
              (⟨.created, some fill⟩, s.addFill fill)

end Orders

section Reads

/-- Rows with a text field equal to a filter; an empty filter keeps all rows. -/
def filterRows {Row : Type} (field : Row → String) (filter : String) (rows : List Row) :
    List Row :=
  if filter = "" then rows else rows.filter (field · = filter)

/-- Latest first, equal instants in their stored order. -/
def latestFirst {Row : Type} (instant : Row → String) (rows : List Row) : List Row :=
  rows.insertionSort fun a b => instant b ≤ instant a

theorem mem_filterRows {Row : Type} {field : Row → String} {filter : String} {rows : List Row}
    {row : Row} : row ∈ filterRows field filter rows ↔
      row ∈ rows ∧ (filter = "" ∨ field row = filter) := by
  by_cases hfilter : filter = "" <;> simp [filterRows, hfilter]

theorem mem_latestFirst {Row : Type} {instant : Row → String} {rows : List Row} {row : Row} :
    row ∈ latestFirst instant rows ↔ row ∈ rows :=
  (List.perm_insertionSort _ rows).mem_iff

def listOrders (s : MemoryStore) (exchangeName : String) : List Order :=
  latestFirst (·.updatedAt) (filterRows (·.exchangeName) exchangeName s.orders)

def listFills (s : MemoryStore) (orderId : String) : List Fill :=
  latestFirst (·.filledAt) (filterRows (·.orderId) orderId s.fills)

end Reads

end MemoryStore

/-- The memory store behind the calls that placing orders rests on. -/
def memoryStore (p : Platform) (ctx : DecimalContext) : StoreProtocol MemoryStore where
  createOrder := MemoryStore.createOrder p
  createFill := MemoryStore.createFill p ctx
  listOrders := MemoryStore.listOrders
  listFills := MemoryStore.listFills
  getOrderDetail := MemoryStore.findOrder

end TradingPlatform.Storage

import TradingPlatform.Foundation.Programs
import TradingPlatform.Foundation.Tables
import TradingPlatform.Storage.Rows

/-! # The tables of the order flow

The tables that strategy runs, order intents, orders and fills have in Postgres,
with the constraints of the migrations, and the statements that the store sends.
Each statement is atomic. An insert that breaks a constraint or has a value that
its column refuses changes nothing and raises.
-/

namespace TradingPlatform.Storage

open Tables

section Enums

inductive StrategyStatus where
  | pending
  | running
  | stopped
  | failed
  | completed
deriving DecidableEq

inductive RunMode where
  | dryRun
  | shadow
  | live
deriving DecidableEq

inductive IntentStatus where
  | created
  | submitted
  | cancelled
  | expired
  | rejected
  | simulated
deriving DecidableEq

inductive OrderStatus where
  | new
  | partiallyFilled
  | filled
  | cancelled
  | rejected
  | expired
deriving DecidableEq

def RunMode.ofText? : String → Option RunMode
  | "dry_run" => some dryRun
  | "shadow" => some shadow
  | "live" => some live
  | _ => none

def IntentStatus.text : IntentStatus → String
  | created => "created"
  | submitted => "submitted"
  | cancelled => "cancelled"
  | expired => "expired"
  | rejected => "rejected"
  | simulated => "simulated"

def IntentStatus.ofText? : String → Option IntentStatus
  | "created" => some created
  | "submitted" => some submitted
  | "cancelled" => some cancelled
  | "expired" => some expired
  | "rejected" => some rejected
  | "simulated" => some simulated
  | _ => none

def OrderStatus.text : OrderStatus → String
  | new => "new"
  | partiallyFilled => "partially_filled"
  | filled => "filled"
  | cancelled => "cancelled"
  | rejected => "rejected"
  | expired => "expired"

def OrderStatus.ofText? : String → Option OrderStatus
  | "new" => some new
  | "partially_filled" => some partiallyFilled
  | "filled" => some filled
  | "cancelled" => some cancelled
  | "rejected" => some rejected
  | "expired" => some expired
  | _ => none

def OrderStatus.terminal (status : OrderStatus) : Bool :=
  status ∈ [filled, cancelled, rejected, expired]

/-- A run that is created or running. -/
def StrategyStatus.active (status : StrategyStatus) : Bool := status ∈ [pending, running]

end Enums

/-- How Postgres reads the literals of a statement. -/
structure LiteralReader where
  numeric : String → Option ℚ
  /-- A numeral is read as the number it denotes, when it is read at all. -/
  numeric_eq : ∀ number : Numeral, ∀ q, numeric number.text = some q → q = number.value
  timestamptz : String → Option ℤ
  jsonb : Dict → Option Dict

section Rows

structure RunRow where
  id : String
  botId : String
  strategyName : Varchar 64
  mode : RunMode
  status : StrategyStatus

structure IntentRow where
  id : String
  strategyRunId : String
  market : Varchar 64
  buyExchange : Varchar 64
  sellExchange : Varchar 64
  sidePair : Varchar 32
  targetQty : Numeric 36 18
  expectedProfit : Option (Numeric 36 18)
  expectedProfitRatio : Option (Numeric 18 8)
  status : IntentStatus
  decisionContext : Dict

structure OrderRow where
  id : String
  orderIntentId : String
  botId : String
  exchangeName : Varchar 64
  exchangeOrderId : Option (Varchar 128)
  market : Varchar 64
  side : Varchar 8
  price : Option (Numeric 36 18)
  quantity : Numeric 36 18
  status : OrderStatus
  updatedAt : String
  rawPayload : Dict

structure FillRow where
  id : String
  orderId : String
  exchangeTradeId : Option (Varchar 128)
  fillPrice : Numeric 36 18
  fillQty : Numeric 36 18
  feeAsset : Option (Varchar 32)
  feeAmount : Option (Numeric 36 18)
  filledAt : ℤ

section Updates

def RunRow.started (runId : String) (row : RunRow) : RunRow :=
  if row.id = runId then { row with status := .running } else row

def IntentRow.withStatus (condition : IntentRow → Bool) (status : IntentStatus) (row : IntentRow) :
    IntentRow :=
  if condition row then { row with status := status } else row

def OrderRow.withStatus (now orderId : String) (status : OrderStatus) (row : OrderRow) : OrderRow :=
  if row.id = orderId then { row with status := status, updatedAt := now } else row

@[simp] theorem RunRow.id_started {runId : String} {row : RunRow} :
    (row.started runId).id = row.id := by
  unfold started
  split_ifs <;> rfl

@[simp] theorem IntentRow.id_withStatus {condition : IntentRow → Bool} {status : IntentStatus}
    {row : IntentRow} : (row.withStatus condition status).id = row.id := by
  unfold withStatus
  split_ifs <;> rfl

@[simp] theorem OrderRow.id_withStatus {now orderId : String} {status : OrderStatus}
    {row : OrderRow} : (row.withStatus now orderId status).id = row.id := by
  unfold withStatus
  split_ifs <;> rfl

end Updates

/-- The exchange's own identifier of an order that has one. -/
def OrderRow.exchangeKey (row : OrderRow) : Option (String × String) :=
  row.exchangeOrderId.map fun id => (row.exchangeName.text, id.text)

structure Database where
  bots : List String
  strategyRuns : Table RunRow RunRow.id
  orderIntents : Table IntentRow IntentRow.id
  orders : Table OrderRow OrderRow.id
  tradeFills : Table FillRow FillRow.id

namespace Database

/-- No rows but those of the bots. -/
def empty (bots : List String) : Database := ⟨bots, .empty, .empty, .empty, .empty⟩

def fillsOf (db : Database) (orderId : String) : List FillRow :=
  db.tradeFills.rows.filter (·.orderId = orderId)

def activeRuns (db : Database) (botId : String) : List RunRow :=
  db.strategyRuns.rows.filter fun run => run.botId = botId ∧ run.status.active

end Database

end Rows

section Statements

inductive Statement where
  | countRuns (runId : String)
  | insertIntent (runId : String) (new : NewOrderIntent)
  | readIntent (intentId : String)
  | selectIntent (intentId : String)
  | selectExchangeOrder (exchangeName exchangeOrderId : String)
  | insertOrder (intentId botId : String) (new : NewOrder)
  | submitIntent (intentId : String)
  | readOrder (orderId : String)
  | selectOrderStatus (orderId : String)
  | updateOrder (orderId : String) (status : OrderStatus)
  /-- Status and quantities of the order that a fill is for. -/
  | selectOrder (orderId : String) (new : NewFill)
  | selectTrade (orderId exchangeTradeId : String)
  | insertFill (orderId : String) (new : NewFill) (nextStatus : OrderStatus)
  | settleIntent (orderId : String)
  | readFill (fillId : String)
  | countBots (botId : String)
  | selectActiveRun (botId : String)
  | insertRun (botId strategyName mode : String)
  | readRun (runId : String)
  | selectRun (runId : String)
  | selectRunningRun (botId runId : String)
  | startRun (runId : String)

/-- What an intent is read for when an order is created. -/
structure IntentHead where
  botId : String
  market : String
  buyExchange : String
  sellExchange : String

/-- What an order is read for when a fill is created. -/
structure OrderTotals where
  status : OrderStatus
  requestedQty : ℚ
  currentFilledQty : ℚ

/-- What a statement answers: the rows it is sent for, or the exception it raises. -/
def Statement.Reply : Statement → Type
  | countRuns _ | countBots _ => Bool
  | insertIntent _ _ | insertOrder _ _ _ | insertFill _ _ _ | insertRun _ _ _ =>
      Except String String
  | selectIntent _ => Option IntentHead
  | selectOrderStatus _ => Option OrderStatus
  | selectOrder _ _ => Option OrderTotals
  | selectRun _ => Option (String × StrategyStatus)
  | submitIntent _ | settleIntent _ | startRun _ => Unit
  | readIntent _ | selectExchangeOrder _ _ | readOrder _ | updateOrder _ _ | selectTrade _ _
  | readFill _ | selectActiveRun _ | readRun _ | selectRunningRun _ _ => Option String

/-- The identifier that a statement draws for a new row, and the instant it is sent at. -/
structure Moment where
  uuid : String
  now : String

variable (host : LiteralReader) (moment : Moment)

section NewRows

/-- What a column keeps of a numeral. -/
def numericOf? {precision scale : ℕ} (number : Numeral) : Option (Numeric precision scale) :=
  (host.numeric number.text).bind Numeric.ofRat?

def IntentRow.ofNew? (runId : String) (new : NewOrderIntent) : Option IntentRow := do
  return {
    id := moment.uuid
    strategyRunId := runId
    market := ← Varchar.ofText? 64 new.market
    buyExchange := ← Varchar.ofText? 64 new.buyExchange
    sellExchange := ← Varchar.ofText? 64 new.sellExchange
    sidePair := ← Varchar.ofText? 32 new.sidePair
    targetQty := ← numericOf? host new.targetQty
    expectedProfit := ← new.expectedProfit.mapM (numericOf? host)
    expectedProfitRatio := ← new.expectedProfitRatio.mapM (numericOf? host)
    status := ← IntentStatus.ofText? new.status
    decisionContext := ← host.jsonb new.decisionContext }

def OrderRow.ofNew? (intentId botId : String) (new : NewOrder) : Option OrderRow := do
  return {
    id := moment.uuid
    orderIntentId := intentId
    botId := botId
    exchangeName := ← Varchar.ofText? 64 new.exchangeName
    exchangeOrderId := ← new.exchangeOrderId.mapM (Varchar.ofText? 128)
    market := ← Varchar.ofText? 64 new.market
    side := ← Varchar.ofText? 8 new.side
    price := ← new.requestedPrice.mapM (numericOf? host)
    quantity := ← numericOf? host new.requestedQty
    status := ← OrderStatus.ofText? new.status
    updatedAt := moment.now
    rawPayload := ← host.jsonb new.rawPayload }

def FillRow.ofNew? (orderId : String) (new : NewFill) : Option FillRow := do
  return {
    id := moment.uuid
    orderId := orderId
    exchangeTradeId := ← new.exchangeTradeId.mapM (Varchar.ofText? 128)
    fillPrice := ← numericOf? host new.fillPrice
    fillQty := ← numericOf? host new.fillQty
    feeAsset := ← new.feeAsset.mapM (Varchar.ofText? 32)
    feeAmount := ← new.feeAmount.mapM (numericOf? host)
    filledAt := ← host.timestamptz new.filledAt }

def RunRow.ofNew? (botId strategyName mode : String) : Option RunRow := do
  return {
    id := moment.uuid
    botId := botId
    strategyName := ← Varchar.ofText? 64 strategyName
    mode := ← RunMode.ofText? mode
    status := .pending }

end NewRows

namespace Database

/-- The answer of an insert, and the database it leaves. -/
def inserted (db : Database) (id : String) (result : Option Database) :
    Except String String × Database :=
  match result with
  | some after => (.ok id, after)
  | none => (.error "the row is refused", db)

def insertIntent (db : Database) (runId : String) (new : NewOrderIntent) : Option Database := do
  let row ← IntentRow.ofNew? host moment runId new
  if db.strategyRuns.has runId then
    return { db with orderIntents := ← db.orderIntents.insert? row }
  else none

/-- Orders with identifiers of one exchange have different ones. -/
def insertOrder (db : Database) (intentId botId : String) (new : NewOrder) : Option Database := do
  let row ← OrderRow.ofNew? host moment intentId botId new
  if db.orderIntents.has intentId ∧ botId ∈ db.bots ∧
      ∀ other ∈ db.orders.rows, row.exchangeKey ≠ none → other.exchangeKey ≠ row.exchangeKey then
    return { db with orders := ← db.orders.insert? row }
  else none

/-- Overwrite the status of an order and stamp it. -/
def setOrderStatus (db : Database) (orderId : String) (status : OrderStatus) : Database :=
  { db with orders := db.orders.update (OrderRow.withStatus moment.now orderId status) fun _ =>
      OrderRow.id_withStatus }

def setIntentStatus (db : Database) (condition : IntentRow → Bool) (status : IntentStatus) :
    Database :=
  { db with orderIntents := db.orderIntents.update (IntentRow.withStatus condition status) fun _ =>
      IntentRow.id_withStatus }

/-- One statement inserts the fill and updates its order. -/
def insertFill (db : Database) (orderId : String) (new : NewFill) (nextStatus : OrderStatus) :
    Option Database := do
  let row ← FillRow.ofNew? host moment orderId new
  if db.orders.has orderId then
    return { db.setOrderStatus moment orderId nextStatus with
      tradeFills := ← db.tradeFills.insert? row }
  else none

/-- The intent of the order is done when all its orders are filled. -/
def settles (db : Database) (orderId : String) (intent : IntentRow) : Bool :=
  let related := db.orders.rows.filter (·.orderIntentId = intent.id)
  (db.orders.find? orderId).any (·.orderIntentId = intent.id) &&
    !related.isEmpty && related.all (·.status = .filled)

def insertRun (db : Database) (botId strategyName mode : String) : Option Database := do
  let row ← RunRow.ofNew? moment botId strategyName mode
  if botId ∈ db.bots then return { db with strategyRuns := ← db.strategyRuns.insert? row }
  else none

def startRun (db : Database) (runId : String) : Database :=
  { db with strategyRuns := db.strategyRuns.update (RunRow.started runId) fun _ =>
      RunRow.id_started }

def filledUnits (db : Database) (orderId : String) : ℤ :=
  ((db.fillsOf orderId).map (·.fillQty.units)).sum

def orderTotals (db : Database) (order : OrderRow) : OrderTotals where
  status := order.status
  requestedQty := order.quantity.value
  currentFilledQty := db.filledUnits order.id / 10 ^ 18

/-- The intent with the bot of its run. -/
def intentHead (db : Database) (intentId : String) : Option IntentHead := do
  let intent ← db.orderIntents.find? intentId
  let run ← db.strategyRuns.find? intent.strategyRunId
  return ⟨run.botId, intent.market.text, intent.buyExchange.text, intent.sellExchange.text⟩

/-- What a statement answers and leaves. -/
def exec : (op : Statement) → Database → op.Reply × Database
  | .countRuns runId, db => (db.strategyRuns.has runId, db)
  | .insertIntent runId new, db => db.inserted moment.uuid (db.insertIntent host moment runId new)
  | .readIntent intentId, db => ((db.orderIntents.find? intentId).map (·.id), db)
  | .selectIntent intentId, db => (db.intentHead intentId, db)
  | .selectExchangeOrder exchangeName exchangeOrderId, db =>
      ((db.orders.rows.find? fun row =>
        row.exchangeKey = some (exchangeName, exchangeOrderId)).map (·.id), db)
  | .insertOrder intentId botId new, db =>
      db.inserted moment.uuid (db.insertOrder host moment intentId botId new)
  | .submitIntent intentId, db =>
      ((), db.setIntentStatus (fun row => row.id = intentId ∧ row.status = .created) .submitted)
  | .readOrder orderId, db => ((db.orders.find? orderId).map (·.id), db)
  | .selectOrderStatus orderId, db => ((db.orders.find? orderId).map (·.status), db)
  | .updateOrder orderId status, db =>
      ((db.orders.find? orderId).map (·.id), db.setOrderStatus moment orderId status)
  | .selectOrder orderId _, db => ((db.orders.find? orderId).map db.orderTotals, db)
  | .selectTrade orderId exchangeTradeId, db =>
      (((db.fillsOf orderId).find? fun row =>
        row.exchangeTradeId.map Varchar.text = some exchangeTradeId).map (·.id), db)
  | .insertFill orderId new nextStatus, db =>
      db.inserted moment.uuid (db.insertFill host moment orderId new nextStatus)
  | .settleIntent orderId, db =>
      ((), db.setIntentStatus (fun row => db.settles orderId row) .simulated)
  | .readFill fillId, db => ((db.tradeFills.find? fillId).map (·.id), db)
  | .countBots botId, db => (decide (botId ∈ db.bots), db)
  | .selectActiveRun botId, db => ((db.activeRuns botId).getLast?.map (·.id), db)
  | .insertRun botId strategyName mode, db =>
      db.inserted moment.uuid (db.insertRun moment botId strategyName mode)
  | .readRun runId, db => ((db.strategyRuns.find? runId).map (·.id), db)
  | .selectRun runId, db =>
      ((db.strategyRuns.find? runId).map fun run => (run.botId, run.status), db)
  | .selectRunningRun botId runId, db =>
      ((db.strategyRuns.rows.find? fun run =>
        run.botId = botId ∧ run.id ≠ runId ∧ run.status = .running).map (·.id), db)
  | .startRun runId, db => ((), db.startRun runId)

end Database

end Statements

end TradingPlatform.Storage

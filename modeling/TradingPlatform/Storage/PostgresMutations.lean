import TradingPlatform.Storage.MemoryStore
import TradingPlatform.Storage.PostgresTables

/-! # Mutations of the Postgres store

Each mutation is a program of statements, every one of them committed by itself:
it selects what it checks and then inserts or updates. Identifiers of rows are
texts that have been read as a uuid; a text that is none is not found.
-/

namespace TradingPlatform.Storage

open Programs

/-- What a mutation answers: its outcome and the row it hands out, by its identifier. -/
structure MutationAnswer where
  outcome : StoreOutcome
  rowId : Option String
deriving DecidableEq

/-- A mutation ends with an answer or an exception. -/
abbrev Mutation := Program Statement Statement.Reply (Except String MutationAnswer)

namespace Mutation

def answer (outcome : StoreOutcome) (rowId : Option String) : Mutation :=
  .done (.ok ⟨outcome, rowId⟩)

/-- Send a statement and go on with what it answers. -/
def send (op : Statement) (next : op.Reply → Mutation) : Mutation := .perform op next

/-- Send an insert and go on with the identifier of the new row. -/
def insert (reply : Except String String) (next : String → Mutation) : Mutation :=
  match reply with
  | .error text => .done (.error text)
  | .ok id => next id

end Mutation

open Mutation

namespace Postgres

variable (ctx : DecimalContext)

def createOrderIntent (runId : Option String) (new : NewOrderIntent) : Mutation :=
  match runId with
  | none => answer .notFound none
  | some runId =>
      send (.countRuns runId) fun (found : Bool) =>
        if found then
          send (.insertIntent runId new) fun reply => insert reply fun id =>
            send (.readIntent id) fun row => answer .created row
        else answer .notFound none

/-- Insert the order, and mark its intent submitted. -/
def insertOrderRow (intentId botId : String) (new : NewOrder) : Mutation :=
  send (.insertOrder intentId botId new) fun reply => insert reply fun id =>
    send (.submitIntent intentId) fun _ =>
      send (.readOrder id) fun row => answer .created row

def createOrder (intentId : Option String) (new : NewOrder) : Mutation :=
  match intentId with
  | none => answer .notFound none
  | some intentId =>
      send (.selectIntent intentId) fun intent =>
        match intent with
        | none => answer .notFound none
        | some intent =>
            if new.market ≠ intent.market then answer .invalid none
            else if new.exchangeName ≠ intent.buyExchange ∧
                new.exchangeName ≠ intent.sellExchange then answer .invalid none
            else
              match new.exchangeOrderId with
              | none => insertOrderRow intentId intent.botId new
              | some exchangeOrderId =>
                  send (.selectExchangeOrder new.exchangeName exchangeOrderId) fun existing =>
                    match existing with
                    | some id => send (.readOrder id) fun row => answer .conflict row
                    | none => insertOrderRow intentId intent.botId new

def updateOrderStatus (orderId : Option String) (status : String) : Mutation :=
  match orderId, OrderStatus.ofText? (Text.lower (Text.strip status)) with
  | none, _ => answer .notFound none
  | some _, none => answer .invalid none
  | some orderId, some next =>
      send (.selectOrderStatus orderId) fun current =>
        match current with
        | none => answer .notFound none
        | some current =>
            if current.terminal ∧ current ≠ next then
              send (.readOrder orderId) fun row => answer .conflict row
            else
              send (.updateOrder orderId next) fun updated =>
                match updated with
                | none => answer .notFound none
                | some id => send (.readOrder id) fun row => answer .updated row

/-- Check the quantity of a fill, insert it and settle the intent of its order. -/
def insertFillRow (orderId : String) (new : NewFill) (totals : OrderTotals) : Mutation :=
  let nextFilledQty := ctx.add totals.currentFilledQty new.fillQty.value
  if totals.requestedQty < nextFilledQty then answer .invalid none
  else
    let nextStatus : OrderStatus :=
      if nextFilledQty = totals.requestedQty then .filled else .partiallyFilled
    send (.insertFill orderId new nextStatus) fun reply => insert reply fun id =>
      send (.settleIntent orderId) fun _ =>
        send (.readFill id) fun row => answer .created row

def createFill (orderId : Option String) (new : NewFill) : Mutation :=
  match orderId with
  | none => answer .notFound none
  | some orderId =>
      send (.selectOrder orderId new) fun totals =>
        match totals with
        | none => answer .notFound none
        | some totals =>
            if totals.status.terminal then answer .invalid none
            else
              match new.exchangeTradeId with
              | none => insertFillRow ctx orderId new totals
              | some exchangeTradeId =>
                  send (.selectTrade orderId exchangeTradeId) fun existing =>
                    match existing with
                    | some id => send (.readFill id) fun row => answer .conflict row
                    | none => insertFillRow ctx orderId new totals

def createStrategyRun (botId : Option String) (strategyName mode : String) : Mutation :=
  match botId with
  | none => answer .notFound none
  | some botId =>
      send (.countBots botId) fun (found : Bool) =>
        if found then
          send (.selectActiveRun botId) fun existing =>
            match existing with
            | some id => send (.readRun id) fun row => answer .conflict row
            | none =>
                send (.insertRun botId strategyName mode) fun reply => insert reply fun id =>
                  send (.readRun id) fun row => answer .created row
        else answer .notFound none

def startStrategyRun (runId : Option String) : Mutation :=
  match runId with
  | none => answer .notFound none
  | some runId =>
      send (.selectRun runId) fun run =>
        match run with
        | none => answer .notFound none
        | some (botId, status) =>
            if status ≠ .pending then send (.readRun runId) fun row => answer .conflict row
            else
              send (.selectRunningRun botId runId) fun running =>
                match running with
                | some _ => send (.readRun runId) fun row => answer .conflict row
                | none =>
                    send (.startRun runId) fun _ =>
                      send (.readRun runId) fun row => answer .started row

end Postgres

end TradingPlatform.Storage

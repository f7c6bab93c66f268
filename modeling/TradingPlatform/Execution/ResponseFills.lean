import TradingPlatform.Execution.ResponseOrders

/-! # Fills of an execution response

Reading, checking and persisting the fills an executor reports against the
orders just created.
-/

namespace TradingPlatform.Execution

open Storage

structure FillItem where
  orderId : String
  exchangeTradeId : Option String
  fillPrice : Numeral
  fillQty : Numeral
  feeAsset : Option String
  feeAmount : Numeral
  filledAt : String

def FillItem.newFill (item : FillItem) : NewFill where
  orderId := item.orderId
  exchangeTradeId := item.exchangeTradeId
  fillPrice := item.fillPrice
  fillQty := item.fillQty
  feeAsset := item.feeAsset
  feeAmount := some item.feeAmount
  filledAt := item.filledAt

/-- The order a fill is for: the one on its leg, or the only one on its side
when the fill names no exchange. -/
def matchOrderForFill (orderIndex : List (LegKey × Order)) (side : String)
    (exchangeName : Option String) : Option Order :=
  match exchangeName with
  | some exchangeName => orderIndex.lookup (side, exchangeName)
  | none =>
      match orderIndex.filter fun entry => entry.1.1 = side with
      | [entry] => some entry.2
      | _ => none

section Reading

variable (ctx : DecimalContext)

/-- The checks of one item that look at nothing but the item and its order. -/
def readFillItem (orderIndex : List (LegKey × Order)) (isoNow : String) (item : Dict) :
    Except String (Order × FillItem) :=
  match matchOrderForFill orderIndex (itemSide item) (jsonText (item.get "exchange_name")) with
  | none => .error "private execution fill could not be matched to order"
  | some order =>
      match jsonNumberText ctx (item.get "fill_price"),
        jsonNumberText ctx (item.get "fill_qty") with
      | some fillPrice, some fillQty =>
          let feeAmount := (jsonNumberText ctx (item.get "fee_amount")).getD zeroNumeral
          require (isPositiveNumberText fillPrice)
            "private execution fill_price must be a positive number" <|
          require (isPositiveNumberText fillQty)
            "private execution fill_qty must be a positive number" <|
          require (isNonnegativeNumberText feeAmount)
            "private execution fee_amount must be nonnegative" <|
          .ok (order,
            { orderId := order.orderId
              exchangeTradeId := jsonText (item.get "exchange_trade_id")
              fillPrice := fillPrice
              fillQty := fillQty
              feeAsset := jsonText (item.get "fee_asset")
              feeAmount := feeAmount
              filledAt := (jsonDatetimeText (item.get "filled_at")).getD isoNow })
      | _, _ => .error "private execution fill missing fill_price or fill_qty"

/-- What a run of fills has used so far: trade identifiers by order, and for
each order the quantity filled and requested. -/
structure FillProgress where
  tradeIds : List (String × String) := []
  quantities : List (String × ℚ × ℚ) := []

/-- Filled and requested quantity of an order, read from the store at its first fill. -/
def FillProgress.quantity (progress : FillProgress) (listFills : String → List Fill)
    (order : Order) : ℚ × ℚ :=
  (progress.quantities.lookup order.orderId).getD
    (ctx.sum ((listFills order.orderId).map (·.fillQty.value)), order.requestedQty.value)

/-- Check the items in order: no trade twice, none that the store already has,
no order over-filled. -/
def validateFillItems (listFills : String → List Fill) (orderIndex : List (LegKey × Order))
    (isoNow : Nat → String) : Nat → FillProgress → List Json → Except String (List FillItem)
  | _, _, [] => .ok []
  | index, progress, .obj fields :: rest =>
      match readFillItem ctx orderIndex (isoNow index) fields with
      | .error message => .error message
      | .ok (order, item) =>
          let (filledQty, requestedQty) := progress.quantity ctx listFills order
          let nextFilledQty := ctx.add filledQty item.fillQty.value
          require (item.exchangeTradeId.all fun id => (item.orderId, id) ∉ progress.tradeIds)
            "private execution response duplicated fill exchange_trade_id" <|
          require (item.exchangeTradeId.all fun id =>
              some id ∉ (listFills item.orderId).map Fill.exchangeTradeId)
            "private execution fill exchange_trade_id conflicts with existing fill" <|
          require (nextFilledQty ≤ requestedQty)
            "private execution fills exceed requested_qty" <|
          match validateFillItems listFills orderIndex isoNow (index + 1)
            { tradeIds := (item.exchangeTradeId.map (item.orderId, ·)).toList ++ progress.tradeIds
              quantities := (item.orderId, nextFilledQty, requestedQty) :: progress.quantities }
            rest with
          | .error message => .error message
          | .ok items => .ok (item :: items)
  | _, _, _ :: _ => .error "private execution fill item must be an object"

end Reading

/-- The fills created from a response, and what stopped the run. -/
structure FillsCreation (σ : Type) where
  createdFills : List Fill
  error : Option String
  store : σ

section Creating

variable {σ : Type} (P : StoreProtocol σ) (ctx : DecimalContext)

def createFillItems (items : List FillItem) (s : σ) : Creation FillItem Fill σ :=
  createRows (fun item => P.createFill item.newFill) items s

def createFillsFromResponse (isoNow : Nat → String) (orderIndex : List (LegKey × Order))
    (fillsPayload : Json) (s : σ) : FillsCreation σ :=
  match fillsPayload with
  | .null => ⟨[], none, s⟩
  | .arr fills =>
      match validateFillItems ctx (P.listFills s) orderIndex isoNow 0 {} fills with
      | .error message => ⟨[], some message, s⟩
      | .ok items =>
          let creation := createFillItems P items s
          { createdFills := creation.rows.map Prod.snd
            error := creation.refusal.map fun refused =>
              "private execution fill create failed: " ++ refused.2.text
            store := creation.store }
  | _ => ⟨[], some "private execution fills must be a list", s⟩

end Creating

end TradingPlatform.Execution

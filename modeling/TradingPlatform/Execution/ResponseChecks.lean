import TradingPlatform.Execution.ResponseFills

/-! # Checks of an execution response

What the private adapters check about a response before they create rows from
it, and about the rows afterwards. A check that passes gives no message.
-/

namespace TradingPlatform.Execution

open Storage

/-- A map from legs, in the order the legs were first set. -/
abbrev LegMap (α : Type) := List (LegKey × α)

def LegMap.set {α : Type} (map : LegMap α) (leg : LegKey) (value : α) : LegMap α :=
  if (map.lookup leg).isSome then
    map.map fun entry => if entry.1 = leg then (leg, value) else entry
  else map ++ [(leg, value)]

def itemLeg (item : Dict) : LegKey :=
  (itemSide item, (jsonText (item.get "exchange_name")).getD "")

/-- A leg with a known side and an exchange. -/
def LegKey.named (leg : LegKey) : Bool := (leg.1 = "buy" ∨ leg.1 = "sell") ∧ leg.2 ≠ ""

/-- Status of an order item, blanks stripped before the case is folded. -/
def payloadStatus (item : Dict) : String :=
  Text.lower (Text.strip ((jsonText (item.get "status")).getD "submitted"))

/-- The dictionaries of a list of values. -/
def dictItems (items : List Json) : List Dict :=
  items.filterMap fun item =>
    match item with
    | .obj fields => some fields
    | _ => none

section Rows

def validateFilledOrderStates (createdOrders : List Order) : Option String :=
  let nonFilled := createdOrders.filter fun order =>
    Text.lower (Text.strip order.status) ≠ "filled"
  if nonFilled.isEmpty then none
  else
    some ("private execution filled outcome left orders non-terminal: " ++
      Text.join ", " (nonFilled.map fun order => order.orderId ++ ":" ++ order.status))

def missingFillLegs (observed : List LegKey) (intent : OrderIntent) : Option String :=
  let missing := (expectedLegs intent).filter (· ∉ observed)
  if intent.buyExchange = "" ∨ intent.sellExchange = "" then
    some "private execution response missing arbitrage exchange context"
  else if missing.isEmpty then none
  else some ("private execution filled outcome missing required fill legs: " ++ legTexts missing)

def validateFilledLegCoverage (createdFills : List Fill) (intent : OrderIntent) : Option String :=
  missingFillLegs
    (createdFills.map fun fill =>
      (Text.lower (Text.strip fill.side), Text.strip fill.exchangeName)) intent

def validateSubmittedOrderStates (createdOrders : List Order) (createdFills : List Fill) :
    Option String :=
  let terminal := createdOrders.filter fun order =>
    Text.lower (Text.strip order.status) ∈ terminalStatuses
  if !createdFills.isEmpty then
    some "private execution submitted outcome must not include fills"
  else if terminal.isEmpty then none
  else
    some ("private execution submitted outcome returned terminal orders: " ++
      Text.join ", " (terminal.map fun order => order.orderId ++ ":" ++ order.status))

end Rows

section Submitted

def validateResponseSubmittedPayload (ordersPayload fillsPayload : Json) : Option String :=
  let items : List Dict :=
    match ordersPayload with
    | .arr items => dictItems items
    | _ => []
  let terminal := items.filter fun item => payloadStatus item ∈ terminalStatuses
  match fillsPayload with
  | .arr (_ :: _) => some "private execution submitted outcome must not include fills"
  | _ =>
    if terminal.isEmpty then none
    else
      some ("private execution submitted outcome returned terminal orders: " ++
        Text.join ", " (terminal.map fun item =>
          (jsonText (item.get "exchange_name")).getD "unknown" ++ ":" ++ payloadStatus item))

end Submitted

section Filled

variable (ctx : DecimalContext)

/-- The requested quantity of an item when it is a positive number. -/
def positiveQty (item : Dict) : Option ℚ :=
  (jsonNumberText ctx (item.get "requested_qty")).bind fun qty =>
    if isPositiveNumberText qty then some qty.value else none

def validateResponseFillLegCoverage (fillsPayload : List Json) (intent : OrderIntent) :
    Option String :=
  let observed := ((dictItems fillsPayload).map itemLeg).filter LegKey.named
  let unexpected := (sortedLegs observed).filter (· ∉ expectedLegs intent)
  match missingFillLegs observed intent with
  | some message => some message
  | none =>
      if unexpected.isEmpty then none
      else
        some ("private execution filled outcome returned unexpected fill legs: " ++
          legTexts unexpected)

/-- Requested quantities of the filled items by leg; any other status is refused. -/
def filledRequestedQty : List Dict → LegMap ℚ → Except String (LegMap ℚ)
  | [], requested => .ok requested
  | item :: rest, requested =>
      if !(itemLeg item).named then filledRequestedQty rest requested
      else if payloadStatus item ≠ "filled" then
        .error ("private execution filled outcome returned non-filled order statuses: " ++
          (itemLeg item).text ++ ":" ++ payloadStatus item)
      else
        match positiveQty ctx item with
        | none => filledRequestedQty rest requested
        | some qty => filledRequestedQty rest (requested.set (itemLeg item) qty)

/-- Trades and quantities seen so far in a list of reported fills. -/
structure FillTally where
  trades : List (String × String × String) := []
  quantities : LegMap ℚ := []

/-- One reported fill: its price and quantity, its trade, and the quantity its
leg has with it, which stays within the leg's requested quantity when there is one. -/
def tallyFill (requested : LegMap ℚ) (item : Dict) (tally : FillTally) :
    Except String FillTally :=
  let leg := itemLeg item
  let trade := jsonText (item.get "exchange_trade_id")
  match jsonNumberText ctx (item.get "fill_price"), jsonNumberText ctx (item.get "fill_qty") with
  | some fillPrice, some fillQty =>
      let nextFillQty := ctx.add ((tally.quantities.lookup leg).getD 0) fillQty.value
      require (isPositiveNumberText fillPrice)
        "private execution fill_price must be a positive number" <|
      require (isPositiveNumberText fillQty)
        "private execution fill_qty must be a positive number" <|
      require (trade.all fun id => (leg.1, leg.2, id) ∉ tally.trades)
        "private execution response duplicated fill exchange_trade_id" <|
      require ((requested.lookup leg).all fun qty => nextFillQty ≤ qty)
        "private execution fills exceed requested_qty" <|
      .ok
        { trades := (trade.map fun id => (leg.1, leg.2, id)).toList ++ tally.trades
          quantities := tally.quantities.set leg nextFillQty }
  | _, _ => .error "private execution fill missing fill_price or fill_qty"

/-- Tally the fills that name a leg. -/
def tallyFilled (requested : LegMap ℚ) : List Dict → FillTally → Except String FillTally
  | [], tally => .ok tally
  | item :: rest, tally =>
      if !(itemLeg item).named then tallyFilled requested rest tally
      else
        match tallyFill ctx requested item tally with
        | .error message => .error message
        | .ok tally => tallyFilled requested rest tally

def validateResponseFilledPayload (intent : OrderIntent) (ordersPayload fillsPayload : Json) :
    Option String :=
  match fillsPayload with
  | .arr (first :: rest) =>
      match validateResponseFillLegCoverage (first :: rest) intent with
      | some message => some message
      | none =>
        match ordersPayload with
        | .arr orders =>
            match filledRequestedQty ctx (dictItems orders) [] with
            | .error message => some message
            | .ok requested =>
              match tallyFilled ctx requested (dictItems (first :: rest)) {} with
              | .error message => some message
              | .ok tally =>
                  (requested.find? fun entry => tally.quantities.lookup entry.1 ≠ some entry.2).map
                    fun entry =>
                      "private execution filled outcome fill coverage mismatches requested_qty: " ++
                        entry.1.text
        | _ => none
  | _ => some "private execution filled outcome missing fills"

end Filled

section SubmitFailed

variable (ctx : DecimalContext)

/-- Requested quantities of the items that name a leg and a positive quantity. -/
def failedRequestedQty (items : List Dict) : LegMap ℚ :=
  items.foldl (fun requested item =>
    if (itemLeg item).named then
      match positiveQty ctx item with
      | some qty => requested.set (itemLeg item) qty
      | none => requested
    else requested) []

/-- The legs some item reports with a status. -/
def legsWithStatus (status : String) (items : List Dict) : List LegKey :=
  (items.filter fun item =>
    (itemLeg item).named && (positiveQty ctx item).isSome &&
      payloadStatus item = status).map itemLeg

def tallyFailed (requested : LegMap ℚ) : List Json → FillTally → Except String FillTally
  | [], tally => .ok tally
  | .obj fields :: rest, tally =>
      if (requested.lookup (itemLeg fields)).isNone then
        .error "private execution fill could not be matched to order"
      else
        match tallyFill ctx requested fields tally with
        | .error message => .error message
        | .ok tally => tallyFailed requested rest tally
  | _ :: _, _ => .error "private execution fill item must be an object"

def validateResponseSubmitFailedPayload (ordersPayload fillsPayload : Json) : Option String :=
  match ordersPayload with
  | .arr (first :: rest) =>
      let items := dictItems (first :: rest)
      let requested := failedRequestedQty ctx items
      let filled := legsWithStatus ctx "filled" items
      let partiallyFilled := legsWithStatus ctx "partially_filled" items
      match fillsPayload with
      | .null =>
          if filled.isEmpty && partiallyFilled.isEmpty then none
          else some "private execution submit_failed outcome missing fills for filled orders"
      | .arr fills =>
          match tallyFailed ctx requested fills {} with
          | .error message => some message
          | .ok tally =>
              if (filled ++ partiallyFilled).any fun leg =>
                  (tally.quantities.lookup leg).isNone then
                some "private execution submit_failed outcome missing fills for filled orders"
              else if filled.any fun leg =>
                  tally.quantities.lookup leg ≠ requested.lookup leg then
                some "private execution submit_failed filled orders require full fill coverage"
              else none
      | _ => some "private execution fills must be a list"
  | _ =>
      match fillsPayload with
      | .null => none
      | _ =>
          some "private execution submit_failed outcome must not include fills without orders"

end SubmitFailed

def allowedLifecyclePreviews : String → Option (List String)
  | "submitted" => some ["entry_submitting", "entry_open"]
  | "filled" => some ["hedge_balanced", "closed"]
  | _ => none

def validateLifecyclePreview (outcome : String) (lifecyclePreview : Option String) :
    Option String :=
  match lifecyclePreview, allowedLifecyclePreviews outcome with
  | some preview, some allowed =>
      if preview ∈ allowed then none
      else
        some ("private execution lifecycle_preview is inconsistent with outcome: " ++ outcome ++
          ":" ++ preview)
  | _, _ => none

end TradingPlatform.Execution

import TradingPlatform.Execution.Reporting
import TradingPlatform.Recovery.Mismatch
import TradingPlatform.Storage.Reachable

/-! # Soundness of closing a trace

Closing a trace should mean that none of its orders can still trade and that its
fills net to nothing. A step looks at the orders of one of the trace's intents, or
at none where it trusts the reconciliation, and never at the fills.
-/

namespace TradingPlatform.Recovery

open Storage Exchange

section Specification

/-- The intents a trace is about: the one it was opened for and its unwind action. -/
def relatedIntentIds (trace : Dict) : List String :=
  ([traceText trace "intent_id", traceText trace "linked_unwind_action_id"].map Text.strip).filter
    (· ≠ "")

/-- An order of one of the trace's intents, or its linked unwind order. -/
def IsRelated (trace : Dict) (order : Order) : Prop :=
  order.orderIntentId ∈ relatedIntentIds trace ∨
    (linkedUnwindOrderId trace ≠ "" ∧ order.orderId = linkedUnwindOrderId trace)

instance (trace : Dict) (order : Order) : Decidable (IsRelated trace order) :=
  inferInstanceAs (Decidable (_ ∨ _))

/-- The base quantity a fill adds: bought counts up, sold counts down. -/
def signedQty (fill : Fill) : ℚ :=
  if fill.side = "buy" then fill.fillQty.value
  else if fill.side = "sell" then -fill.fillQty.value
  else 0

/-- The signed base quantity of all fills on the trace's orders. -/
def netFilledQty (s : MemoryStore) (trace : Dict) : ℚ :=
  ((s.fills.filter fun fill => ∃ order ∈ s.orders, IsRelated trace order ∧
    order.orderId = fill.orderId).map signedQty).sum

/-- No order of the trace can trade any more, and its fills net to zero. -/
structure ClosedOut (s : MemoryStore) (trace : Dict) : Prop where
  terminal : ∀ order ∈ s.orders, IsRelated trace order →
    normalizedStatus order.status ∈ terminalOrderStatuses
  flat : netFilledQty s trace = 0

end Specification

section Unsound

/-- A buy order of an intent that the exchange has taken and not filled. -/
def openBuyOrder (intentId : String) : NewOrder where
  orderIntentId := intentId
  exchangeName := "upbit"
  exchangeOrderId := some "entry"
  market := "XRP-KRW"
  side := "buy"
  requestedPrice := none
  requestedQty := .one
  status := "new"
  rawPayload := []

/-- An open entry order, and the intent of an unwind that has no order yet. -/
def unwindStarted : MemoryStore :=
  let entered := (MemoryStore.createOrder .counting (openBuyOrder (Platform.counting.uuid 1))
    (MemoryStore.withIntent .counting (Execution.oneUnitIntent "upbit" "bithumb"))).2
  (MemoryStore.createOrderIntent .counting
    { Execution.oneUnitIntent "upbit" "bithumb" with strategyRunId := Platform.counting.uuid 0 }
    entered).2

/-- The trace after a request to start the unwind with no residual. -/
def unwindTrace : Dict :=
  [("recovery_trace_id", .str "rt"), ("bot_id", .str "bot"),
    ("run_id", .str (Platform.counting.uuid 0)), ("intent_id", .str (Platform.counting.uuid 1)),
    ("linked_unwind_action_id", .str (Platform.counting.uuid 3)), ("status", .str "active"),
    ("lifecycle_state", .str "unwind_in_progress"), ("residual_exposure_quote", .str "0")]

end Unsound

end TradingPlatform.Recovery

import TradingPlatform.Storage.Creation

/-! # Submit results

What a submit adapter returns, and the lifecycle a failed submit is put in.
-/

namespace TradingPlatform.Execution

open Storage

/-- What the lifecycle of an entry becomes after a submit. -/
structure SubmitTransition where
  decisionOutcome : String
  nextState : String
  recoveryRequired : Bool
  unwindInProgress : Bool
deriving DecidableEq, Repr

def classifySubmitFailureTransition (decisionAccepted reservationPassed submitFailed
    autoUnwindAllowed hasPartialFill : Bool) : SubmitTransition :=
  if !decisionAccepted then ⟨"decision_rejected", "decision_rejected", false, false⟩
  else if !reservationPassed then
    ⟨"invalid_accept_without_reservation", "recovery_required", true, false⟩
  else if !submitFailed then
    ⟨"accepted", if hasPartialFill then "entry_open" else "entry_submitting", false, false⟩
  else
    ⟨"accepted", if autoUnwindAllowed then "unwind_in_progress" else "recovery_required", true,
      autoUnwindAllowed⟩

inductive SubmitOutcome where
  | submitted
  | filled
  | submitFailed
deriving DecidableEq, Repr

def SubmitOutcome.text : SubmitOutcome → String
  | .submitted => "submitted"
  | .filled => "filled"
  | .submitFailed => "submit_failed"

structure ArbitrageSubmitResult where
  outcome : SubmitOutcome
  lifecyclePreview : String
  recoveryRequired : Bool
  unwindInProgress : Bool
  createdOrders : List Order := []
  createdFills : List Fill := []
  details : Dict := []

/-- The printed average prices of an executable edge. -/
structure EdgePrices where
  buyVwap : Numeral
  sellVwap : Numeral

/-- What adapters read of a decision. -/
structure SubmitDecision where
  executableEdge : Option EdgePrices

/-- The result of a failed submit with the rows created so far. -/
def submitFailureResult (autoUnwindAllowed : Bool) (details : Dict) (createdOrders : List Order)
    (createdFills : List Fill) : ArbitrageSubmitResult :=
  let transition := classifySubmitFailureTransition true true true autoUnwindAllowed false
  { outcome := .submitFailed
    lifecyclePreview := transition.nextState
    recoveryRequired := transition.recoveryRequired
    unwindInProgress := transition.unwindInProgress
    createdOrders := createdOrders
    createdFills := createdFills
    details := details }

variable {σ : Type}

/-- The latest row of each order, the given row where none is found. -/
def refreshOrders (P : StoreProtocol σ) (readId : String → Option String) (s : σ)
    (orders : List Order) : List Order :=
  orders.map fun order => ((readId order.orderId).bind (P.getOrderDetail s)).getD order

@[simp] theorem submitFailureResult_outcome (auto : Bool) (details : Dict) (orders : List Order)
    (fills : List Fill) :
    (submitFailureResult auto details orders fills).outcome = .submitFailed := rfl

@[simp] theorem submitFailureResult_orders (auto : Bool) (details : Dict) (orders : List Order)
    (fills : List Fill) :
    (submitFailureResult auto details orders fills).createdOrders = orders := rfl

@[simp] theorem submitFailureResult_fills (auto : Bool) (details : Dict) (orders : List Order)
    (fills : List Fill) :
    (submitFailureResult auto details orders fills).createdFills = fills := rfl

/-- A failed submit is never reported as balanced or closed. -/
theorem submitFailureResult_lifecycle (auto : Bool) (details : Dict) (orders : List Order)
    (fills : List Fill) :
    (submitFailureResult auto details orders fills).lifecyclePreview ≠ "hedge_balanced" ∧
      (submitFailureResult auto details orders fills).lifecyclePreview ≠ "closed" := by
  cases auto <;>
    simp [submitFailureResult, classifySubmitFailureTransition]

/-- Refreshing keeps identifiers when an identifier is read as itself. -/
theorem refreshOrders_orderIds {P : StoreProtocol σ} (log : StoreLog P)
    {readId : String → Option String} {s : σ} {orders : List Order}
    (hread : ∀ order ∈ orders, ∀ id ∈ readId order.orderId, id = order.orderId) :
    (refreshOrders P readId s orders).map Order.orderId = orders.map Order.orderId := by
  simp only [refreshOrders, List.map_map]
  refine List.map_congr_left fun order hmem => ?_
  simp only [Function.comp_apply]
  cases hdetail : (readId order.orderId).bind (P.getOrderDetail s) with
  | none => rfl
  | some latest =>
      obtain ⟨id, hid, hlatest⟩ := Option.bind_eq_some_iff.mp hdetail
      exact (log.detail_orderId s id latest hlatest).trans (hread order hmem id hid)

end TradingPlatform.Execution

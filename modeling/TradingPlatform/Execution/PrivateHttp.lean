import TradingPlatform.Execution.ResponseChecks

/-! # The private_http submit adapter

Sends an intent to an executor and persists what the executor reports. The
response of the executor is given: the decoded object, or why there is none.
-/

namespace TradingPlatform.Execution

open Storage

/-- Details of a failed submit; the executor's own reason is kept aside. -/
def failureDetails (mode reason : String) (details : Dict) : Dict :=
  let base : Dict := [("mode", .str mode), ("reason", .str reason)]
  match jsonText (details.get "reason") with
  | some remote =>
      if remote ≠ reason then
        base.merge ((details.set "remote_reason" (.str remote)).erase "reason")
      else base.merge details
  | none => base.merge details

def failureResult (autoUnwindOnFailure : Bool) (mode reason : String) (details : Dict)
    (createdOrders : List Order) (createdFills : List Fill) : ArbitrageSubmitResult :=
  submitFailureResult autoUnwindOnFailure (failureDetails mode reason details) createdOrders
    createdFills

def responseDetails (payload : Dict) : Dict :=
  match payload.get "details" with
  | .obj fields => fields
  | _ => []

/-- The outcome an executor may report. -/
def SubmitOutcome.ofText? : String → Option SubmitOutcome
  | "submitted" => some .submitted
  | "filled" => some .filled
  | "submit_failed" => some .submitFailed
  | _ => none

section Submit

variable {σ : Type} (P : StoreProtocol σ) (ctx : DecimalContext) (isoNow : Nat → String)

/-- Persist the orders and fills of a response that reports a failed submit. -/
def submitFailedResponse (intent : OrderIntent) (auto : Bool) (payload : Dict) (s : σ) :
    ArbitrageSubmitResult × σ :=
  let details := responseDetails payload
  let fail (reason : String) := failureResult auto "private_http" reason details
  let reported := (jsonText (details.get "reason")).getD "private execution submit failed"
  match validateResponseSubmitFailedPayload ctx (payload.get "orders") (payload.get "fills") with
  | some message => (fail message [] [], s)
  | none =>
    match payload.get "orders" with
    | .arr (_ :: _) =>
        let placed := createOrdersFromResponse P ctx intent (payload.get "orders") false
          "private_http" s
        match placed.error with
        | some message => (fail message placed.createdOrders [], placed.store)
        | none =>
          match validateRequiredArbitrageLegs placed.orderIndex intent false with
          | some message => (fail message placed.createdOrders [], placed.store)
          | none =>
            let filled := createFillsFromResponse P ctx isoNow placed.orderIndex
              (payload.get "fills") placed.store
            let orders := refreshOrders P readOrderId filled.store placed.createdOrders
            (fail (filled.error.getD reported) orders filled.createdFills, filled.store)
    | _ => (fail reported [] [], s)

/-- What the rows of a response must satisfy once they are persisted. -/
def validateAcceptedStates (outcome : SubmitOutcome) (intent : OrderIntent) (orders : List Order)
    (fills : List Fill) : Option String :=
  match outcome with
  | .submitted => validateSubmittedOrderStates orders fills
  | .filled => (validateFilledOrderStates orders).or (validateFilledLegCoverage fills intent)
  | .submitFailed => none

/-- What a response that reports success must satisfy before rows are created. -/
def validateAcceptedPayload (outcome : SubmitOutcome) (intent : OrderIntent)
    (ordersPayload fillsPayload : Json) : Option String :=
  match outcome with
  | .submitted => validateResponseSubmittedPayload ordersPayload fillsPayload
  | .filled => validateResponseFilledPayload ctx intent ordersPayload fillsPayload
  | .submitFailed => none

/-- Persist the orders and fills of a response that reports success. -/
def submitAcceptedResponse (outcome : SubmitOutcome) (lifecyclePreview : Option String)
    (intent : OrderIntent) (auto : Bool) (payload : Dict) (s : σ) : ArbitrageSubmitResult × σ :=
  let details := responseDetails payload
  let fail (reason : String) := failureResult auto "private_http" reason details
  match validateAcceptedPayload ctx outcome intent (payload.get "orders") (payload.get "fills") with
  | some message => (fail message [] [], s)
  | none =>
    let placed := createOrdersFromResponse P ctx intent (payload.get "orders")
      (outcome = .filled) "private_http" s
    match placed.error with
    | some message => (fail message placed.createdOrders [], placed.store)
    | none =>
      match validateRequiredArbitrageLegs placed.orderIndex intent true with
      | some message => (fail message placed.createdOrders [], placed.store)
      | none =>
        let filled := createFillsFromResponse P ctx isoNow placed.orderIndex
          (payload.get "fills") placed.store
        let orders := refreshOrders P readOrderId filled.store placed.createdOrders
        match filled.error with
        | some message => (fail message orders filled.createdFills, filled.store)
        | none =>
          if outcome = .filled ∧ filled.createdFills = [] then
            (fail "private execution filled outcome missing fills" orders [], filled.store)
          else
            match validateAcceptedStates outcome intent orders filled.createdFills with
            | some message => (fail message orders filled.createdFills, filled.store)
            | none =>
              let settled := if outcome = .filled then "hedge_balanced" else "entry_submitting"
              ({ outcome := outcome
                 lifecyclePreview := lifecyclePreview.getD settled
                 recoveryRequired := false
                 unwindInProgress := false
                 createdOrders := orders
                 createdFills := filled.createdFills
                 details := Dict.merge [("mode", .str "private_http")] details }, filled.store)

/-- Act on a decoded response. -/
def submitResponse (intent : OrderIntent) (auto : Bool) (payload : Dict) (s : σ) :
    ArbitrageSubmitResult × σ :=
  let outcomeText := Text.lower ((jsonText (payload.get "outcome")).getD "submitted")
  let lifecyclePreview := jsonText (payload.get "lifecycle_preview")
  let fail (reason : String) :=
    (failureResult auto "private_http" reason (responseDetails payload) [] [], s)
  match SubmitOutcome.ofText? outcomeText with
  | none => fail ("private execution returned unsupported outcome: " ++ outcomeText)
  | some outcome =>
    match validateLifecyclePreview outcomeText lifecyclePreview with
    | some message => fail message
    | none =>
      match outcome with
      | .submitFailed => submitFailedResponse P ctx isoNow intent auto payload s
      | .submitted | .filled =>
          submitAcceptedResponse P ctx isoNow outcome lifecyclePreview intent auto payload s

def submitPrivateHttp (url : Option String) (response : Except String Dict) (intent : OrderIntent)
    (auto : Bool) (s : σ) : ArbitrageSubmitResult × σ :=
  if url.getD "" = "" then
    (failureResult auto "private_http" "private execution url not configured" [] [] [], s)
  else
    match response with
    | .error reason =>
        let reason := if reason = "" then "private execution request failed" else reason
        (failureResult auto "private_http" reason [] [] [], s)
    | .ok payload => submitResponse P ctx isoNow intent auto payload s

end Submit

end TradingPlatform.Execution

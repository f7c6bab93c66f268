import TradingPlatform.Storage.Accounts

/-! # Calls of the memory store

The calls that change the store's tables as data, what each of them can do, and
what every run of calls leaves as it was.
-/

namespace TradingPlatform.Storage

open MemoryStore

/-- A call that may change the tables of the store. -/
inductive Call where
  | createStrategyRun (botId strategyName mode : String)
  | startStrategyRun (runId : String)
  | stopStrategyRun (runId : String)
  | createOrderIntent (new : NewOrderIntent)
  | createOrder (new : NewOrder)
  | updateOrderStatus (orderId status : String)
  | createFill (new : NewFill)

namespace Call

variable (p : Platform) (ctx : DecimalContext)

def outcome (s : MemoryStore) : Call → StoreOutcome
  | .createStrategyRun botId strategyName mode =>
      (MemoryStore.createStrategyRun p botId strategyName mode s).1.outcome
  | .startStrategyRun runId => (MemoryStore.startStrategyRun p runId s).1.outcome
  | .stopStrategyRun runId => (MemoryStore.stopStrategyRun p runId s).1.outcome
  | .createOrderIntent new => (MemoryStore.createOrderIntent p new s).1.outcome
  | .createOrder new => (MemoryStore.createOrder p new s).1.outcome
  | .updateOrderStatus orderId status =>
      (MemoryStore.updateOrderStatus p orderId status s).1.outcome
  | .createFill new => (MemoryStore.createFill p ctx new s).1.outcome

/-- The store after a call. -/
def apply (s : MemoryStore) : Call → MemoryStore
  | .createStrategyRun botId strategyName mode =>
      (MemoryStore.createStrategyRun p botId strategyName mode s).2
  | .startStrategyRun runId => (MemoryStore.startStrategyRun p runId s).2
  | .stopStrategyRun runId => (MemoryStore.stopStrategyRun p runId s).2
  | .createOrderIntent new => (MemoryStore.createOrderIntent p new s).2
  | .createOrder new => (MemoryStore.createOrder p new s).2
  | .updateOrderStatus orderId status => (MemoryStore.updateOrderStatus p orderId status s).2
  | .createFill new => (MemoryStore.createFill p ctx new s).2

theorem step (s : MemoryStore) (call : Call) : Step p ctx s (call.apply p ctx s) := by
  cases call <;> constructor

/-- The quantity a call brings in is positive. -/
def Positive : Call → Prop
  | .createOrderIntent new => 0 < new.targetQty.value
  | .createOrder new => 0 < new.requestedQty.value
  | .createFill new => 0 < new.fillQty.value
  | _ => True

end Call

/-- A call whose quantity is positive. -/
abbrev PositiveCall := {call : Call // call.Positive}

/-- The store after a list of calls. -/
def runCalls (p : Platform) (ctx : DecimalContext) (calls : List Call) (s : MemoryStore) :
    MemoryStore :=
  calls.foldl (fun s call => call.apply p ctx s) s

section Acceptance

/-- An order the store takes: its intent is there with its market and exchange, and the
exchange order is new. -/
def TakesOrder (s : MemoryStore) (new : NewOrder) : Prop :=
  ∃ intent, s.findIntent new.orderIntentId = some intent ∧ new.market = intent.market ∧
    (new.exchangeName = intent.buyExchange ∨ new.exchangeName = intent.sellExchange) ∧
    s.findExchangeOrder new.exchangeName new.exchangeOrderId = none

/-- A fill the store takes for an order: the order is open, the trade is new and the
quantity fits. -/
structure TakesFill (ctx : DecimalContext) (s : MemoryStore) (new : NewFill) (order : Order) :
    Prop where
  found : s.findOrder new.orderId = some order
  isOpen : order.status ∉ terminalOrderStatuses
  fresh : s.findTrade new.orderId new.exchangeTradeId = none
  fits : s.nextFilledQty ctx order.orderId new.fillQty.value ≤ order.requestedQty.value

variable {ctx : DecimalContext} {s : MemoryStore}

/-- The status of a fill the store takes. -/
theorem fillStatus_of_takesFill {new : NewFill} {order : Order}
    (htakes : TakesFill ctx s new order) :
    fillStatus ctx s order new.fillQty.value =
      some (if s.nextFilledQty ctx order.orderId new.fillQty.value = order.requestedQty.value
        then "filled" else "partially_filled") := by
  simp only [fillStatus, htakes.isOpen, if_false, not_lt.mpr htakes.fits]
  split_ifs <;> rfl

theorem takesFill_of_fillStatus {new : NewFill} {order : Order} {status : String}
    (horder : s.findOrder new.orderId = some order)
    (hfree : s.findTrade new.orderId new.exchangeTradeId = none)
    (hstatus : fillStatus ctx s order new.fillQty.value = some status) :
    TakesFill ctx s new order := by
  simp only [fillStatus] at hstatus
  split_ifs at hstatus with hterminal hover
  all_goals exact ⟨horder, hterminal, hfree, not_lt.mp hover⟩

end Acceptance

section Effects

variable {p : Platform} {ctx : DecimalContext} {s s' : MemoryStore}

/-- What a call can do: refuse, touch the strategy runs only, add an intent, an
order or a fill, or change the status of an order. -/
inductive Effect (p : Platform) (ctx : DecimalContext) (s : MemoryStore) :
    Call → StoreOutcome → MemoryStore → Prop
  | refused {call : Call} {outcome : StoreOutcome}
      (hrefused : outcome = .notFound ∨ outcome = .invalid ∨ outcome = .conflict) :
      Effect p ctx s call outcome s
  | runs {call : Call} {outcome : StoreOutcome} {s' : MemoryStore}
      (horders : s'.orders = s.orders) (hfills : s'.fills = s.fills)
      (hintents : s'.orderIntents = s.orderIntents)
      (houtcome : outcome = .created ∨ outcome = .started ∨ outcome = .stopped) :
      Effect p ctx s call outcome s'
  | intent {new : NewOrderIntent} {s' : MemoryStore} (intent : OrderIntent)
      (horders : s'.orders = s.orders) (hfills : s'.fills = s.fills)
      (hintents : s'.orderIntents = s.orderIntents ++ [intent]) :
      Effect p ctx s (.createOrderIntent new) .created s'
  | order {new : NewOrder} (intent : OrderIntent)
      (hintent : s.findIntent new.orderIntentId = some intent)
      (hmarket : new.market = intent.market)
      (hexchange : new.exchangeName = intent.buyExchange ∨ new.exchangeName = intent.sellExchange)
      (hfree : s.findExchangeOrder new.exchangeName new.exchangeOrderId = none) :
      Effect p ctx s (.createOrder new) .created (s.addOrder (orderRow p s.serial intent new))
  | sameStatus {orderId status : String} (order : Order) (horder : s.findOrder orderId = some order)
      (hsame : Text.lower (Text.strip order.status) = Text.lower (Text.strip status)) :
      Effect p ctx s (.updateOrderStatus orderId status) .updated s
  | status {orderId status : String} (order : Order) (horder : s.findOrder orderId = some order)
      (hvalid : Text.lower (Text.strip status) ∈ validOrderStatuses)
      (hopen : Text.lower (Text.strip order.status) ∉ terminalOrderStatuses) :
      Effect p ctx s (.updateOrderStatus orderId status) .updated
        { s.setOrderStatus orderId (Text.lower (Text.strip status)) (p.sampleTime s.serial) with
          serial := s.serial + 1 }
  | fill {new : NewFill} (order : Order) (status : String)
      (horder : s.findOrder new.orderId = some order)
      (hfree : s.findTrade new.orderId new.exchangeTradeId = none)
      (hstatus : fillStatus ctx s order new.fillQty.value = some status) :
      Effect p ctx s (.createFill new) .created (s.addFill (fillRow p s.serial order new status))

theorem createOrder_effect (new : NewOrder) :
    Effect p ctx s (.createOrder new) (MemoryStore.createOrder p new s).1.outcome
      (MemoryStore.createOrder p new s).2 := by
  unfold MemoryStore.createOrder
  split
  · exact .refused (by simp)
  next intent hintent =>
    split_ifs with hmarket hexchange
    · exact .refused (by simp)
    · exact .refused (by simp)
    · split
      · exact .refused (by simp)
      next hfree => exact .order intent hintent (not_not.mp hmarket) (by tauto) hfree

theorem updateOrderStatus_effect (orderId status : String) :
    Effect p ctx s (.updateOrderStatus orderId status)
      (MemoryStore.updateOrderStatus p orderId status s).1.outcome
      (MemoryStore.updateOrderStatus p orderId status s).2 := by
  unfold MemoryStore.updateOrderStatus
  split
  · exact .refused (by simp)
  next order horder =>
    dsimp only
    split_ifs with hvalid hconflict hsame
    · exact .refused (by simp)
    · exact .sameStatus order horder hsame
    · exact .status order horder hvalid fun hterminal => hconflict ⟨hterminal, hsame⟩
    · exact .refused (by simp)

/-- A change of status: the order is there and open, and the status is a valid one that it
does not have yet; else nothing changes. -/
theorem updateOrderStatus_cases (p : Platform) (orderId status : String) (s : MemoryStore) :
    (∃ order, s.findOrder orderId = some order ∧
      Text.lower (Text.strip status) ∈ validOrderStatuses ∧
      Text.lower (Text.strip order.status) ∉ terminalOrderStatuses ∧
      (MemoryStore.updateOrderStatus p orderId status s).2 =
        { s.setOrderStatus orderId (Text.lower (Text.strip status)) (p.sampleTime s.serial) with
          serial := s.serial + 1 }) ∨
    ((MemoryStore.updateOrderStatus p orderId status s).2 = s ∧
      ∀ order, s.findOrder orderId = some order →
        Text.lower (Text.strip status) ∈ validOrderStatuses →
          Text.lower (Text.strip order.status) ∈ terminalOrderStatuses ∨
            Text.lower (Text.strip order.status) = Text.lower (Text.strip status)) := by
  unfold MemoryStore.updateOrderStatus
  cases horder : s.findOrder orderId with
  | none => exact Or.inr ⟨rfl, by simp⟩
  | some order =>
      dsimp only
      split_ifs with hvalid hconflict hsame
      · refine Or.inr ⟨rfl, fun other hother _ => Or.inl ?_⟩
        obtain rfl := Option.some.inj hother
        exact hconflict.1
      · refine Or.inr ⟨rfl, fun other hother _ => Or.inr ?_⟩
        obtain rfl := Option.some.inj hother
        exact hsame
      · exact Or.inl ⟨order, rfl, hvalid, fun hterminal => hconflict ⟨hterminal, hsame⟩, rfl⟩
      · exact Or.inr ⟨rfl, fun _ _ hmem => absurd hmem hvalid⟩

theorem createFill_effect (new : NewFill) :
    Effect p ctx s (.createFill new) (MemoryStore.createFill p ctx new s).1.outcome
      (MemoryStore.createFill p ctx new s).2 := by
  unfold MemoryStore.createFill
  split
  · exact .refused (by simp)
  next order horder =>
    have hid := findOrder_orderId horder
    split_ifs with hterminal
    · exact .refused (by simp)
    · split
      · exact .refused (by simp)
      next hfree =>
        dsimp only
        split_ifs with hover hfull
        · exact .refused (by simp)
        all_goals
          refine .fill order _ horder hfree ?_
          simp [fillStatus, hid, hterminal, hover, hfull]

/-- Every call has one of the effects. -/
theorem Call.effect (p : Platform) (ctx : DecimalContext) (s : MemoryStore) (call : Call) :
    Effect p ctx s call (call.outcome p ctx s) (call.apply p ctx s) := by
  cases call with
  | createStrategyRun botId strategyName mode =>
      unfold Call.outcome Call.apply MemoryStore.createStrategyRun
      dsimp only
      split
      · exact .refused (by simp)
      · split
        · exact .refused (by simp)
        · exact .runs rfl rfl rfl (by simp)
  | startStrategyRun runId =>
      unfold Call.outcome Call.apply MemoryStore.startStrategyRun
      dsimp only
      split
      · exact .refused (by simp)
      · split_ifs
        · exact .refused (by simp)
        · exact .refused (by simp)
        · exact .runs rfl rfl rfl (by simp)
  | stopStrategyRun runId =>
      unfold Call.outcome Call.apply MemoryStore.stopStrategyRun
      dsimp only
      split
      · exact .refused (by simp)
      · split_ifs
        · exact .refused (by simp)
        · exact .runs rfl rfl rfl (by simp)
  | createOrderIntent new =>
      unfold Call.outcome Call.apply MemoryStore.createOrderIntent
      dsimp only
      split
      · exact .refused (by simp)
      · exact .intent _ rfl rfl rfl
  | createOrder new => exact createOrder_effect new
  | updateOrderStatus orderId status => exact updateOrderStatus_effect orderId status
  | createFill new => exact createFill_effect new

end Effects

section Runs

variable {p : Platform} {ctx : DecimalContext} {s : MemoryStore}

theorem reachable_runCalls (hreach : Reachable p ctx s) (calls : List Call) :
    Reachable p ctx (runCalls p ctx calls s) := by
  induction calls generalizing s with
  | nil => exact hreach
  | cons call rest ih => exact ih (hreach.step (call.step p ctx s))

/-- What each call preserves, a run of calls that meet a condition preserves. -/
theorem runCalls_preserves (invariant : MemoryStore → Prop) (condition : Call → Prop)
    (hstep : ∀ s call, condition call → invariant s → invariant (call.apply p ctx s))
    (calls : List Call) (hcalls : ∀ call ∈ calls, condition call) (hinvariant : invariant s) :
    invariant (runCalls p ctx calls s) := by
  induction calls generalizing s with
  | nil => exact hinvariant
  | cons call rest ih =>
      exact ih (fun other hmem => hcalls other (List.mem_cons_of_mem _ hmem))
        (hstep s call (hcalls call List.mem_cons_self) hinvariant)

end Runs

end TradingPlatform.Storage

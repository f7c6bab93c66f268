import TradingPlatform.Foundation.Runs
import TradingPlatform.Storage.FillLimits

/-! # Simulated intents

An intent is simulated when a fill leaves all its orders filled. Recovery and the
strategy runtime take such an intent for one that is done, which it is when both
its legs have orders and no order comes after.
-/

namespace TradingPlatform.Storage

open MemoryStore

section Specification

/-- An order of the intent. -/
def OrderIntent.Owns (intent : OrderIntent) (order : Order) : Prop :=
  order.orderIntentId = intent.intentId

def OrderIntent.OnBuyLeg (intent : OrderIntent) (order : Order) : Prop :=
  intent.Owns order ∧ order.side = "buy" ∧ order.exchangeName = intent.buyExchange

def OrderIntent.OnSellLeg (intent : OrderIntent) (order : Order) : Prop :=
  intent.Owns order ∧ order.side = "sell" ∧ order.exchangeName = intent.sellExchange

variable (ctx : DecimalContext) (s : MemoryStore)

/-- Both legs of the intent have an order. -/
structure BothLegs (intent : OrderIntent) : Prop where
  bought : ∃ order ∈ s.orders, intent.OnBuyLeg order
  sold : ∃ order ∈ s.orders, intent.OnSellLeg order

/-- Both legs have an order, and every order is filled. -/
structure Complete (intent : OrderIntent) : Prop extends BothLegs s intent where
  filled : ∀ order ∈ s.orders, intent.Owns order → order.status = "filled"

/-- Every simulated intent is complete. -/
def SimulatedComplete : Prop :=
  ∀ intent ∈ s.orderIntents, intent.status = "simulated" → Complete s intent

/-- A call that creates its intent in status created. -/
def Call.StartsCreated : Call → Prop
  | .createOrderIntent new => new.status = "created"
  | _ => True

abbrev CreatedCall := {call : Call // call.StartsCreated}

/-- A fill that the order takes fills it, and the other orders of its intent are filled. -/
structure FillsLast (new : NewFill) (order : Order) : Prop extends TakesFill ctx s new order where
  full : s.nextFilledQty ctx order.orderId new.fillQty.value = order.requestedQty.value
  others : ∀ other ∈ s.orders, other.orderIntentId = order.orderIntentId →
    other.orderId ≠ order.orderId → other.status = "filled"

/-- A call in due order: the last open order of an intent is filled when both legs have
an order, and an order that comes after is filled from the start. -/
def InOrder : Call → Prop
  | .createOrder new => TakesOrder s new → ∀ intent ∈ s.orderIntents,
      intent.intentId = new.orderIntentId → intent.status = "simulated" → new.status = "filled"
  | .createFill new => ∀ order, FillsLast ctx s new order →
      ∀ intent ∈ s.orderIntents, intent.intentId = order.orderIntentId → BothLegs s intent
  | _ => True

end Specification

section Steps

variable {p : Platform} {ctx : DecimalContext} {s s' : MemoryStore} {intent : OrderIntent}

/-- What is said of an intent's orders does not depend on its status. -/
theorem bothLegs_status {status : String} :
    BothLegs s { intent with status := status } ↔ BothLegs s intent :=
  ⟨fun hlegs => ⟨hlegs.bought, hlegs.sold⟩, fun hlegs => ⟨hlegs.bought, hlegs.sold⟩⟩

theorem complete_status {status : String} :
    Complete s { intent with status := status } ↔ Complete s intent :=
  ⟨fun hcomplete => ⟨bothLegs_status.mp hcomplete.toBothLegs, hcomplete.filled⟩,
    fun hcomplete => ⟨bothLegs_status.mpr hcomplete.toBothLegs, hcomplete.filled⟩⟩

theorem submittedStatus_eq_simulated {status : String} :
    submittedStatus status = "simulated" ↔ status = "simulated" := by
  unfold submittedStatus
  split
  next hcreated => simp [hcreated]
  next => exact Iff.rfl

/-- An intent after a change of status is the intent before it, with the new status if
it is the one changed. -/
theorem exists_intent_of_mem_setIntentStatus {id : String} {f : String → String}
    (hmem : intent ∈ (s.setIntentStatus id f).orderIntents) :
    ∃ row ∈ s.orderIntents, (row.intentId = id ∧ intent = { row with status := f row.status }) ∨
      (row.intentId ≠ id ∧ intent = row) := by
  obtain ⟨row, hrow, rfl⟩ := List.mem_map.mp hmem
  refine ⟨row, hrow, ?_⟩
  by_cases hid : row.intentId = id
  · exact Or.inl ⟨hid, if_pos hid⟩
  · exact Or.inr ⟨hid, if_neg hid⟩

theorem mem_setIntentStatus {id : String} {f : String → String} (hmem : intent ∈ s.orderIntents)
    (hid : intent.intentId = id) :
    { intent with status := f intent.status } ∈ (s.setIntentStatus id f).orderIntents :=
  List.mem_map.mpr ⟨intent, hmem, if_pos hid⟩

/-- Rows that stay leave complete intents complete. -/
theorem SimulatedComplete.of_sameRows (hall : SimulatedComplete s)
    (horders : s'.orders = s.orders)
    (hintents : ∀ intent ∈ s'.orderIntents, intent.status = "simulated" → intent ∈ s.orderIntents) :
    SimulatedComplete s' := by
  intro intent hmem hstatus
  obtain ⟨⟨hbought, hsold⟩, hfilled⟩ := hall intent (hintents intent hmem hstatus) hstatus
  exact ⟨⟨horders ▸ hbought, horders ▸ hsold⟩, horders ▸ hfilled⟩

/-- An order that is added keeps simulated intents complete when it is filled from the start. -/
theorem simulatedComplete_addOrder_iff (hall : SimulatedComplete s) {order : Order} :
    SimulatedComplete (s.addOrder order) ↔ ∀ intent ∈ s.orderIntents,
      intent.intentId = order.orderIntentId → intent.status = "simulated" →
        order.status = "filled" := by
  constructor
  · intro hafter intent hmem hid hstatus
    have hadded := mem_setIntentStatus (f := submittedStatus) hmem hid
    have hsimulated := submittedStatus_eq_simulated.mpr hstatus
    exact (hafter _ hadded hsimulated).filled order (by simp) hid.symm
  · intro hfilled intent hmem hstatus
    have hkeep : ∀ row ∈ s.orderIntents, row.status = "simulated" →
        Complete (s.addOrder order) row := by
      intro row hrow hsimulated
      obtain ⟨⟨⟨bought, hbought, hbuy⟩, ⟨sold, hsold, hsell⟩⟩, hfull⟩ := hall row hrow hsimulated
      refine ⟨⟨⟨bought, List.mem_append_left _ hbought, hbuy⟩,
        ⟨sold, List.mem_append_left _ hsold, hsell⟩⟩, fun other hother howns => ?_⟩
      rcases List.mem_append.mp hother with hold | hnew
      · exact hfull other hold howns
      · obtain rfl := List.mem_singleton.mp hnew
        exact hfilled row hrow howns.symm hsimulated
    obtain ⟨row, hrow, ⟨-, rfl⟩ | ⟨-, rfl⟩⟩ := exists_intent_of_mem_setIntentStatus hmem
    · exact complete_status.mpr (hkeep row hrow (submittedStatus_eq_simulated.mp hstatus))
    · exact hkeep intent hrow hstatus

/-- The orders of an intent are there, and all are filled. -/
def Settled (s : MemoryStore) (intentId : String) : Prop :=
  (∃ order ∈ s.orders, order.orderIntentId = intentId) ∧
    ∀ order ∈ s.orders, order.orderIntentId = intentId → order.status = "filled"

instance Settled.decidable (s : MemoryStore) (intentId : String) : Decidable (Settled s intentId) :=
  inferInstanceAs (Decidable ((∃ order ∈ s.orders, order.orderIntentId = intentId) ∧
    ∀ order ∈ s.orders, order.orderIntentId = intentId → order.status = "filled"))

theorem settleIntent_eq (s : MemoryStore) (intentId : String) :
    s.settleIntent intentId = s.setIntentStatus intentId fun status =>
      if Settled s intentId then "simulated" else submittedStatus status := by
  have hsettled : ((!(s.orders.filter (·.orderIntentId = intentId)).isEmpty &&
      (s.orders.filter (·.orderIntentId = intentId)).all (·.status = "filled")) = true) ↔
      Settled s intentId := by
    simp [Settled, List.filter_eq_nil_iff, imp_iff_not_or]
  simp only [settleIntent, hsettled]

/-- Legs are a matter of the terms of the orders. -/
theorem bothLegs_of_terms (hterms : s'.orders.map Order.terms = s.orders.map Order.terms) :
    BothLegs s' intent ↔ BothLegs s intent := by
  have hsome : ∀ leg : Order → Prop, (∀ order, leg order.terms ↔ leg order) →
      ((∃ order ∈ s'.orders, leg order) ↔ ∃ order ∈ s.orders, leg order) := by
    intro leg hleg
    have hmap : ∀ orders : List Order,
        (∃ order ∈ orders.map Order.terms, leg order) ↔ ∃ order ∈ orders, leg order := by
      intro orders
      simp [hleg]
    rw [← hmap, hterms, hmap]
  have hbuy := hsome intent.OnBuyLeg fun _ => Iff.rfl
  have hsell := hsome intent.OnSellLeg fun _ => Iff.rfl
  exact ⟨fun hlegs => ⟨hbuy.mp hlegs.bought, hsell.mp hlegs.sold⟩,
    fun hlegs => ⟨hbuy.mpr hlegs.bought, hsell.mpr hlegs.sold⟩⟩

/-- A fill settles an intent when it fills the last of its orders. -/
theorem settled_setOrderStatus_iff {new : NewFill} {order : Order}
    (htakes : TakesFill ctx s new order) {status updatedAt : String}
    (hstatus : fillStatus ctx s order new.fillQty.value = some status) :
    Settled (s.setOrderStatus new.orderId status updatedAt) order.orderIntentId ↔
      FillsLast ctx s new order := by
  have hid := findOrder_orderId htakes.found
  have hmem := findOrder_mem htakes.found
  obtain rfl := Option.some.inj (hstatus.symm.trans (fillStatus_of_takesFill htakes))
  constructor
  · rintro ⟨-, hfilled⟩
    refine ⟨htakes, ?_, fun other hother hintent hne => ?_⟩
    · have hrow := hfilled _ (List.mem_map.mpr ⟨order, hmem, if_pos hid⟩) rfl
      by_contra hnot
      simp [hnot] at hrow
    · rw [hid] at hne
      exact hfilled other (List.mem_map.mpr ⟨other, hother, if_neg hne⟩) hintent
  · intro hlast
    refine ⟨⟨_, List.mem_map.mpr ⟨order, hmem, if_pos hid⟩, rfl⟩, fun row hrow hintent => ?_⟩
    obtain ⟨original, horiginal, hterms, ⟨-, hfull⟩ | ⟨hne, rfl⟩⟩ :=
      exists_row_of_mem_setOrderStatus hrow
    · rw [hfull, if_pos hlast.full]
    · exact hlast.others row horiginal hintent (by rwa [hid])

/-- An order that a fill changes was open, so its intent was not complete. -/
theorem not_simulated_of_open (hall : SimulatedComplete s) {order : Order}
    (hmem : order ∈ s.orders) (hopen : order.status ≠ "filled") (hintent : intent ∈ s.orderIntents)
    (howns : intent.Owns order) : intent.status ≠ "simulated" :=
  fun hstatus => hopen ((hall intent hintent hstatus).filled order hmem howns)

/-- A change of status of an open order keeps the other intents complete. -/
theorem complete_setOrderStatus (hwf : WellFormed p s) {order : Order} (hmem : order ∈ s.orders)
    {status updatedAt : String} (hcomplete : Complete s intent) (hother : ¬ intent.Owns order) :
    Complete (s.setOrderStatus order.orderId status updatedAt) intent := by
  refine ⟨(bothLegs_of_terms (setOrderStatus_terms _ _ _ _)).mpr hcomplete.toBothLegs,
    fun row hrow howns => ?_⟩
  obtain ⟨original, horiginal, hterms, ⟨hid, -⟩ | ⟨-, rfl⟩⟩ := exists_row_of_mem_setOrderStatus hrow
  · obtain rfl := List.inj_on_of_nodup_map hwf.nodup horiginal hmem hid
    have hintent : original.orderIntentId = row.orderIntentId := by
      simpa using congrArg Order.orderIntentId hterms
    exact absurd (hintent.trans howns) hother
  · exact hcomplete.filled row horiginal howns

/-- A fill keeps simulated intents complete unless it is the last one and a leg is missing. -/
theorem simulatedComplete_addFill_iff (hwf : WellFormed p s) (hall : SimulatedComplete s)
    {new : NewFill} {order : Order} (htakes : TakesFill ctx s new order) {status : String}
    (hstatus : fillStatus ctx s order new.fillQty.value = some status) :
    SimulatedComplete (s.addFill (fillRow p s.serial order new status)) ↔
      (FillsLast ctx s new order → ∀ intent ∈ s.orderIntents,
        intent.intentId = order.orderIntentId → BothLegs s intent) := by
  set t := s.setOrderStatus new.orderId status (p.sampleTime s.serial) with ht
  have hid := findOrder_orderId htakes.found
  have hmem := findOrder_mem htakes.found
  have hopen : order.status ≠ "filled" := fun hfilled =>
    htakes.isOpen (by rw [hfilled]; decide)
  have hsettled : Settled t order.orderIntentId ↔ FillsLast ctx s new order :=
    settled_setOrderStatus_iff htakes hstatus
  have hlegs : ∀ intent, BothLegs t intent ↔ BothLegs s intent := fun intent =>
    bothLegs_of_terms (setOrderStatus_terms _ _ _ _)
  have hcomplete : ∀ intent, Complete (s.addFill (fillRow p s.serial order new status)) intent ↔
      Complete t intent := fun intent =>
    ⟨fun h => ⟨⟨h.bought, h.sold⟩, h.filled⟩, fun h => ⟨⟨h.bought, h.sold⟩, h.filled⟩⟩
  have hintents : (s.addFill (fillRow p s.serial order new status)).orderIntents =
      (t.settleIntent order.orderIntentId).orderIntents := rfl
  rw [settleIntent_eq] at hintents
  constructor
  · intro hafter hlast intent hintent howned
    have hadded := mem_setIntentStatus (s := t) (f := fun status =>
      if Settled t order.orderIntentId then "simulated" else submittedStatus status) hintent howned
    rw [← hintents] at hadded
    have hcompleted := hafter _ hadded (if_pos (hsettled.mpr hlast))
    exact (hlegs intent).mp (bothLegs_status.mp ((hcomplete _).mp hcompleted).toBothLegs)
  · intro hlast intent hintent hsimulated
    rw [hcomplete]
    rw [hintents] at hintent
    obtain ⟨row, hrow, ⟨howned, rfl⟩ | ⟨hother, rfl⟩⟩ :=
      exists_intent_of_mem_setIntentStatus hintent
    · by_cases hdone : Settled t order.orderIntentId
      · refine complete_status.mpr ⟨(hlegs row).mpr (hlast (hsettled.mp hdone) row hrow howned),
          fun other hmem howns => hdone.2 other hmem (howns.trans howned)⟩
      · -- an intent that was simulated before had no open order
        simp only [if_neg hdone] at hsimulated
        exact absurd (submittedStatus_eq_simulated.mp hsimulated)
          (not_simulated_of_open hall hmem hopen hrow howned.symm)
    · rw [ht, ← hid]
      exact complete_setOrderStatus hwf hmem (hall intent hrow hsimulated) fun howns =>
        hother howns.symm

theorem SimulatedComplete.createOrderIntent (hall : SimulatedComplete s) {new : NewOrderIntent}
    (hcreated : new.status = "created") :
    SimulatedComplete (MemoryStore.createOrderIntent p new s).2 := by
  unfold MemoryStore.createOrderIntent
  split
  · exact hall
  · refine hall.of_sameRows rfl fun intent hmem hstatus => ?_
    rcases List.mem_append.mp hmem with hold | hnew
    · exact hold
    · obtain rfl := List.mem_singleton.mp hnew
      simp [hcreated] at hstatus

theorem simulatedComplete_createOrder_iff (hall : SimulatedComplete s) (new : NewOrder) :
    SimulatedComplete (MemoryStore.createOrder p new s).2 ↔ InOrder ctx s (.createOrder new) := by
  rcases createOrder_cases p new s with
    ⟨intent, hintent, hmarket, hexchange, hfree, hcreated⟩ | ⟨hnot, hsame⟩
  · rw [hcreated, simulatedComplete_addOrder_iff hall]
    exact ⟨fun hfilled _ => hfilled, fun hdue => hdue ⟨intent, hintent, hmarket, hexchange, hfree⟩⟩
  · rw [hsame]
    refine iff_of_true hall ?_
    rintro ⟨intent, hintent, hmarket, hexchange, hfree⟩
    exact absurd (by rw [createOrder_eq_created hintent hmarket hexchange hfree]) hnot

/-- Changing the status of an open order touches no simulated intent. -/
theorem SimulatedComplete.updateOrderStatus (hwf : WellFormed p s) (hall : SimulatedComplete s)
    (orderId status : String) :
    SimulatedComplete (MemoryStore.updateOrderStatus p orderId status s).2 := by
  have heffect := @updateOrderStatus_effect p .exact s orderId status
  generalize (MemoryStore.updateOrderStatus p orderId status s).1.outcome = outcome at heffect
  generalize (MemoryStore.updateOrderStatus p orderId status s).2 = s' at heffect ⊢
  cases heffect with
  | refused => exact hall
  | runs horders _ hintents =>
      exact hall.of_sameRows horders fun intent hmem _ => hintents ▸ hmem
  | sameStatus => exact hall
  | status order horder _ hopen =>
      have hid := findOrder_orderId horder
      have hmem := findOrder_mem horder
      have hnot : order.status ≠ "filled" := by
        intro hfilled
        rw [hfilled] at hopen
        exact hopen (by decide +kernel)
      intro intent hintent hsimulated
      have hother : ¬ intent.Owns order := fun howns =>
        not_simulated_of_open hall hmem hnot hintent howns hsimulated
      obtain ⟨⟨hbought, hsold⟩, hfilled⟩ := @complete_setOrderStatus _ _ _ hwf _ hmem
        (Text.lower (Text.strip status)) (p.sampleTime s.serial) (hall intent hintent hsimulated)
        hother
      rw [hid] at hbought hsold hfilled
      exact ⟨⟨hbought, hsold⟩, hfilled⟩

theorem simulatedComplete_createFill_iff (hwf : WellFormed p s) (hall : SimulatedComplete s)
    (new : NewFill) :
    SimulatedComplete (MemoryStore.createFill p ctx new s).2 ↔ InOrder ctx s (.createFill new) := by
  rcases createFill_cases p ctx new s with
    ⟨order, status, horder, hfree, hstatus, hcreated⟩ | ⟨hnot, hsame⟩
  · have htakes := takesFill_of_fillStatus horder hfree hstatus
    rw [hcreated, simulatedComplete_addFill_iff hwf hall htakes hstatus]
    refine ⟨fun hdue other hlast => ?_, fun hdue => hdue order⟩
    obtain rfl := Option.some.inj (horder.symm.trans hlast.found)
    exact hdue hlast
  · rw [hsame]
    refine iff_of_true hall fun order hlast => absurd ?_ hnot
    rw [createFill_eq_created hlast.found hlast.fresh
      (fillStatus_of_takesFill hlast.toTakesFill)]

/-- Where every simulated intent is complete, a call keeps it so exactly in due order. -/
theorem simulatedComplete_apply_iff (hwf : WellFormed p s) (hall : SimulatedComplete s)
    {call : Call} (hcreated : call.StartsCreated) :
    SimulatedComplete (call.apply p ctx s) ↔ InOrder ctx s call := by
  have heffect := call.effect p ctx s
  cases call with
  | createStrategyRun | startStrategyRun | stopStrategyRun =>
      refine iff_of_true ?_ trivial
      generalize Call.apply p ctx s _ = s' at heffect ⊢
      cases heffect with
      | refused => exact hall
      | runs horders _ hintents =>
          exact hall.of_sameRows horders fun intent hmem _ => hintents ▸ hmem
  | createOrderIntent new => exact iff_of_true (hall.createOrderIntent hcreated) trivial
  | createOrder new => exact simulatedComplete_createOrder_iff hall new
  | updateOrderStatus orderId status =>
      exact iff_of_true (hall.updateOrderStatus hwf orderId status) trivial
  | createFill new => exact simulatedComplete_createFill_iff hwf hall new

end Steps

section Histories

/-- Every simulated intent is complete throughout a history of calls exactly when the calls
come in due order. -/
theorem simulatedComplete_throughout_iff (p : Platform) (ctx : DecimalContext)
    (botIds : List String) (calls : List CreatedCall) :
    Runs.Throughout (fun s call => call.val.apply p ctx s) SimulatedComplete
        (MemoryStore.empty botIds) calls ↔
      Runs.Along (fun s call => call.val.apply p ctx s) (fun s call => InOrder ctx s call.val)
        (MemoryStore.empty botIds) calls := by
  have hempty : WellFormed p (MemoryStore.empty botIds) :=
    (Reachable.empty botIds : Reachable p ctx _).wellFormed
  refine Runs.throughout_iff_along_of_kept hempty (fun s call hwf => ?_) ?_
    fun s call hwf hall => ?_
  · exact hwf.step (call.val.step p ctx s)
  · simp [SimulatedComplete, MemoryStore.empty]
  · exact simulatedComplete_apply_iff hwf hall call.property

/-- A purchase of some units at the first exchange of an intent. -/
def purchase (qty : Numeral) : NewOrder where
  orderIntentId := Platform.counting.uuid 1
  exchangeName := "upbit"
  exchangeOrderId := none
  market := "XRP-KRW"
  side := "buy"
  requestedPrice := none
  requestedQty := qty
  status := "new"
  rawPayload := []

/-- One unit of the purchase, traded at the exchange under an identifier. -/
def oneUnitTrade : NewFill where
  orderId := Platform.counting.uuid 2
  exchangeTradeId := some "trade-1"
  fillPrice := .one
  fillQty := .one
  feeAsset := none
  feeAmount := none
  filledAt := "2024-01-01T00:00:00Z"

/-- A run with an intent to buy and sell one unit, of which one unit is bought and filled. -/
def boughtOnly : List CreatedCall :=
  [⟨.createStrategyRun "bot" "arbitrage" "shadow", trivial⟩,
    ⟨.createOrderIntent
      { strategyRunId := Platform.counting.uuid 0
        market := "XRP-KRW"
        buyExchange := "upbit"
        sellExchange := "bithumb"
        sidePair := "buy_then_sell"
        targetQty := .one
        expectedProfit := none
        expectedProfitRatio := none
        status := "created"
        decisionContext := [] }, rfl⟩,
    ⟨.createOrder (purchase .one), trivial⟩,
    ⟨.createFill oneUnitTrade, trivial⟩]

/-- The intent is simulated then, and nothing is sold. -/
theorem not_simulatedComplete_boughtOnly :
    ¬ ∀ (p : Platform) (ctx : DecimalContext) (botIds : List String) (calls : List CreatedCall),
      SimulatedComplete (runCalls p ctx (calls.map Subtype.val) (MemoryStore.empty botIds)) := by
  intro hall
  let s := runCalls .counting .default (boughtOnly.map Subtype.val) (MemoryStore.empty ["bot"])
  have hsold : ∀ intent ∈ s.orderIntents, intent.status = "simulated" →
      ∃ order ∈ s.orders, order.side = "sell" := by
    intro intent hintent hstatus
    obtain ⟨order, horder, -, hside, -⟩ :=
      (hall .counting .default ["bot"] boughtOnly intent hintent hstatus).sold
    exact ⟨order, horder, hside⟩
  revert hsold
  decide +kernel

end Histories

end TradingPlatform.Storage

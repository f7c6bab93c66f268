import Mathlib.Algebra.Order.BigOperators.Group.List
import TradingPlatform.Storage.FillLimits

/-! # Agreement of statuses and fills

An order that is filled should have fills for its whole quantity, a partially
filled one for some of it, and a new one none. The status of a new order is
taken from outside, so it may say more than the store has recorded.
-/

namespace TradingPlatform.Storage

open MemoryStore

section Specification

/-- The status of an order says what its fills say. -/
structure StatusAgrees (s : MemoryStore) (order : Order) : Prop where
  filled : order.status = "filled" ↔ s.filledQty order.orderId = order.requestedQty.value
  partially : order.status = "partially_filled" →
    0 < s.filledQty order.orderId ∧ s.filledQty order.orderId < order.requestedQty.value
  new : order.status = "new" → s.fillsOf order.orderId = []

/-- The statuses an order is changed to when it is cancelled. -/
def cancelStatuses : List String := ["cancelled", "rejected", "expired"]

/-- A call the routes, the adapters and the recovery endpoints make. -/
def Call.Available : Call → Prop
  | .updateOrderStatus _ status => Text.lower (Text.strip status) ∈ cancelStatuses
  | call => call.Positive

abbrev AvailableCall := {call : Call // call.Available}

variable (ctx : DecimalContext) (s : MemoryStore)

/-- The rounded sum of an order's fills compares with its quantity as the exact sum does. -/
def SumsAlike (order : Order) (qty : ℚ) : Prop :=
  let rounded := s.nextFilledQty ctx order.orderId qty
  let exact := s.filledQty order.orderId + qty
  (rounded = order.requestedQty.value ↔ exact = order.requestedQty.value) ∧
    (rounded < order.requestedQty.value → exact < order.requestedQty.value)

/-- A call that says of an order no more than is recorded: an order that is created
is not said to have fills, and a fill that is taken adds up as in exact arithmetic. -/
def Candid : Call → Prop
  | .createOrder new => TakesOrder s new → new.status ≠ "filled" ∧ new.status ≠ "partially_filled"
  | .createFill new => ∀ order, TakesFill ctx s new order → SumsAlike ctx s order new.fillQty.value
  | _ => True

/-- Every order of the store agrees with its fills. -/
def StatusesAgree : Prop := ∀ order ∈ s.orders, StatusAgrees s order

end Specification

section Invariant

variable {p : Platform} {ctx : DecimalContext} {s s' : MemoryStore} {call : Call}
  {outcome : StoreOutcome}

/-- Every quantity of the store is positive. -/
structure PositiveRows (s : MemoryStore) : Prop where
  orders : ∀ order ∈ s.orders, 0 < order.requestedQty.value
  fills : ∀ fill ∈ s.fills, 0 < fill.fillQty.value

theorem PositiveRows.filledQty_nonneg (hpositive : PositiveRows s) (id : String) :
    0 ≤ s.filledQty id := by
  refine List.sum_nonneg fun qty hqty => ?_
  obtain ⟨fill, hfill, rfl⟩ := List.mem_map.mp hqty
  exact (hpositive.fills fill (List.mem_filter.mp hfill).1).le

theorem Call.Available.positive (havailable : call.Available) : call.Positive := by
  cases call with
  | updateOrderStatus => trivial
  | createStrategyRun => trivial
  | startStrategyRun => trivial
  | stopStrategyRun => trivial
  | createOrderIntent new => exact havailable
  | createOrder new => exact havailable
  | createFill new => exact havailable

/-- Rows get their quantities from the calls that bring them in. -/
theorem PositiveRows.effect (hpositive : PositiveRows s) (hcall : call.Positive)
    (heffect : Effect p ctx s call outcome s') : PositiveRows s' := by
  cases heffect with
  | refused => exact hpositive
  | sameStatus => exact hpositive
  | runs horders hfills => exact ⟨horders ▸ hpositive.orders, hfills ▸ hpositive.fills⟩
  | intent intent horders hfills => exact ⟨horders ▸ hpositive.orders, hfills ▸ hpositive.fills⟩
  | order intent =>
      refine ⟨fun order hmem => ?_, hpositive.fills⟩
      rcases List.mem_append.mp hmem with hold | hnew
      · exact hpositive.orders order hold
      · obtain rfl := List.mem_singleton.mp hnew
        exact hcall
  | status order =>
      refine ⟨fun row hmem => ?_, hpositive.fills⟩
      obtain ⟨original, horiginal, hterms, -⟩ := exists_row_of_mem_setOrderStatus hmem
      have hqty : original.requestedQty = row.requestedQty := by
        simpa using congrArg Order.requestedQty hterms
      exact hqty ▸ hpositive.orders original horiginal
  | fill order status =>
      refine ⟨fun row hmem => ?_, fun fill hmem => ?_⟩
      · obtain ⟨original, horiginal, hterms, -⟩ := exists_row_of_mem_setOrderStatus hmem
        have hqty : original.requestedQty = row.requestedQty := by
          simpa using congrArg Order.requestedQty hterms
        exact hqty ▸ hpositive.orders original horiginal
      · rcases List.mem_cons.mp hmem with rfl | hold
        · exact hcall
        · exact hpositive.fills fill hold

end Invariant

section Step

variable {p : Platform} {ctx : DecimalContext} {s s' : MemoryStore} {call : Call}
  {outcome : StoreOutcome}

/-- Agreement is about the status, the terms and the fills of an order. -/
theorem StatusAgrees.of_same {row order : Order} (hagrees : StatusAgrees s row)
    (hterms : row.terms = order.terms) (hstatus : order.status = row.status)
    (hfills : s'.fillsOf row.orderId = s.fillsOf row.orderId) : StatusAgrees s' order := by
  have hid : row.orderId = order.orderId := by simpa using congrArg Order.orderId hterms
  have hqty : row.requestedQty = order.requestedQty := by
    simpa using congrArg Order.requestedQty hterms
  have hfilled : s'.filledQty order.orderId = s.filledQty row.orderId := by
    rw [filledQty, ← hid, hfills, filledQty]
  refine ⟨?_, ?_, ?_⟩
  · rw [hstatus, hfilled, ← hqty]
    exact hagrees.filled
  · rw [hstatus, hfilled, ← hqty]
    exact hagrees.partially
  · rw [hstatus, ← hid, hfills]
    exact hagrees.new

theorem StatusesAgree.of_sameRows (hagree : StatusesAgree s) (horders : s'.orders = s.orders)
    (hfills : s'.fills = s.fills) : StatusesAgree s' := by
  intro order hmem
  rw [horders] at hmem
  exact (hagree order hmem).of_same rfl rfl (by rw [fillsOf, hfills, fillsOf])

/-- A new order has no fills, so it agrees when its status does not speak of any. -/
theorem statusAgrees_orderRow_iff (hwf : WellFormed p s) {new : NewOrder} (intent : OrderIntent)
    (hpositive : 0 < new.requestedQty.value) :
    StatusAgrees (s.addOrder (orderRow p s.serial intent new)) (orderRow p s.serial intent new) ↔
      new.status ≠ "filled" ∧ new.status ≠ "partially_filled" := by
  have hnone : (s.addOrder (orderRow p s.serial intent new)).fillsOf (p.uuid s.serial) = [] :=
    hwf.fillsOf_fresh
  have hzero : (s.addOrder (orderRow p s.serial intent new)).filledQty (p.uuid s.serial) = 0 := by
    simp [filledQty, hnone]
  constructor
  · intro hagrees
    refine ⟨fun hfilled => ?_, fun hpartially => ?_⟩
    · have hsum := hagrees.filled.mp hfilled
      exact hpositive.ne (hzero.symm.trans hsum)
    · exact (hagrees.partially hpartially).1.ne hzero.symm
  · rintro ⟨hfilled, hpartially⟩
    refine ⟨iff_of_false hfilled fun hsum => ?_, fun hstatus => absurd hstatus hpartially,
      fun _ => hnone⟩
    exact hpositive.ne (hzero.symm.trans hsum)

/-- An order that takes a fill agrees afterwards when the sums compare alike. -/
theorem statusAgrees_filled_iff (hpositive : PositiveRows s) {new : NewFill} {order row : Order}
    (htakes : TakesFill ctx s new order) (hqty : 0 < new.fillQty.value)
    (hterms : row.terms = order.terms)
    (hstatus : row.status = if s.nextFilledQty ctx order.orderId new.fillQty.value =
      order.requestedQty.value then "filled" else "partially_filled")
    (hfilled : s'.filledQty order.orderId = s.filledQty order.orderId + new.fillQty.value) :
    StatusAgrees s' row ↔ SumsAlike ctx s order new.fillQty.value := by
  have hid : row.orderId = order.orderId := by simpa using congrArg Order.orderId hterms
  have hrequested : row.requestedQty = order.requestedQty := by
    simpa using congrArg Order.requestedQty hterms
  have hsum : 0 < s.filledQty order.orderId + new.fillQty.value :=
    add_pos_of_nonneg_of_pos (hpositive.filledQty_nonneg _) hqty
  rw [SumsAlike]
  by_cases hfull : s.nextFilledQty ctx order.orderId new.fillQty.value = order.requestedQty.value
  · rw [if_pos hfull] at hstatus
    constructor
    · intro hagrees
      have hexact := hagrees.filled.mp hstatus
      rw [hid, hfilled, hrequested] at hexact
      exact ⟨iff_of_true hfull hexact, fun hlt => absurd hfull hlt.ne⟩
    · rintro ⟨halike, -⟩
      refine ⟨iff_of_true hstatus ?_, ?_, ?_⟩
      · rw [hid, hfilled, hrequested]
        exact halike.mp hfull
      · simp [hstatus]
      · simp [hstatus]
  · rw [if_neg hfull] at hstatus
    have hlt := lt_of_le_of_ne htakes.fits hfull
    constructor
    · intro hagrees
      have hexact := (hagrees.partially hstatus).2
      rw [hid, hfilled, hrequested] at hexact
      exact ⟨iff_of_false hfull hexact.ne, fun _ => hexact⟩
    · rintro ⟨-, hless⟩
      have hexact := hless hlt
      refine ⟨iff_of_false (by simp [hstatus]) ?_, ?_, ?_⟩
      · rw [hid, hfilled, hrequested]
        exact hexact.ne
      · intro _
        rw [hid, hfilled, hrequested]
        exact ⟨hsum, hexact⟩
      · simp [hstatus]

theorem filledQty_fillRow {new : NewFill} {order : Order} (hid : order.orderId = new.orderId)
    (status : String) : (s.addFill (fillRow p s.serial order new status)).filledQty order.orderId =
      s.filledQty order.orderId + new.fillQty.value := by
  rw [filledQty_addFill, if_pos (show (fillRow p s.serial order new status).orderId = _ from
    hid.symm), add_comm]
  rfl

/-- A candid call keeps the statuses in agreement. -/
theorem StatusesAgree.effect (hagree : StatusesAgree s) (hwf : WellFormed p s)
    (hpositive : PositiveRows s) (havailable : call.Available) (hcandid : Candid ctx s call)
    (heffect : Effect p ctx s call outcome s') : StatusesAgree s' := by
  cases heffect with
  | refused => exact hagree
  | sameStatus => exact hagree
  | runs horders hfills => exact hagree.of_sameRows horders hfills
  | intent intent horders hfills => exact hagree.of_sameRows horders hfills
  | order intent hintent hmarket hexchange hfree =>
      intro row hmem
      rcases List.mem_append.mp hmem with hold | hnew
      · exact (hagree row hold).of_same rfl rfl rfl
      · obtain rfl := List.mem_singleton.mp hnew
        exact (statusAgrees_orderRow_iff hwf intent havailable).mpr
          (hcandid ⟨intent, hintent, hmarket, hexchange, hfree⟩)
  | status order horder hvalid hopen =>
      intro row hmem
      obtain ⟨original, horiginal, hterms, ⟨hid, hstatus⟩ | ⟨-, rfl⟩⟩ :=
        exists_row_of_mem_setOrderStatus hmem
      · -- a cancelled order was not filled, so its fills do not add up to its quantity
        obtain rfl : original = order := List.inj_on_of_nodup_map hwf.nodup horiginal
          (findOrder_mem horder) (hid.trans (findOrder_orderId horder).symm)
        have hnot : original.status ≠ "filled" := by
          intro hfilled
          rw [hfilled] at hopen
          exact hopen (by decide +kernel)
        have hcancel : row.status ∈ cancelStatuses := hstatus ▸ havailable
        have hrowId : original.orderId = row.orderId := by
          simpa using congrArg Order.orderId hterms
        have hqty : original.requestedQty = row.requestedQty := by
          simpa using congrArg Order.requestedQty hterms
        have hsum : s.filledQty row.orderId ≠ row.requestedQty.value := by
          rw [← hrowId, ← hqty]
          exact fun hfull => hnot ((hagree original horiginal).filled.mpr hfull)
        refine ⟨iff_of_false ?_ hsum, ?_, ?_⟩ <;> intro heq <;> rw [heq] at hcancel <;>
          exact absurd hcancel (by decide)
      · exact (hagree row horiginal).of_same rfl rfl rfl
  | @fill new order status horder hfree hstatus =>
      have htakes := takesFill_of_fillStatus horder hfree hstatus
      obtain rfl := Option.some.inj (hstatus.symm.trans (fillStatus_of_takesFill htakes))
      intro row hmem
      obtain ⟨original, horiginal, hterms, ⟨hid, hrowStatus⟩ | ⟨hid, rfl⟩⟩ :=
        exists_row_of_mem_setOrderStatus hmem
      · have horderId : order.orderId = new.orderId := findOrder_orderId horder
        obtain rfl : original = order := List.inj_on_of_nodup_map hwf.nodup horiginal
          (findOrder_mem horder) (hid.trans horderId.symm)
        refine (statusAgrees_filled_iff hpositive htakes havailable hterms.symm hrowStatus ?_).mpr
          (hcandid original htakes)
        exact filledQty_fillRow horderId _
      · refine (hagree row horiginal).of_same rfl rfl ?_
        rw [fillsOf_addFill, if_neg (Ne.symm hid)]

/-- A call after which the statuses agree was candid. -/
theorem candid_of_statusesAgree (hwf : WellFormed p s) (hpositive : PositiveRows s)
    (havailable : call.Available) (hafter : StatusesAgree (call.apply p ctx s)) :
    Candid ctx s call := by
  cases call with
  | createStrategyRun => trivial
  | startStrategyRun => trivial
  | stopStrategyRun => trivial
  | createOrderIntent => trivial
  | updateOrderStatus => trivial
  | createOrder new =>
      rintro ⟨intent, hintent, hmarket, hexchange, hfree⟩
      rw [Call.apply, createOrder_eq_created hintent hmarket hexchange hfree] at hafter
      exact (statusAgrees_orderRow_iff hwf intent havailable).mp (hafter _ (by simp))
  | createFill new =>
      intro order htakes
      rw [Call.apply, createFill_eq_created htakes.found htakes.fresh
        (fillStatus_of_takesFill htakes)] at hafter
      have hid := findOrder_orderId htakes.found
      have hmem : { order with
          status := if s.nextFilledQty ctx order.orderId new.fillQty.value =
            order.requestedQty.value then "filled" else "partially_filled",
          updatedAt := p.sampleTime s.serial } ∈
          (s.addFill (fillRow p s.serial order new (if s.nextFilledQty ctx order.orderId
            new.fillQty.value = order.requestedQty.value then "filled"
            else "partially_filled"))).orders :=
        List.mem_map.mpr ⟨order, findOrder_mem htakes.found, if_pos hid⟩
      have hagrees := hafter _ hmem
      exact (statusAgrees_filled_iff hpositive htakes havailable (by rfl) (by rfl)
        (filledQty_fillRow hid _)).mp hagrees

end Step

section Histories

variable {p : Platform} {ctx : DecimalContext}

theorem positiveRows_runCalls (botIds : List String) (calls : List AvailableCall) :
    PositiveRows (runCalls p ctx (calls.map Subtype.val) (MemoryStore.empty botIds)) := by
  refine runCalls_preserves _ Call.Available
    (fun s call havailable hpositive => hpositive.effect havailable.positive (call.effect p ctx s))
    _ ?_ ⟨by simp [MemoryStore.empty], by simp [MemoryStore.empty]⟩
  intro call hmem
  obtain ⟨available, -, rfl⟩ := List.mem_map.mp hmem
  exact available.property

/-- The statuses agree after every call of a history exactly when every call is candid. -/
theorem runCalls_statusesAgree_iff (p : Platform) (ctx : DecimalContext) (botIds : List String)
    (calls : List AvailableCall) :
    let after done := runCalls p ctx (done.map Subtype.val) (MemoryStore.empty botIds)
    (∀ done, done <+: calls → StatusesAgree (after done)) ↔
      ∀ done call, done ++ [call] <+: calls → Candid ctx (after done) call.val := by
  intro after
  have hwf : ∀ done, WellFormed p (after done) := fun done =>
    (reachable_runCalls (.empty botIds : Reachable p ctx _) _).wellFormed
  have hsnoc : ∀ done (call : AvailableCall),
      after (done ++ [call]) = call.val.apply p ctx (after done) := fun done call => by
    simp [after, runCalls]
  constructor
  · intro hagree done call hprefix
    refine candid_of_statusesAgree (hwf done) (positiveRows_runCalls botIds done) call.property ?_
    rw [← hsnoc]
    exact hagree _ hprefix
  · intro hcandid done hprefix
    induction done using List.reverseRecOn with
    | nil => exact fun order hmem => absurd hmem List.not_mem_nil
    | append_singleton done call ih =>
        rw [hsnoc]
        have hbefore := ih ((List.prefix_append done [call]).trans hprefix)
        exact hbefore.effect (hwf done) (positiveRows_runCalls botIds done) call.property
          (hcandid done call hprefix) (call.val.effect p ctx _)

end Histories

end TradingPlatform.Storage

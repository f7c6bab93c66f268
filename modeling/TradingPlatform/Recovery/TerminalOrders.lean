import TradingPlatform.Execution.Reporting
import TradingPlatform.Recovery.Handoff
import TradingPlatform.Storage.FillLimits

/-! # Terminal orders

The recovery runtime and the adapters take an order for finished once its status
is one of five. The store knows four of them, so it goes on with an order that
failed.
-/

namespace TradingPlatform.Recovery

open Storage MemoryStore

section Specification

/-- A status the recovery runtime takes for final. -/
def Finished (order : Order) : Prop := normalizedStatus order.status ∈ terminalOrderStatuses

/-- Finished orders of a store keep their status and take no fill up to a later store. -/
def FinishedKept (s s' : MemoryStore) : Prop :=
  ∀ order ∈ s.orders, Finished order →
    (∃ row ∈ s'.orders, row.orderId = order.orderId ∧ row.status = order.status) ∧
      s'.fillsOf order.orderId = s.fillsOf order.orderId

/-- A call the store goes on with an order by: it changes the status of an order that
failed, or records a fill of an order whose status it does not know as final. -/
inductive GoesOn (ctx : DecimalContext) (s : MemoryStore) (order : Order) : Call → Prop
  | update {status : String} (hfailed : normalizedStatus order.status = "failed")
      (hvalid : normalizedStatus status ∈ validOrderStatuses) :
      GoesOn ctx s order (.updateOrderStatus order.orderId status)
  | fill {new : NewFill} (htakes : TakesFill ctx s new order) : GoesOn ctx s order (.createFill new)

end Specification

instance (order : Order) : Decidable (Finished order) :=
  inferInstanceAs (Decidable (_ ∈ terminalOrderStatuses))

section Step

variable {p : Platform} {ctx : DecimalContext} {s s' s'' : MemoryStore} {call : Call}
  {outcome : StoreOutcome}

theorem FinishedKept.refl (s : MemoryStore) : FinishedKept s s :=
  fun order hmem _ => ⟨⟨order, hmem, rfl, rfl⟩, rfl⟩

theorem FinishedKept.trans (hfirst : FinishedKept s s') (hsecond : FinishedKept s' s'') :
    FinishedKept s s'' := by
  intro order hmem hfinished
  obtain ⟨⟨row, hrow, hid, hstatus⟩, hfills⟩ := hfirst order hmem hfinished
  obtain ⟨⟨last, hlast, hlastId, hlastStatus⟩, hlastFills⟩ := hsecond row hrow (by
    rwa [Finished, hstatus])
  refine ⟨⟨last, hlast, hlastId.trans hid, hlastStatus.trans hstatus⟩, ?_⟩
  rw [← hfills, ← hid, hlastFills]

theorem FinishedKept.of_sameRows (horders : s'.orders = s.orders) (hfills : s'.fills = s.fills) :
    FinishedKept s s' :=
  fun order hmem _ => ⟨⟨order, horders ▸ hmem, rfl, rfl⟩, by rw [fillsOf, hfills, fillsOf]⟩

/-- A status is final for the runtime and not for the store when it is failed. -/
theorem failed_of_terminal : ∀ status ∈ terminalOrderStatuses,
    status ∉ Storage.terminalOrderStatuses → status = "failed" := by
  decide

/-- A call goes on with a finished order, or keeps all of them. -/
theorem finishedKept_of_effect (hwf : WellFormed p s)
    (hstays : ∀ order ∈ s.orders, Finished order → ¬GoesOn ctx s order call)
    (heffect : Effect p ctx s call outcome s') : FinishedKept s s' := by
  cases heffect with
  | refused => exact .refl s
  | sameStatus => exact .refl s
  | runs horders hfills => exact .of_sameRows horders hfills
  | intent intent horders hfills => exact .of_sameRows horders hfills
  | order intent =>
      intro order hmem _
      exact ⟨⟨order, List.mem_append_left _ hmem, rfl, rfl⟩, rfl⟩
  | @status orderId status order horder hvalid hopen =>
      intro row hmem hfinished
      have hother : row.orderId ≠ orderId := by
        rintro rfl
        obtain rfl : order = row := Option.some.inj (horder.symm.trans (hwf.findOrder_of_mem hmem))
        exact hstays order hmem hfinished (.update (failed_of_terminal _ hfinished hopen) hvalid)
      refine ⟨⟨row, List.mem_map.mpr ⟨row, hmem, if_neg hother⟩, rfl, rfl⟩, rfl⟩
  | @fill new order status horder hfree hstatus =>
      intro row hmem hfinished
      have hother : row.orderId ≠ new.orderId := by
        rintro hid
        obtain rfl : order = row := Option.some.inj (horder.symm.trans
          (hid ▸ hwf.findOrder_of_mem hmem))
        exact hstays order hmem hfinished (.fill (takesFill_of_fillStatus horder hfree hstatus))
      refine ⟨⟨row, List.mem_map.mpr ⟨row, hmem, if_neg hother⟩, rfl, rfl⟩, ?_⟩
      rw [fillsOf_addFill]
      exact if_neg (Ne.symm hother)

/-- The store goes on with an order where the call says so. -/
theorem GoesOn.not_kept {order : Order} (hwf : WellFormed p s) (hmem : order ∈ s.orders)
    (hfinished : Finished order) (hgoes : GoesOn ctx s order call) :
    ¬FinishedKept s (call.apply p ctx s) := by
  intro hkept
  obtain ⟨⟨row, hrow, hid, hstatus⟩, hfills⟩ := hkept order hmem hfinished
  cases hgoes with
  | @update status hfailed hvalid =>
      have hfind := hwf.findOrder_of_mem hmem
      have hne : normalizedStatus status ≠ "failed" := by
        intro heq
        rw [heq] at hvalid
        exact absurd hvalid (by decide)
      have happly : (Call.updateOrderStatus order.orderId status).apply p ctx s =
          { s.setOrderStatus order.orderId (normalizedStatus status) (p.sampleTime s.serial) with
            serial := s.serial + 1 } := by
        simp only [Call.apply, MemoryStore.updateOrderStatus, hfind]
        simp only [normalizedStatus] at hfailed hvalid hne ⊢
        rw [if_neg (not_not.mpr hvalid), if_neg, if_neg]
        · rw [hfailed]
          exact Ne.symm hne
        · rw [hfailed]
          exact fun hterminal => absurd hterminal.1 (by decide)
      rw [happly] at hrow
      obtain ⟨original, horiginal, hterms, ⟨-, hnew⟩ | ⟨hother, rfl⟩⟩ :=
        exists_row_of_mem_setOrderStatus hrow
      · -- the new status is in normal form and not the old one
        have hnormal : ∀ text ∈ validOrderStatuses, normalizedStatus text = text := by
          decide +kernel
        rw [← hstatus, hnew, hnormal _ hvalid] at hfailed
        exact hne hfailed
      · exact hother hid
  | @fill new htakes =>
      rw [Call.apply, createFill_eq_created htakes.found htakes.fresh
        (fillStatus_of_takesFill htakes), fillsOf_addFill] at hfills
      rw [if_pos (show (fillRow p s.serial order new _).orderId = order.orderId from
        (findOrder_orderId htakes.found).symm)] at hfills
      exact absurd (congrArg List.length hfills) (by simp)

end Step

section Histories

/-- Finished orders stay as they are through every part of a history exactly when no
call of it is one the store goes on with a finished order by. -/
theorem finished_absorbing_iff (p : Platform) (ctx : DecimalContext) (botIds : List String)
    (calls : List Call) :
    let after done := runCalls p ctx done (MemoryStore.empty botIds)
    (∀ done next, done ++ next <+: calls → FinishedKept (after done) (after (done ++ next))) ↔
      ∀ done call, done ++ [call] <+: calls →
        ∀ order ∈ (after done).orders, Finished order → ¬GoesOn ctx (after done) order call := by
  intro after
  have hwf : ∀ done, WellFormed p (after done) := fun done =>
    (reachable_runCalls (.empty botIds : Reachable p ctx _) _).wellFormed
  have hsnoc : ∀ done call, after (done ++ [call]) = call.apply p ctx (after done) :=
    fun done call => by simp [after, runCalls]
  constructor
  · intro hkept done call hprefix order hmem hfinished hgoes
    refine hgoes.not_kept (hwf done) hmem hfinished ?_
    rw [← hsnoc]
    exact hkept done [call] hprefix
  · intro hstays done next hprefix
    induction next using List.reverseRecOn with
    | nil =>
        rw [List.append_nil]
        exact .refl _
    | append_singleton next call ih =>
        rw [← List.append_assoc] at hprefix ⊢
        have hbefore := ih ((List.prefix_append _ [call]).trans hprefix)
        rw [hsnoc]
        exact hbefore.trans (finishedKept_of_effect (hwf _) (hstays _ call hprefix)
          (call.effect p ctx _))

end Histories

section Failed

/-- An order an adapter records as failed, and a fill of it that is reported later. -/
def failedThenFilled : List Call :=
  [.createStrategyRun "bot" "arbitrage" "shadow",
    .createOrderIntent { Execution.oneUnitIntent "upbit" "bithumb" with
      strategyRunId := Platform.counting.uuid 0 },
    .createOrder {
      orderIntentId := Platform.counting.uuid 1
      exchangeName := "upbit"
      exchangeOrderId := some "entry"
      market := "XRP-KRW"
      side := "buy"
      requestedPrice := none
      requestedQty := .one
      status := "failed"
      rawPayload := [] },
    .createFill {
      orderId := Platform.counting.uuid 2
      exchangeTradeId := none
      fillPrice := .one
      fillQty := .one
      feeAsset := none
      feeAmount := none
      filledAt := "2024-01-01T00:00:00+00:00" }]

/-- The store takes the fill and the failed order becomes filled. -/
theorem failed_order_filled :
    ¬ FinishedKept (runCalls .counting .default (failedThenFilled.take 3)
    (MemoryStore.empty ["bot"]))
      (runCalls .counting .default failedThenFilled (MemoryStore.empty ["bot"])) := by
  intro hkept
  have hfills : ∀ order ∈ (runCalls .counting .default (failedThenFilled.take 3)
      (MemoryStore.empty ["bot"])).orders, Finished order →
      ((runCalls .counting .default failedThenFilled (MemoryStore.empty ["bot"])).fillsOf
        order.orderId).length = ((runCalls .counting .default (failedThenFilled.take 3)
          (MemoryStore.empty ["bot"])).fillsOf order.orderId).length :=
    fun order hmem hfinished => congrArg List.length (hkept order hmem hfinished).2
  revert hfills
  decide +kernel

end Failed

end TradingPlatform.Recovery

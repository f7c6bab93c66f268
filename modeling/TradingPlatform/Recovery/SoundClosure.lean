import TradingPlatform.Recovery.ClosedTraces
import TradingPlatform.Recovery.FlatReports
import TradingPlatform.Recovery.HedgedIntents

/-! # Sound closure

A step resolves a trace when no order that it lists is open, or on a match. Whether the
trace is closed out then is decided by the calls before: the last open order that the
trace lists has to be ended together with the orders it does not list, when as much was
bought as sold.
-/

namespace TradingPlatform.Recovery

open Storage MemoryStore

section Specification

/-- An order that a step looks at: of the bot and the run of the trace, and of its unwind
or else its own intent. -/
def IsListed (trace : Dict) (order : Order) : Prop :=
  (traceText trace "bot_id" = "" ∨ order.botId = traceText trace "bot_id") ∧
    (traceText trace "run_id" = "" ∨ order.strategyRunId = traceText trace "run_id") ∧
    (traceIntentId trace = "" ∨ order.orderIntentId = traceIntentId trace)

section Calls

variable (trace : Dict) (s : MemoryStore)

/-- A listed order is open, besides the one given. -/
def OpenBeside (order : Order) : Prop :=
  ∃ other ∈ s.orders, other.orderId ≠ order.orderId ∧ IsListed trace other ∧ ¬ Ended other.status

/-- With the order in a status, and a quantity added to the fills, the related orders have
ended and the fills net to zero. -/
structure EndsFlat (order : Order) (status : String) (added : ℚ) : Prop where
  ended : IsRelated trace order → Ended status
  others : ∀ other ∈ s.orders, other.orderId ≠ order.orderId → IsRelated trace other →
    Ended other.status
  flat : netFilledQty s trace + added = 0

/-- An order of the trace gets a status while a listed order stays open, or the related
orders end flat with it. -/
def EndsInTurn (order : Order) (status : String) (added : ℚ) : Prop :=
  IsListed trace order ∨ IsRelated trace order →
    OpenBeside trace s order ∨ (IsListed trace order ∧ ¬ Ended status) ∨
      EndsFlat trace s order status added

/-- The signed quantity that a fill of an order adds to those of the trace. -/
def addedQty (order : Order) (qty : ℚ) : ℚ :=
  if IsRelated trace order then
    if order.side = "buy" then qty else if order.side = "sell" then -qty else 0
  else 0

/-- A call that leaves the trace with an open order that it lists, or closed out: an order
that is related but not listed comes to be open only while a listed one is, and the last
listed order is ended when the related ones end flat with it. -/
def ClosesInTurn (p : Platform) (ctx : DecimalContext) : Call → Prop
  | .createOrder new => TakesOrder s new →
      ∀ intent, s.findIntent new.orderIntentId = some intent →
        IsRelated trace (orderRow p s.serial intent new) →
          ¬ IsListed trace (orderRow p s.serial intent new) → ¬ Ended new.status →
            ∃ other ∈ s.orders, IsListed trace other ∧ ¬ Ended other.status
  | .updateOrderStatus orderId status => ∀ order, s.findOrder orderId = some order →
      Text.lower (Text.strip order.status) ∉ Storage.terminalOrderStatuses →
        Text.lower (Text.strip status) ∈ validOrderStatuses →
          EndsInTurn trace s order (Text.lower (Text.strip status)) 0
  | .createFill new => ∀ order, TakesFill ctx s new order →
      EndsInTurn trace s order
        (if s.nextFilledQty ctx order.orderId new.fillQty.value = order.requestedQty.value
          then "filled" else "partially_filled")
        (addedQty trace order new.fillQty.value)
  | _ => True

end Calls

section Steps

variable (c : TraceContext) (trace : Dict)

/-- While a listed order is open, the step does not go on with a match that the trace
carries, and what the exchanges answer about the listed orders does not look flat. -/
structure MatchesHonestly : Prop where
  carried : (∃ order ∈ relatedOrders c.reads trace, ¬ Ended order.status) →
    LeavesReconciliation c trace → matchedWithoutResidual trace = false
  answered : (∃ order ∈ relatedOrders c.reads trace, ¬ Ended order.status) →
    ¬ LooksFlat c.connectors c.reads trace (relatedOrders c.reads trace)

/-- A step moves its trace to resolved, by its verdict or in what it keeps. -/
def MovesToResolved (redis : Runtime.RedisRuntime) (reason : String) : Prop :=
  (processTrace c trace redis).verdict = .resolved reason ∨
    (KeptClosed (processTrace c trace redis).redis trace reason ∧
      ¬(ClosedAs reason trace ∨ KeptClosed redis trace reason))

/-- Whatever step on the trace moves it to resolved, on honest matches, closes it out. -/
def ClosesSoundly (ctx : DecimalContext) (s : MemoryStore) : Prop :=
  ∀ (c : TraceContext) (redis : Runtime.RedisRuntime) (reason : String),
    c.reads = s.reads ctx → c.decimals = .default → MatchesHonestly c trace →
      MovesToResolved c trace redis reason → ClosedOut s trace

end Steps

end Specification

section Verdicts

variable {c : TraceContext} {trace : Dict} {redis : Runtime.RedisRuntime} {reason : String}

/-- A trace that is a match once it is reconciled was one before, or the exchanges'
answers look flat. -/
theorem looksFlat_of_matched (hdecimals : c.decimals = .default) {reconciled : Dict}
    {synced : Runtime.RedisRuntime}
    (hok : autoRecordReconciliation c trace redis = .ok (reconciled, synced))
    (hmatch : matchedWithoutResidual reconciled = true) :
    (LeavesReconciliation c trace ∧ matchedWithoutResidual trace = true) ∨
      LooksFlat c.connectors c.reads trace (relatedOrders c.reads trace) := by
  rcases autoRecordReconciliation_cases c trace redis hok with
    ⟨rfl, -, hleaves⟩ | ⟨snapshot, stamp, hsnapshot, rfl, hstamp, -⟩
  · exact Or.inl ⟨hleaves, hmatch⟩
  · right
    have hfields : (reconciliationPatch trace snapshot (c.clock.isoNow 6)).map Prod.fst =
        reconciliationFields := map_fst_reconciliationPatch (map_fst_snapshot hsnapshot)
    rw [hdecimals] at hsnapshot
    obtain ⟨poll, balances, residual, residualText, -, -, -, -, -, -, hpatch⟩ :=
      exists_of_snapshot hsnapshot
    refine snapshot_matched_iff.mp ⟨snapshot, hsnapshot, ?_⟩
    by_cases hmatched : poll.openOrderCount = 0 ∧ residual = 0
    · simp [hpatch, reconciliationSnapshot, Dict.get, Dict.get?_cons, hmatched]
    · -- a mismatch is written as one, and read back as one
      have hresult : (trace.merge (reconciliationPatch trace snapshot (c.clock.isoNow 6))).get
          "reconciliation_result" = .str "mismatch" := by
        refine Dict.get_merge_of_mem (by rw [hfields]; decide) (List.mem_append_left _ ?_)
        rw [hpatch, reconciliationSnapshot]
        simp [hmatched]
      have hkept : ((trace.merge (reconciliationPatch trace snapshot
          (c.clock.isoNow 6))).merge stamp).get "reconciliation_result" = .str "mismatch" := by
        rw [Dict.get_merge_of_notMem _ _ (by rcases hstamp with rfl | rfl <;> simp), hresult]
      have hread := (matchedWithoutResidual_iff.mp hmatch).1
      rw [reconciliationResult, hkept] at hread
      exact absurd hread (by decide +kernel)

theorem MovesToResolved.verdict (hmoves : MovesToResolved c trace redis reason) :
    (processTrace c trace redis).verdict = .resolved reason := by
  rcases hmoves with hverdict | ⟨hkept, hnot⟩
  · exact hverdict
  · exact hkept.of_processTrace.resolve_right hnot

/-- On an honest match, a step that resolves its trace finds no listed order open. -/
theorem ended_of_resolved (hdecimals : c.decimals = .default) (hhonest : MatchesHonestly c trace)
    (hverdict : (processTrace c trace redis).verdict = .resolved reason) :
    ∀ order ∈ relatedOrders c.reads trace, Ended order.status := by
  rcases processTrace_cases c trace redis with ⟨hnot, -⟩ | ⟨reconciled, synced, hok, hsame, -⟩
  · exact absurd hverdict (hnot reason)
  · rw [hsame, traceVerdict_eq_resolved] at hverdict
    rcases hverdict.2 with ⟨hmatch, -⟩ | ⟨-, -, hflat, -⟩
    · by_contra hopen
      push Not at hopen
      rcases looksFlat_of_matched hdecimals hok hmatch with ⟨hleaves, hcarried⟩ | hlooks
      · rw [hhonest.carried hopen hleaves] at hcarried
        cases hcarried
      · exact hhonest.answered hopen hlooks
    · exact hflat.orders

end Verdicts

section States

variable {p : Platform} {ctx : DecimalContext} {s s' : MemoryStore} {trace : Dict}

/-- Once no order that the trace lists is open, the trace is closed out. -/
def OutOnceEnded (trace : Dict) (s : MemoryStore) : Prop :=
  (∀ order ∈ s.orders, IsListed trace order → Ended order.status) → ClosedOut s trace

theorem mem_relatedOrders {order : Order} :
    order ∈ relatedOrders (s.reads ctx) trace ↔ order ∈ s.orders ∧ IsListed trace order := by
  have hlisted : ∀ botId runId, order ∈ (s.reads ctx).listOrders botId runId ↔
      order ∈ s.orders ∧ (botId = "" ∨ order.botId = botId) ∧
        (runId = "" ∨ order.strategyRunId = runId) := fun _ _ => mem_listRunOrders
  unfold relatedOrders IsListed
  dsimp only
  split_ifs with hintent
  · simp [hlisted, hintent]
  · simp [List.mem_filter, hlisted, hintent, and_assoc]

theorem OutOnceEnded.closesSoundly (hout : OutOnceEnded trace s) : ClosesSoundly trace ctx s := by
  intro c redis reason hreads hdecimals hhonest hmoves
  have hended := ended_of_resolved hdecimals hhonest hmoves.verdict
  rw [hreads] at hended
  exact hout fun order hmem hlisted => hended order (mem_relatedOrders.mpr ⟨hmem, hlisted⟩)

theorem isListed_congr {row other : Order} (hterms : row.terms = other.terms) :
    IsListed trace row ↔ IsListed trace other := by
  have hsame : IsListed trace row.terms ↔ IsListed trace other.terms := by rw [hterms]
  exact hsame

theorem isRelated_congr {row other : Order} (hterms : row.terms = other.terms) :
    IsRelated trace row ↔ IsRelated trace other := by
  have hsame : IsRelated trace row.terms ↔ IsRelated trace other.terms := by rw [hterms]
  exact hsame

/-- The fills of a trace are told by the terms of the orders. -/
theorem netFilledQty_congr (hfills : s'.fills = s.fills)
    (horders : ∀ fill ∈ s.fills,
      (∃ order ∈ s'.orders, IsRelated trace order ∧ order.orderId = fill.orderId) ↔
        ∃ order ∈ s.orders, IsRelated trace order ∧ order.orderId = fill.orderId) :
    netFilledQty s' trace = netFilledQty s trace := by
  simp only [netFilledQty, hfills]
  congr 2
  exact List.filter_congr fun fill hfill => by simpa using horders fill hfill

theorem exists_related_of_terms (hterms : s'.orders.map Order.terms = s.orders.map Order.terms)
    (orderId : String) :
    (∃ order ∈ s'.orders, IsRelated trace order ∧ order.orderId = orderId) ↔
      ∃ order ∈ s.orders, IsRelated trace order ∧ order.orderId = orderId := by
  have hmap : ∀ orders : List Order,
      (∃ order ∈ orders.map Order.terms, IsRelated trace order ∧ order.orderId = orderId) ↔
        ∃ order ∈ orders, IsRelated trace order ∧ order.orderId = orderId := by
    intro orders
    constructor
    · rintro ⟨order, hmem, hrelated, hid⟩
      obtain ⟨row, hrow, rfl⟩ := List.mem_map.mp hmem
      exact ⟨row, hrow, hrelated, hid⟩
    · rintro ⟨order, hmem, hrelated, hid⟩
      exact ⟨order.terms, List.mem_map_of_mem hmem, hrelated, hid⟩
  rw [← hmap, hterms, hmap]

theorem outOnceEnded_congr (horders : s'.orders = s.orders) (hfills : s'.fills = s.fills) :
    OutOnceEnded trace s' ↔ OutOnceEnded trace s := by
  have hnet : netFilledQty s' trace = netFilledQty s trace :=
    netFilledQty_congr hfills fun fill _ => by rw [horders]
  unfold OutOnceEnded
  rw [horders]
  refine imp_congr_right fun _ => ⟨fun h => ⟨horders ▸ h.terminal, hnet ▸ h.flat⟩, fun h =>
    ⟨horders.symm ▸ h.terminal, hnet.trans h.flat⟩⟩

/-- An order gets a status, and its fills a quantity. -/
theorem outOnceEnded_setOrderStatus_iff (hwf : WellFormed p s) {order : Order}
    (hmem : order ∈ s.orders) {status updatedAt : String} {added : ℚ}
    (horders : s'.orders = (s.setOrderStatus order.orderId status updatedAt).orders)
    (hnet : netFilledQty s' trace = netFilledQty s trace + added) :
    OutOnceEnded trace s' ↔
      OpenBeside trace s order ∨ (IsListed trace order ∧ ¬ Ended status) ∨
        EndsFlat trace s order status added := by
  have hlisted := allEnded_setOrderStatus_iff hwf (IsListed trace)
    (fun _ _ hterms => isListed_congr hterms) hmem status updatedAt
  have hrelated := allEnded_setOrderStatus_iff hwf (IsRelated trace)
    (fun _ _ hterms => isRelated_congr hterms) hmem status updatedAt
  rw [← horders] at hlisted hrelated
  have hclosed : ClosedOut s' trace ↔ EndsFlat trace s order status added := by
    constructor
    · intro hout
      obtain ⟨hended, hothers⟩ := hrelated.mp hout.terminal
      exact ⟨hended, hothers, hnet ▸ hout.flat⟩
    · exact fun hflat => ⟨hrelated.mpr ⟨hflat.ended, hflat.others⟩, hnet.trans hflat.flat⟩
  rw [OutOnceEnded, hlisted, hclosed, imp_iff_not_or, not_and_or, ← or_assoc]
  refine or_congr_left (or_comm.trans (or_congr ?_ ?_))
  · simp only [OpenBeside]
    push Not
    rfl
  · push Not
    rfl

/-- Where no listed order is open beside one that is not listed, all listed ones have ended. -/
theorem ended_of_not_openBeside (hwf : WellFormed p s) {order : Order} (hmem : order ∈ s.orders)
    (hunlisted : ¬ IsListed trace order) (hnone : ¬ OpenBeside trace s order) :
    ∀ other ∈ s.orders, IsListed trace other → Ended other.status := by
  intro other hother hlisted
  by_contra hopen
  refine hnone ⟨other, hother, fun hid => hunlisted ?_, hlisted, hopen⟩
  rwa [← List.inj_on_of_nodup_map hwf.nodup hother hmem hid]

/-- Where the trace is out once it has ended, an order that does not concern it changes nothing. -/
theorem outOnceEnded_iff_endsInTurn (hwf : WellFormed p s) (hout : OutOnceEnded trace s)
    {order : Order} (hmem : order ∈ s.orders) {status : String} {added : ℚ}
    (hadded : ¬ IsRelated trace order → added = 0) :
    (OpenBeside trace s order ∨ (IsListed trace order ∧ ¬ Ended status) ∨
        EndsFlat trace s order status added) ↔ EndsInTurn trace s order status added := by
  refine ⟨fun h _ => h, fun hturn => ?_⟩
  -- an order that is neither listed nor related leaves what the invariant says before it
  by_cases hconcerned : IsListed trace order ∨ IsRelated trace order
  · exact hturn hconcerned
  · obtain ⟨hunlisted, hunrelated⟩ := not_or.mp hconcerned
    by_cases hopen : OpenBeside trace s order
    · exact Or.inl hopen
    · have hclosed := hout (ended_of_not_openBeside hwf hmem hunlisted hopen)
      refine Or.inr (Or.inr ⟨fun h => absurd h hunrelated, fun other hother _ =>
        hclosed.terminal other hother, ?_⟩)
      rw [hadded hunrelated, add_zero, hclosed.flat]

end States

section Steps

variable {p : Platform} {ctx : DecimalContext} {s s' : MemoryStore} {trace : Dict}

/-- An order of the trace that is added open must not be the only open one. -/
theorem outOnceEnded_addOrder_iff (hwf : WellFormed p s) (hout : OutOnceEnded trace s)
    {row : Order} (hid : row.orderId = p.uuid s.serial) :
    OutOnceEnded trace (s.addOrder row) ↔
      (IsRelated trace row → ¬ IsListed trace row → ¬ Ended row.status →
        ∃ other ∈ s.orders, IsListed trace other ∧ ¬ Ended other.status) := by
  have hnet : netFilledQty (s.addOrder row) trace = netFilledQty s trace := by
    refine netFilledQty_congr rfl fun fill hfill => ?_
    have hne : row.orderId ≠ fill.orderId := fun heq =>
      hwf.fresh_fill fill hfill (heq.symm.trans hid)
    simp [hne]
  have hrows : ∀ condition : Order → Prop, (∀ order ∈ (s.addOrder row).orders, condition order) ↔
      (∀ order ∈ s.orders, condition order) ∧ condition row := by
    intro condition
    simp [or_imp, forall_and]
  have hclosed : ClosedOut (s.addOrder row) trace ↔
      ClosedOut s trace ∧ (IsRelated trace row → Ended row.status) := by
    constructor
    · intro h
      obtain ⟨hold, hnew⟩ := (hrows _).mp h.terminal
      exact ⟨⟨hold, hnet.symm.trans h.flat⟩, hnew⟩
    · exact fun ⟨h, hnew⟩ => ⟨(hrows _).mpr ⟨h.terminal, hnew⟩, hnet.trans h.flat⟩
  rw [OutOnceEnded, hrows, hclosed]
  constructor
  · -- with no listed order open, the new one would be left open by a step
    intro hafter hrelated hunlisted hopen
    by_contra hnone
    push Not at hnone
    exact hopen ((hafter ⟨hnone, fun hlisted => absurd hlisted hunlisted⟩).2 hrelated)
  · rintro hbeside ⟨hended, hrow⟩
    refine ⟨hout hended, fun hrelated => ?_⟩
    by_contra hopen
    obtain ⟨other, hother, hlisted, hstill⟩ :=
      hbeside hrelated (fun hlisted => hopen (hrow hlisted)) hopen
    exact hstill (hended other hother hlisted)

theorem outOnceEnded_createOrder_iff (hwf : WellFormed p s) (hout : OutOnceEnded trace s)
    (new : NewOrder) :
    OutOnceEnded trace (MemoryStore.createOrder p new s).2 ↔
      ClosesInTurn trace s p ctx (.createOrder new) := by
  rcases createOrder_cases p new s with
    ⟨intent, hintent, hmarket, hexchange, hfree, hcreated⟩ | ⟨hnot, hsame⟩
  · have hid : (orderRow p s.serial intent new).orderId = p.uuid s.serial := rfl
    rw [hcreated, outOnceEnded_addOrder_iff hwf hout hid]
    constructor
    · intro hbeside _ other hother
      obtain rfl := Option.some.inj (hintent.symm.trans hother)
      exact hbeside
    · exact fun hbeside => hbeside ⟨intent, hintent, hmarket, hexchange, hfree⟩ intent hintent
  · rw [hsame]
    refine iff_of_true hout ?_
    rintro ⟨intent, hintent, hmarket, hexchange, hfree⟩
    exact absurd (by rw [createOrder_eq_created hintent hmarket hexchange hfree]) hnot

theorem outOnceEnded_updateOrderStatus_iff (hwf : WellFormed p s) (hout : OutOnceEnded trace s)
    (orderId status : String) :
    OutOnceEnded trace (MemoryStore.updateOrderStatus p orderId status s).2 ↔
      ClosesInTurn trace s p ctx (.updateOrderStatus orderId status) := by
  rcases updateOrderStatus_cases p orderId status s with
    ⟨order, horder, hvalid, hopen, hchanged⟩ | ⟨hsame, hrefused⟩
  · have hmem := findOrder_mem horder
    obtain rfl := findOrder_orderId horder
    have horders : (MemoryStore.updateOrderStatus p order.orderId status s).2.orders =
        (s.setOrderStatus order.orderId (Text.lower (Text.strip status))
          (p.sampleTime s.serial)).orders := by rw [hchanged]
    have hnet : netFilledQty (MemoryStore.updateOrderStatus p order.orderId status s).2 trace =
        netFilledQty s trace + 0 := by
      rw [add_zero, hchanged]
      refine netFilledQty_congr rfl fun fill _ => ?_
      exact exists_related_of_terms (setOrderStatus_terms s _ _ _) fill.orderId
    rw [outOnceEnded_setOrderStatus_iff hwf hmem horders hnet,
      outOnceEnded_iff_endsInTurn hwf hout hmem fun _ => rfl]
    constructor
    · intro hturn other hother _ _
      obtain rfl := Option.some.inj (horder.symm.trans hother)
      exact hturn
    · exact fun hturn => hturn order horder hopen hvalid
  · rw [hsame]
    refine iff_of_true hout fun order horder hopen hvalid hconcerned => ?_
    -- the order keeps the open status that it has
    have hmem := findOrder_mem horder
    have hsameStatus := (hrefused order horder hvalid).resolve_left hopen
    rw [hsameStatus] at hopen
    have hnew : ¬ Ended (Text.lower (Text.strip status)) := by
      rwa [ended_iff_terminal _ hvalid]
    have hstill : ¬ Ended order.status := by
      have hmore : ∀ status ∈ validOrderStatuses, status ∈ terminalOrderStatuses →
          status ∈ Storage.terminalOrderStatuses := by decide
      rw [Ended, normalizedStatus, hsameStatus]
      exact fun hended => hopen (hmore _ hvalid hended)
    by_cases hlisted : IsListed trace order
    · exact Or.inr (Or.inl ⟨hlisted, hnew⟩)
    · -- a related order that is not listed is open only beside a listed one
      left
      by_contra hnone
      have hclosed := hout (ended_of_not_openBeside hwf hmem hlisted hnone)
      exact hstill (hclosed.terminal order hmem (hconcerned.resolve_left hlisted))

/-- A fill adds to the net quantity of the trace when its order is related. -/
theorem netFilledQty_addFill (hwf : WellFormed p s) {order : Order} (hmem : order ∈ s.orders)
    {new : NewFill} (hid : order.orderId = new.orderId) (status : String) :
    netFilledQty (s.addFill (fillRow p s.serial order new status)) trace =
      netFilledQty s trace + addedQty trace order new.fillQty.value := by
  set fill := fillRow p s.serial order new status with hfill
  have hterms : (s.addFill fill).orders.map Order.terms = s.orders.map Order.terms :=
    setOrderStatus_terms _ _ _ _
  have hrelated : (∃ row ∈ s.orders, IsRelated trace row ∧ row.orderId = fill.orderId) ↔
      IsRelated trace order := by
    constructor
    · rintro ⟨row, hrow, hrow', hsame⟩
      rwa [← List.inj_on_of_nodup_map hwf.nodup hrow hmem (hsame.trans hid.symm)]
    · exact fun h => ⟨order, hmem, h, hid⟩
  have hadded : addedQty trace order new.fillQty.value =
      if IsRelated trace order then signedQty fill else 0 := rfl
  simp only [netFilledQty, addFill_fills, exists_related_of_terms hterms, List.filter_cons,
    hrelated, hadded, decide_eq_true_eq]
  split_ifs
  · rw [List.map_cons, List.sum_cons, add_comm]
  · rw [add_zero]

theorem outOnceEnded_createFill_iff (hwf : WellFormed p s) (hout : OutOnceEnded trace s)
    (new : NewFill) :
    OutOnceEnded trace (MemoryStore.createFill p ctx new s).2 ↔
      ClosesInTurn trace s p ctx (.createFill new) := by
  rcases createFill_cases p ctx new s with
    ⟨order, status, horder, hfree, hstatus, hcreated⟩ | ⟨hnot, hsame⟩
  · have hmem := findOrder_mem horder
    have hid := findOrder_orderId horder
    have htakes := takesFill_of_fillStatus horder hfree hstatus
    have hadded : ¬ IsRelated trace order → addedQty trace order new.fillQty.value = 0 :=
      fun hunrelated => if_neg hunrelated
    have horders : (s.addFill (fillRow p s.serial order new status)).orders =
        (s.setOrderStatus order.orderId status (p.sampleTime s.serial)).orders := by
      rw [hid]
      exact addFill_orders _ _
    have hafter := (outOnceEnded_setOrderStatus_iff hwf hmem horders
      (netFilledQty_addFill hwf hmem hid status)).trans
        (outOnceEnded_iff_endsInTurn hwf hout hmem hadded)
    rw [hcreated, hafter, Option.some.inj (hstatus.symm.trans (fillStatus_of_takesFill htakes))]
    constructor
    · intro hturn other hother
      obtain rfl := Option.some.inj (horder.symm.trans hother.found)
      exact hturn
    · exact fun hturn => hturn order htakes
  · rw [hsame]
    refine iff_of_true hout fun order htakes => absurd ?_ hnot
    rw [createFill_eq_created htakes.found htakes.fresh (fillStatus_of_takesFill htakes)]

/-- Where the trace is out once it has ended, a call keeps it so exactly when it closes the
orders of the trace in turn. -/
theorem outOnceEnded_apply_iff (hwf : WellFormed p s) (hout : OutOnceEnded trace s)
    (call : Call) :
    OutOnceEnded trace (call.apply p ctx s) ↔ ClosesInTurn trace s p ctx call := by
  have heffect := call.effect p ctx s
  cases call with
  | createStrategyRun | startStrategyRun | stopStrategyRun =>
      refine iff_of_true ?_ trivial
      generalize Call.apply p ctx s _ = s' at heffect ⊢
      cases heffect with
      | refused => exact hout
      | runs horders hfills => exact (outOnceEnded_congr horders hfills).mpr hout
  | createOrderIntent =>
      refine iff_of_true ?_ trivial
      generalize Call.outcome p ctx s _ = outcome at heffect
      generalize Call.apply p ctx s _ = s' at heffect ⊢
      cases heffect with
      | refused => exact hout
      | runs horders hfills => exact (outOnceEnded_congr horders hfills).mpr hout
      | intent _ horders hfills => exact (outOnceEnded_congr horders hfills).mpr hout
  | createOrder new => exact outOnceEnded_createOrder_iff hwf hout new
  | updateOrderStatus orderId status =>
      exact outOnceEnded_updateOrderStatus_iff hwf hout orderId status
  | createFill new => exact outOnceEnded_createFill_iff hwf hout new

end Steps

section Histories

variable {p : Platform} {ctx : DecimalContext} {trace : Dict}

theorem outOnceEnded_throughout_iff (botIds : List String) (calls : List Call) :
    Runs.Throughout (fun s call => call.apply p ctx s) (OutOnceEnded trace)
        (MemoryStore.empty botIds) calls ↔
      Runs.Along (fun s call => call.apply p ctx s) (fun s => ClosesInTurn trace s p ctx)
        (MemoryStore.empty botIds) calls := by
  have hempty : WellFormed p (MemoryStore.empty botIds) :=
    (Reachable.empty botIds : Reachable p .exact _).wellFormed
  have hout : OutOnceEnded trace (MemoryStore.empty botIds) :=
    fun _ => ⟨fun _ hmem => absurd hmem List.not_mem_nil, rfl⟩
  exact Runs.throughout_iff_along_of_kept hempty (fun s call hwf => hwf.step (call.step p ctx s))
    hout fun s call hwf hs => outOnceEnded_apply_iff hwf hs call

instance (trace : Dict) (order : Order) : Decidable (IsListed trace order) :=
  inferInstanceAs (Decidable (_ ∧ _))

instance (status : String) : Decidable (Ended status) := inferInstanceAs (Decidable (_ ∈ _))

instance (s : MemoryStore) (trace : Dict) : Decidable (ClosedOut s trace) :=
  decidable_of_iff ((∀ order ∈ s.orders, IsRelated trace order → Ended order.status) ∧
    netFilledQty s trace = 0) ⟨fun h => ⟨h.1, h.2⟩, fun h => ⟨h.terminal, h.flat⟩⟩

instance (trace : Dict) (s : MemoryStore) : Decidable (OutOnceEnded trace s) :=
  inferInstanceAs (Decidable (_ → _))

/-- One unit bought and sold for an intent: the orders come first, then their fills. -/
def boughtAndSold : List Call :=
  (boughtOnly.map Subtype.val).take 3 ++
    [.createOrder { purchase .one with exchangeName := "bithumb", side := "sell" },
      .createFill oneUnitTrade,
      .createFill { oneUnitTrade with orderId := Platform.counting.uuid 3 }]

/-- A trace of the intent that names no residual. -/
def entryTrace : Dict :=
  [("recovery_trace_id", .str "rt"), ("bot_id", .str "bot"),
    ("run_id", .str (Platform.counting.uuid 0)), ("intent_id", .str (Platform.counting.uuid 1)),
    ("status", .str "active"), ("lifecycle_state", .str "recovery_required"),
    ("residual_exposure_quote", .str "0")]

end Histories

end TradingPlatform.Recovery

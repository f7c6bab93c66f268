import TradingPlatform.Execution.FillEvidence
import TradingPlatform.Recovery.TickCoverage
import TradingPlatform.Routes.RecoveryWrite
import TradingPlatform.Runtime.ExecuteIntent
import TradingPlatform.Storage.IntentStatus

/-! # What the cancel endpoint covers

Recovery does not resolve a trace while an order it counts for it is open. The
endpoint that cancels the open orders of a trace looks for them on its own, and
finds none for a trace that names no intent.
-/

namespace TradingPlatform.Routes

open Storage Recovery RecoveryProgram MemoryStore

section Specification

/-- A field that is missing, or a text. -/
def IsTextOrNull (value : Json) : Prop := value = .null ∨ ∃ text, value = .str text

/-- A field that is missing, or a text without blanks at its ends. -/
def IsPlainOrNull (value : Json) : Prop :=
  value = .null ∨ ∃ text, value = .str text ∧ Text.strip text = text

/-- The links of a trace as the service writes them. -/
structure WrittenLinks (trace : Dict) : Prop where
  bot : IsTextOrNull (trace.get "bot_id")
  run : IsTextOrNull (trace.get "run_id")
  intent : IsPlainOrNull (trace.get "intent_id")
  unwindAction : IsPlainOrNull (trace.get "linked_unwind_action_id")

/-- A patch that leaves the links of a trace alone, but for the unwind order. -/
structure SparesLinks (patch : Dict) : Prop where
  bot : "bot_id" ∉ patch.map Prod.fst
  run : "run_id" ∉ patch.map Prod.fst
  intent : "intent_id" ∉ patch.map Prod.fst
  unwindAction : "linked_unwind_action_id" ∉ patch.map Prod.fst

/-- The traces the service stores: a submit that fails or times out opens one, an operator
starts its unwind, and whatever else is written later leaves the links alone. -/
inductive StoredTrace (p : Platform) : Dict → Prop
  | submitTimedOut (setup : RecoverySetup) (recoveryTraceId runId botId isoNow : String)
      (oldestSubmittedAt age : Int) :
      StoredTrace p
        (submitTimeoutTrace setup recoveryTraceId runId botId isoNow oldestSubmittedAt age)
  | submitFailed (e : Runtime.IntentExecution) (stamps : Runtime.ExecutionStamps)
      (result : Execution.ArbitrageSubmitResult) (n : Nat)
      (hintent : e.intent.intentId = p.uuid n) :
      StoredTrace p (Runtime.submitFailureTrace e stamps result)
  | unwindStarted {trace : Dict} (body : Dict) (unwindIntent : Option OrderIntent)
      (residual : Option Numeral) (startedAt : String)
      (hintent : ∀ intent ∈ unwindIntent, ∃ n, intent.intentId = p.uuid n)
      (htrace : StoredTrace p trace) :
      StoredTrace p (trace.merge (unwindPatch body unwindIntent residual startedAt))
  | patched {trace patch : Dict} (hspares : SparesLinks patch) (htrace : StoredTrace p trace) :
      StoredTrace p (trace.merge patch)

variable (ctx : DecimalContext) (s : MemoryStore) (trace : Dict)

/-- An order the endpoint takes for open: its statuses of an end are those of the store. -/
def OpenOrder (order : Order) : Prop :=
  normalizedStatus order.status ∉ Storage.terminalOrderStatuses

/-- An order recovery takes for active: for it an order that failed has ended, too. -/
def ActiveOrder (order : Order) : Prop :=
  normalizedStatus order.status ∉ Recovery.terminalOrderStatuses

/-- An active order that recovery counts for the trace, and waits for. -/
def WaitsFor (order : Order) : Prop :=
  order ∈ relatedOrders (s.reads ctx) trace ∧ ActiveOrder order

/-- Whatever recovery waits for, the operator can have cancelled. -/
def CancelCovers : Prop :=
  ∀ order, WaitsFor ctx s trace order → order ∈ traceCancelCandidateOrders (s.reads ctx) trace

/-- The unwind order that the trace is linked to, as the endpoint reads it. -/
def linkedOrderText : String := textOr (optionalString (trace.get "linked_unwind_order_id")) ""

/-- No order of the trace's bot and run is active, other than the linked unwind order. -/
def OnlyUnwindOpen : Prop :=
  ∀ order ∈ s.listRunOrders (traceText trace "bot_id") (traceText trace "run_id"),
    ActiveOrder order → order.orderId = linkedOrderText trace

end Specification

section Candidates

variable {intentIds : List String} {linkedOrderId : String}

/-- What recovery waits for, the endpoint may cancel. -/
theorem ActiveOrder.openOrder {order : Order} (hactive : ActiveOrder order) : OpenOrder order :=
  fun hended => hactive (List.mem_append_left ["failed"] hended)

/-- An order the endpoint has cancelled: it is open, and of one of the intents or linked. -/
def IsCandidate (intentIds : List String) (linkedOrderId : String) (order : Order) : Prop :=
  order.orderId ≠ "" ∧ OpenOrder order ∧
    (order.orderIntentId ∈ intentIds ∨ linkedOrderId ≠ "" ∧ order.orderId = linkedOrderId)

/-- Where orders have names of their own, none is passed over as seen. -/
theorem mem_openCandidates {orders : List Order} {seen : List String}
    (hnodup : (orders.map Order.orderId).Nodup)
    (hseen : ∀ order ∈ orders, order.orderId ∉ seen) {order : Order} :
    order ∈ openCandidates intentIds linkedOrderId seen orders ↔
      order ∈ orders ∧ IsCandidate intentIds linkedOrderId order := by
  induction orders generalizing seen with
  | nil => simp [openCandidates]
  | cons first rest ih =>
      rw [List.map_cons, List.nodup_cons] at hnodup
      obtain ⟨hfirst, hrest⟩ := hnodup
      rw [List.forall_mem_cons] at hseen
      have hskip : (first.orderId = "" ∨ first.orderId ∈ seen ∨
          (first.orderIntentId ∉ intentIds ∧
            (linkedOrderId = "" ∨ first.orderId ≠ linkedOrderId)) ∨
          normalizedStatus first.status ∈ Storage.terminalOrderStatuses) ↔
            ¬ IsCandidate intentIds linkedOrderId first := by
        rw [IsCandidate, OpenOrder]
        generalize (normalizedStatus first.status ∈ Storage.terminalOrderStatuses) = terminal
        simp only [hseen.1, false_or]
        tauto
      rw [openCandidates, List.mem_cons]
      split_ifs with hcond
      · rw [ih hrest hseen.2]
        constructor
        · exact fun ⟨hmem, hcandidate⟩ => ⟨Or.inr hmem, hcandidate⟩
        · rintro ⟨rfl | hmem, hcandidate⟩
          · exact absurd hcandidate (hskip.mp hcond)
          · exact ⟨hmem, hcandidate⟩
      · have hcandidate := not_not.mp (mt hskip.mpr hcond)
        have hseen' : ∀ other ∈ rest, other.orderId ∉ first.orderId :: seen := by
          intro other hother hmem
          rcases List.mem_cons.mp hmem with hsame | hold
          · exact hfirst (hsame ▸ List.mem_map_of_mem hother)
          · exact hseen.2 other hother hold
        rw [List.mem_cons, ih hrest hseen']
        constructor
        · rintro (rfl | ⟨hmem, hother⟩)
          · exact ⟨Or.inl rfl, hcandidate⟩
          · exact ⟨Or.inr hmem, hother⟩
        · rintro ⟨rfl | hmem, hother⟩
          · exact Or.inl rfl
          · exact Or.inr ⟨hmem, hother⟩

end Candidates

section Links

variable {p : Platform} {trace : Dict} {key : String}

theorem isPlainOrNull_uuid (n : Nat) : IsPlainOrNull (.str (p.uuid n)) :=
  Or.inr ⟨_, rfl, (jsonText_eq_some (p.uuid_plain n)).1⟩

theorem isTextOrNull_str (text : String) : IsTextOrNull (.str text) := Or.inr ⟨text, rfl⟩

theorem WrittenLinks.merge {patch : Dict} (hlinks : WrittenLinks trace)
    (hspares : SparesLinks patch) : WrittenLinks (trace.merge patch) where
  bot := (Dict.get_merge_of_notMem trace patch hspares.bot).symm ▸ hlinks.bot
  run := (Dict.get_merge_of_notMem trace patch hspares.run).symm ▸ hlinks.run
  intent := (Dict.get_merge_of_notMem trace patch hspares.intent).symm ▸ hlinks.intent
  unwindAction :=
    (Dict.get_merge_of_notMem trace patch hspares.unwindAction).symm ▸ hlinks.unwindAction

/-- An unwind is linked to an intent of the store. -/
theorem WrittenLinks.unwindStarted (hlinks : WrittenLinks trace) (body : Dict)
    (unwindIntent : Option OrderIntent) (residual : Option Numeral) (startedAt : String)
    (hintent : ∀ intent ∈ unwindIntent, ∃ n, intent.intentId = p.uuid n) :
    WrittenLinks (trace.merge (unwindPatch body unwindIntent residual startedAt)) := by
  cases unwindIntent with
  | none => exact hlinks.merge ⟨by simp [unwindPatch], by simp [unwindPatch],
      by simp [unwindPatch], by simp [unwindPatch]⟩
  | some intent =>
      obtain ⟨n, hid⟩ := hintent intent rfl
      have hother : ∀ key ∈ ["bot_id", "run_id", "intent_id"],
          (trace.merge (unwindPatch body (some intent) residual startedAt)).get key =
            trace.get key := by
        intro key hkey
        apply Dict.get_merge_of_notMem
        simp only [List.mem_cons, List.not_mem_nil, or_false] at hkey
        rcases hkey with rfl | rfl | rfl <;> simp [unwindPatch]
      have haction : (trace.merge (unwindPatch body (some intent) residual startedAt)).get
          "linked_unwind_action_id" = .str (p.uuid n) := by
        rw [← hid]
        exact Dict.get_merge_of_mem (by simp [unwindPatch]) List.mem_cons_self
      refine ⟨?_, ?_, ?_, ?_⟩
      · rw [hother "bot_id" (by simp)]
        exact hlinks.bot
      · rw [hother "run_id" (by simp)]
        exact hlinks.run
      · rw [hother "intent_id" (by simp)]
        exact hlinks.intent
      · rw [haction]
        exact isPlainOrNull_uuid n

theorem StoredTrace.links (hstored : StoredTrace p trace) : WrittenLinks trace := by
  induction hstored with
  | submitTimedOut setup recoveryTraceId runId botId isoNow oldestSubmittedAt age =>
      refine ⟨isTextOrNull_str botId, isTextOrNull_str runId, Or.inl rfl, Or.inl rfl⟩
  | submitFailed e stamps result n hintent =>
      refine ⟨isTextOrNull_str e.botId, isTextOrNull_str e.runId, ?_, Or.inl rfl⟩
      have hplain := isPlainOrNull_uuid (p := p) n
      rw [← hintent] at hplain
      exact hplain
  | unwindStarted body unwindIntent residual startedAt hintent _ ih =>
      exact ih.unwindStarted body unwindIntent residual startedAt hintent
  | patched hspares _ ih => exact ih.merge hspares

/-- Both sides read a text as it is, and null as nothing. -/
theorem textOr_optionalString (hfield : IsTextOrNull (trace.get key)) :
    textOr (optionalString (trace.get key)) "" = traceText trace key := by
  rw [traceText]
  rcases hfield with hnull | ⟨text, htext⟩
  · rw [hnull]
    rfl
  · rw [htext, Json.textOrEmpty_str]
    by_cases hempty : text = "" <;> simp [optionalString, textOr, hempty]

theorem IsPlainOrNull.isTextOrNull {value : Json} (hplain : IsPlainOrNull value) :
    IsTextOrNull value :=
  hplain.imp_right fun ⟨text, htext, _⟩ => ⟨text, htext⟩

theorem strip_traceText (hfield : IsPlainOrNull (trace.get key)) :
    Text.strip (traceText trace key) = traceText trace key := by
  rw [traceText]
  rcases hfield with hnull | ⟨text, htext, hstrip⟩
  · rw [hnull]
    rfl
  · rw [htext, Json.textOrEmpty_str, hstrip]

/-- The intents that the endpoint looks for. -/
def cancelIntentIds (trace : Dict) : List String :=
  [traceText trace "intent_id", traceText trace "linked_unwind_action_id"].filter (· ≠ "")

/-- Recovery counts the orders of one of them, when there is one. -/
theorem traceIntentId_mem (hlinks : WrittenLinks trace) (hnames : traceIntentId trace ≠ "") :
    traceIntentId trace ∈ cancelIntentIds trace := by
  have hunwind := strip_traceText hlinks.unwindAction
  have hintent := strip_traceText hlinks.intent
  unfold traceIntentId at hnames ⊢
  unfold traceText at hunwind hintent
  rw [hunwind, hintent] at hnames ⊢
  dsimp only at hnames ⊢
  split_ifs at hnames ⊢ with hlinked
  · simp [cancelIntentIds, traceText, hnames]
  · simp [cancelIntentIds, traceText, hlinked]

/-- A trace that names neither intent nor unwind has nothing to look for but its order. -/
theorem cancelIntentIds_eq_nil (hlinks : WrittenLinks trace) (hnames : traceIntentId trace = "") :
    cancelIntentIds trace = [] := by
  have hunwind := strip_traceText hlinks.unwindAction
  have hintent := strip_traceText hlinks.intent
  unfold traceIntentId at hnames
  unfold traceText at hunwind hintent
  rw [hunwind, hintent] at hnames
  dsimp only at hnames
  split_ifs at hnames with hlinked
  · simp [cancelIntentIds, traceText, hnames, hlinked]
  · exact absurd hnames hlinked

end Links

section Coverage

variable {p : Platform} {ctx : DecimalContext} {s : MemoryStore} {trace : Dict}

/-- The candidates of the endpoint, in the terms of recovery. -/
theorem mem_traceCancelCandidateOrders (hwf : WellFormed p s) (hlinks : WrittenLinks trace)
    {order : Order} :
    order ∈ traceCancelCandidateOrders (s.reads ctx) trace ↔
      order ∈ s.listRunOrders (traceText trace "bot_id") (traceText trace "run_id") ∧
        IsCandidate (cancelIntentIds trace) (linkedOrderText trace) order := by
  have hread : ∀ key, IsTextOrNull (trace.get key) →
      textOr (optionalString (trace.get key)) "" = traceText trace key :=
    fun key => textOr_optionalString
  have hids : (["intent_id", "linked_unwind_action_id"].map fun key =>
      textOr (optionalString (trace.get key)) "").filter (· ≠ "") = cancelIntentIds trace := by
    simp only [List.map_cons, List.map_nil, hread _ hlinks.intent.isTextOrNull,
      hread _ hlinks.unwindAction.isTextOrNull, cancelIntentIds]
  have hnodup := nodup_listRunOrders hwf.nodup (traceText trace "bot_id") (traceText trace "run_id")
  unfold traceCancelCandidateOrders
  dsimp only
  rw [hids, hread _ hlinks.bot, hread _ hlinks.run]
  split_ifs with hnone
  · have hids : ∀ id, id ∉ cancelIntentIds trace := fun id hid =>
      List.not_mem_nil (hnone.1 ▸ List.mem_dedup.mpr hid)
    refine iff_of_false List.not_mem_nil ?_
    rintro ⟨-, -, -, hmatches | ⟨hlinked, -⟩⟩
    · exact hids _ hmatches
    · exact hlinked hnone.2
  · refine (mem_openCandidates hnodup fun _ _ => List.not_mem_nil).trans ?_
    simp only [IsCandidate, List.mem_dedup]
    rfl

/-- The endpoint covers what recovery waits for exactly when the trace names an intent or
an unwind, or has nothing else active. -/
theorem cancelCovers_iff (hreach : Reachable p ctx s) (hstored : StoredTrace p trace) :
    CancelCovers ctx s trace ↔ traceIntentId trace ≠ "" ∨ OnlyUnwindOpen s trace := by
  have hwf := hreach.wellFormed
  have hlinks := hstored.links
  have hnonempty : ∀ order ∈ s.orders, order.orderId ≠ "" := by
    intro order hmem hempty
    obtain ⟨n, -, hid⟩ := hwf.issued order hmem
    exact (jsonText_eq_some (p.uuid_plain n)).2 (hid ▸ hempty)
  by_cases hnames : traceIntentId trace = ""
  · rw [or_iff_right (not_not.mpr hnames)]
    constructor
    · intro hcovers order hmem hactive
      have hwaits : WaitsFor ctx s trace order :=
        ⟨by rw [relatedOrders, if_pos hnames]; exact hmem, hactive⟩
      have hcandidate := ((mem_traceCancelCandidateOrders hwf hlinks).mp (hcovers order hwaits)).2
      rw [cancelIntentIds_eq_nil hlinks hnames] at hcandidate
      exact (hcandidate.2.2.resolve_left List.not_mem_nil).2
    · rintro honly order ⟨hrelated, hactive⟩
      rw [relatedOrders, if_pos hnames] at hrelated
      have hlinked := honly order hrelated hactive
      have hid := hnonempty order (mem_listRunOrders.mp hrelated).1
      exact (mem_traceCancelCandidateOrders hwf hlinks).mpr
        ⟨hrelated, hid, hactive.openOrder, Or.inr ⟨hlinked ▸ hid, hlinked⟩⟩
  · refine iff_of_true ?_ (Or.inl hnames)
    rintro order ⟨hrelated, hactive⟩
    rw [relatedOrders, if_neg hnames] at hrelated
    obtain ⟨hlisted, hintent⟩ := List.mem_filter.mp hrelated
    have hid := hnonempty order (mem_listRunOrders.mp hlisted).1
    refine (mem_traceCancelCandidateOrders hwf hlinks).mpr
      ⟨hlisted, hid, hactive.openOrder, Or.inl ?_⟩
    rw [of_decide_eq_true hintent]
    exact traceIntentId_mem hlinks hnames

/-- One order of one unit, open, of the intent of a run. -/
def oneOpenOrder : MemoryStore :=
  runCalls .counting .default [.createOrder (purchase .one)]
    (.withIntent .counting (Execution.oneUnitIntent "upbit" "bithumb"))

theorem reachable_oneOpenOrder : Reachable .counting .default oneOpenOrder :=
  reachable_runCalls (reachable_withIntent _ _ _) _

/-- The trace that recovery opens for it when it is not submitted in time. -/
def timedOutTrace : Dict :=
  submitTimeoutTrace plainSetup "rt_1" (Platform.counting.uuid 0) "bot" "2024-01-01T00:01:00Z" 0 60

theorem storedTrace_timedOutTrace : StoredTrace .counting timedOutTrace :=
  .submitTimedOut plainSetup "rt_1" (Platform.counting.uuid 0) "bot" "2024-01-01T00:01:00Z" 0 60

def hedgeIntent : OrderIntent where
  intentId := Platform.counting.uuid 1
  botId := "bot"
  strategyRunId := Platform.counting.uuid 0
  market := "XRP-KRW"
  buyExchange := "upbit"
  sellExchange := "bithumb"
  sidePair := "buy_then_sell"
  targetQty := .one
  expectedProfit := none
  expectedProfitRatio := none
  status := "created"
  createdAt := "2024-01-01T00:00:00Z"
  decisionContext := []

/-- Once the unwind of the trace is linked to the intent, the endpoint finds the order. -/
theorem cancelCovers_unwinding :
    CancelCovers .default oneOpenOrder
      (timedOutTrace.merge (unwindPatch [] (some hedgeIntent) none "2024-01-01T00:02:00Z")) := by
  have hstored := storedTrace_timedOutTrace.unwindStarted [] (some hedgeIntent) none
    "2024-01-01T00:02:00Z" fun intent hintent => ⟨1, by rw [← Option.some.inj hintent]; rfl⟩
  refine (cancelCovers_iff reachable_oneOpenOrder hstored).mpr (Or.inl ?_)
  decide +kernel

/-- The trace names no intent, and the endpoint finds nothing to cancel. -/
theorem not_cancelCovers_timedOut :
    ¬ ∀ (p : Platform) (ctx : DecimalContext) (s : MemoryStore) (trace : Dict),
      Reachable p ctx s → StoredTrace p trace → CancelCovers ctx s trace := by
  intro hall
  have hcovers := hall _ .default _ _ reachable_oneOpenOrder storedTrace_timedOutTrace
  have hfound : ∀ order ∈ relatedOrders (oneOpenOrder.reads .default) timedOutTrace,
      normalizedStatus order.status ∈ Recovery.terminalOrderStatuses := by
    intro order hrelated
    by_contra hactive
    have hcandidate := hcovers order ⟨hrelated, hactive⟩
    revert hcandidate
    exact List.not_mem_nil
  revert hfound
  decide +kernel

end Coverage

end TradingPlatform.Routes

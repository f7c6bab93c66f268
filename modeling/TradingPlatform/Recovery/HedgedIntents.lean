import TradingPlatform.Recovery.EvaluationSync
import TradingPlatform.Storage.IntentStatus

/-! # Hedged intents

An evaluation is closed on an intent that is done and whose orders have all ended.
The calls of the store decide whether such an intent is hedged: only a call that
ends the last open order of an intent, or that comes to an intent already done, can
leave one leg without the other.
-/

namespace TradingPlatform.Recovery

open Storage MemoryStore

section Specification

/-- A text that is looked up as it stands. -/
def IsPlain (text : String) : Prop := Text.strip text = text ∧ text ≠ ""

/-- An intent in a status that one of the procedures takes for done. A tick finds the
orders of an intent by its bot and its run, in texts without outer blanks. -/
def IsDone (intent : OrderIntent) : Prop :=
  normalizedStatus intent.status ∈ Runtime.terminalIntentStatuses ∨
    (normalizedStatus intent.status ∈ terminalIntentStatuses ∧ IsPlain intent.botId ∧
      IsPlain intent.strategyRunId)

/-- An order in this status trades no more. -/
def Ended (status : String) : Prop := normalizedStatus status ∈ terminalOrderStatuses

variable (ctx : DecimalContext) (s : MemoryStore)

/-- Both legs of the intent have an order, and as much was bought as sold. -/
def EvenLegs (intent : OrderIntent) : Prop := BothLegs s intent ∧ Execution.Balanced intent s

/-- All orders of an intent but one satisfy a condition on their status. -/
def Others (order : Order) (condition : String → Prop) : Prop :=
  ∀ other ∈ s.orders, other.orderIntentId = order.orderIntentId →
    other.orderId ≠ order.orderId → condition other.status

/-- A fill that the order takes fills it. -/
structure FillsUp (new : NewFill) (order : Order) : Prop extends TakesFill ctx s new order where
  full : s.nextFilledQty ctx order.orderId new.fillQty.value = order.requestedQty.value

/-- Both legs have an order, and with the fill as much is bought as sold. -/
def FillsEven (intent : OrderIntent) (order : Order) (new : NewFill) : Prop :=
  let added (side : String) : ℚ := if order.side = side then new.fillQty.value else 0
  BothLegs s intent ∧
    added "buy" + Execution.sideQty intent.intentId "buy" s.fills =
      added "sell" + Execution.sideQty intent.intentId "sell" s.fills

/-- A call that leaves no intent done, ended and uneven: an order that has ended from the
start is not the first one of an intent that is done, and the last open order of an
intent that is or becomes done is ended when the legs are even, or by the fill that
makes them so. -/
def EndsEven : Call → Prop
  | .createOrder new => TakesOrder s new → Ended new.status →
      ∀ intent, s.findIntent new.orderIntentId = some intent → IsDone intent →
        ∃ order ∈ s.orders, order.orderIntentId = new.orderIntentId
  | .updateOrderStatus orderId status => ∀ order intent, s.findOrder orderId = some order →
      s.findIntent order.orderIntentId = some intent → IsDone intent →
        Text.lower (Text.strip status) ∈ Storage.terminalOrderStatuses →
        Others s order Ended → EvenLegs s intent
  | .createFill new => ∀ order intent, FillsUp ctx s new order →
      s.findIntent order.orderIntentId = some intent → Others s order Ended →
        (IsDone intent ∨ Others s order (· = "filled")) → FillsEven s intent order new
  | _ => True

/-- What a tick or an execution closes is hedged, whatever Redis holds. -/
def ClosesHedged : Prop :=
  ∀ redis isoNow intentId, Closes (s.reads ctx) redis isoNow intentId → Hedged s intentId

end Specification

section States

variable {p : Platform} {ctx : DecimalContext} {s s' : MemoryStore} {intent : OrderIntent}
  {intentId : String}

/-- The intent is even once it is done and has orders, all of them ended. -/
def EvenOnceEnded (s : MemoryStore) (intentId : String) : Prop :=
  ∀ intent, s.findIntent intentId = some intent → IsDone intent →
    (∃ order ∈ s.orders, order.orderIntentId = intentId) →
    (∀ order ∈ s.orders, order.orderIntentId = intentId → Ended order.status) → EvenLegs s intent

theorem findIntent_intentId (hintent : s.findIntent intentId = some intent) :
    intent.intentId = intentId := by
  simpa using List.find?_some hintent

theorem matched_iff_evenLegs (hintent : s.findIntent intentId = some intent) :
    Matched s intentId ↔ EvenLegs s intent := by
  obtain rfl := findIntent_intentId hintent
  have hleg : ∀ side exchange, HasLeg s intent.intentId side exchange ↔ ∃ order ∈ s.orders,
      intent.Owns order ∧ order.side = side ∧ order.exchangeName = exchange intent := by
    intro side exchange
    constructor
    · rintro ⟨other, hother, horder⟩
      obtain rfl := Option.some.inj (hintent.symm.trans hother)
      exact horder
    · exact fun horder => ⟨intent, hintent, horder⟩
  constructor
  · exact fun h => ⟨⟨(hleg _ _).mp h.buyLeg, (hleg _ _).mp h.sellLeg⟩, h.balanced⟩
  · exact fun h => ⟨(hleg _ _).mpr h.1.bought, (hleg _ _).mpr h.1.sold, h.2⟩

/-- What every store satisfies that the calls lead to. -/
structure Regular (p : Platform) (s : MemoryStore) : Prop where
  wellFormed : WellFormed p s
  intents : ∀ order ∈ s.orders, s.KeepsToIntent order
  plain : ∀ intent ∈ s.orderIntents, IsPlain intent.intentId

/-- An intent with an order that may be closed is done, and all its orders have ended. -/
theorem Closable.isDone (hregular : Regular p s) {redis : Runtime.RedisRuntime}
    (hclosable : Closable (s.reads ctx) redis intentId) :
    ∃ intent, s.findIntent intentId = some intent ∧ IsDone intent ∧
      ∃ order ∈ s.orders, order.orderIntentId = intentId := by
  cases hclosable with
  | @tick item hitem hcloses hid =>
      simp only [closesEvaluation, Bool.and_eq_true, decide_eq_true_eq, Bool.not_eq_true',
        List.isEmpty_eq_false_iff, hid, intentIsTerminal, Option.any_eq_true] at hcloses
      obtain ⟨⟨⟨⟨⟨⟨-, hrun⟩, hbot⟩, -⟩, -⟩, intent, hintent, hstatus⟩, hsome⟩ := hcloses.1
      obtain ⟨order, horder⟩ := List.exists_mem_of_ne_nil _ hsome
      simp only [listedOrders, List.mem_filter, decide_eq_true_eq] at horder
      obtain ⟨hlisted, howned⟩ := horder
      obtain ⟨hmem, horderBot, horderRun⟩ := mem_listRunOrders.mp hlisted
      obtain ⟨other, hother, hbotEq, hrunEq, -⟩ := hregular.intents order hmem
      have hsame : s.findIntent intentId = some intent := hintent
      obtain rfl : other = intent := by
        rw [howned, hsame] at hother
        exact (Option.some.inj hother).symm
      have hplain : ∀ key, strippedText item key ≠ "" → IsPlain (strippedText item key) :=
        fun key hne => ⟨Text.strip_strip _, hne⟩
      refine ⟨other, hsame, Or.inr ⟨hstatus, ?_, ?_⟩, order, hmem, howned⟩
      · rw [← hbotEq, horderBot.resolve_left hbot]
        exact hplain _ hbot
      · rw [← hrunEq, horderRun.resolve_left hrun]
        exact hplain _ hrun
  | @execution latest hid hlatest hdone horders hterminal =>
      obtain ⟨order, horder⟩ := List.exists_mem_of_ne_nil _ horders
      simp only [listedOrders, List.mem_filter, decide_eq_true_eq] at horder
      exact ⟨latest, hlatest, Or.inl hdone, order, (mem_listRunOrders.mp horder.1).1, horder.2⟩

/-- Redis with an open evaluation of the intent and no trace. -/
def openEvaluation (intent : OrderIntent) : Dict :=
  [("strategy_run_id", .str intent.strategyRunId), ("bot_id", .str intent.botId),
    ("lifecycle_preview", .str "entry_open"),
    ("persisted_intent", .obj [("intent_id", .str intent.intentId)])]

def evaluating (intent : OrderIntent) : Runtime.RedisRuntime :=
  { Runtime.RedisRuntime.empty with
    latestEvaluations := AList.singleton intent.strategyRunId (openEvaluation intent) }

variable (ctx) in
/-- An intent that is done and has orders, all of them ended, may be closed. -/
theorem exists_closable (hregular : Regular p s) (hintent : s.findIntent intentId = some intent)
    (hdone : IsDone intent) (hsome : ∃ order ∈ s.orders, order.orderIntentId = intentId)
    (hended : ∀ order ∈ s.orders, order.orderIntentId = intentId → Ended order.status) :
    ∃ redis, Closable (s.reads ctx) redis intentId := by
  obtain rfl := findIntent_intentId hintent
  have hplain := hregular.plain intent (List.mem_of_find?_eq_some hintent)
  obtain ⟨order, hmem, howned⟩ := hsome
  obtain ⟨other, hother, hbot, hrun, -⟩ := hregular.intents order hmem
  obtain rfl : other = intent := by
    rw [howned, hintent] at hother
    exact (Option.some.inj hother).symm
  have hlisted : ∀ botId, (botId = "" ∨ other.botId = botId) →
      order ∈ listedOrders (s.reads ctx) botId other.strategyRunId other.intentId := by
    intro botId hbotId
    refine List.mem_filter.mpr ⟨mem_listRunOrders.mpr ⟨hmem, ?_, Or.inr hrun⟩, by simp [howned]⟩
    exact hbotId.imp_right hbot.trans
  have hnoActive : ∀ botId,
      hasActiveOrders (listedOrders (s.reads ctx) botId other.strategyRunId other.intentId) =
        false := by
    intro botId
    rw [hasActiveOrders_eq_false]
    intro row hrow
    simp only [listedOrders, List.mem_filter, decide_eq_true_eq] at hrow
    exact hended row (mem_listRunOrders.mp hrow.1).1 hrow.2
  -- an execution closes on the status alone, a tick needs the texts to be plain as well
  rcases hdone with hstatus | ⟨hstatus, hbotPlain, hrunPlain⟩
  · exact ⟨.empty, .execution hplain.2 hintent hstatus
      (List.ne_nil_of_mem (hlisted "" (Or.inl rfl))) (hnoActive "")⟩
  · have hid : persistedIntentId (openEvaluation other) = other.intentId := by
      simp [persistedIntentId, openEvaluation, strippedText, Dict.get, Dict.get?_cons, hplain.1]
    have hrunText : strippedText (openEvaluation other) "strategy_run_id" =
        other.strategyRunId := by
      simp [openEvaluation, strippedText, Dict.get, Dict.get?_cons, hrunPlain.1]
    have hbotText : strippedText (openEvaluation other) "bot_id" = other.botId := by
      simp [openEvaluation, strippedText, Dict.get, Dict.get?_cons, hbotPlain.1]
    have hopen : Text.lower (strippedText (openEvaluation other) "lifecycle_preview") ∈
        terminalSyncCandidateStates := by
      have hpreview : strippedText (openEvaluation other) "lifecycle_preview" =
          Text.strip "entry_open" := by
        simp [openEvaluation, strippedText, Dict.get, Dict.get?_cons]
      rw [hpreview]
      decide +kernel
    have hunblocked : ((evaluating other).getBlockingRecoveryTrace other.botId
        other.strategyRunId).isNone := by
      simp [evaluating, Runtime.RedisRuntime.getBlockingRecoveryTrace,
        Runtime.RedisRuntime.listRecoveryTraces, Runtime.RedisRuntime.empty]
    have hterminal : intentIsTerminal (s.reads ctx) other.intentId = true := by
      simpa [intentIsTerminal, MemoryStore.reads, hintent] using hstatus
    have hne := List.ne_nil_of_mem (hlisted other.botId (Or.inr rfl))
    refine ⟨evaluating other, .tick (List.mem_cons_self : openEvaluation other ∈
      (evaluating other).listArbitrageEvaluations 100) ?_ hid⟩
    simp [closesEvaluation, hid, hrunText, hbotText, hopen, hunblocked, hterminal, hne,
      hnoActive other.botId, hplain.2, hrunPlain.2, hbotPlain.2]

/-- Whatever Redis holds, what is closed is hedged exactly when every intent is even once
it is done and ended. -/
theorem closesHedged_iff (hregular : Regular p s) :
    ClosesHedged ctx s ↔ ∀ intentId, EvenOnceEnded s intentId := by
  constructor
  · intro hall intentId intent hintent hdone hsome hended
    obtain ⟨redis, hclosable⟩ := exists_closable ctx hregular hintent hdone hsome hended
    have hhedged := hall redis (fun _ => "") intentId (closes_iff_closable.mpr hclosable)
    exact (matched_iff_evenLegs hintent).mp hhedged.toMatched
  · intro hall redis isoNow intentId hcloses
    have hclosable := closes_iff_closable.mp hcloses
    obtain ⟨intent, hintent, hdone, hsome⟩ := hclosable.isDone hregular
    have hended := hclosable.terminal hregular.intents
    exact ⟨(matched_iff_evenLegs hintent).mpr (hall intentId intent hintent hdone hsome hended),
      hended⟩

end States

section Steps

variable {p : Platform} {ctx : DecimalContext} {s s' : MemoryStore} {intent : OrderIntent}
  {intentId : String}

theorem isDone_submitted :
    IsDone { intent with status := submittedStatus intent.status } ↔ IsDone intent := by
  by_cases hcreated : intent.status = "created"
  · have hopen : ∀ status ∈ ["created", "submitted"],
        normalizedStatus status ∉ Runtime.terminalIntentStatuses ∧
          normalizedStatus status ∉ terminalIntentStatuses := by decide +kernel
    refine iff_of_false ?_ ?_
    · simp only [IsDone, submittedStatus, hcreated, if_true]
      exact fun hdone => hdone.elim (hopen "submitted" (by simp)).1
        fun h => (hopen "submitted" (by simp)).2 h.1
    · simp only [IsDone, hcreated]
      exact fun hdone => hdone.elim (hopen "created" (by simp)).1
        fun h => (hopen "created" (by simp)).2 h.1
  · simp only [submittedStatus, if_neg hcreated]

theorem isDone_simulated : IsDone { intent with status := "simulated" } :=
  Or.inl (show normalizedStatus "simulated" ∈ Runtime.terminalIntentStatuses by decide +kernel)

/-- Nothing changes for an intent whose row, orders and quantities stay. -/
theorem evenOnceEnded_congr (hintent : s'.findIntent intentId = s.findIntent intentId)
    (horders : ∀ order, order.orderIntentId = intentId → (order ∈ s'.orders ↔ order ∈ s.orders))
    (hqty : ∀ side, Execution.sideQty intentId side s'.fills =
      Execution.sideQty intentId side s.fills) :
    EvenOnceEnded s' intentId ↔ EvenOnceEnded s intentId := by
  unfold EvenOnceEnded
  rw [hintent]
  refine forall_congr' fun intent => forall_congr' fun hfound => forall_congr' fun _ => ?_
  obtain rfl := findIntent_intentId hfound
  have howned : ∀ condition : Order → Prop,
      (∃ order ∈ s'.orders, intent.Owns order ∧ condition order) ↔
        ∃ order ∈ s.orders, intent.Owns order ∧ condition order := by
    intro condition
    refine exists_congr fun order => ⟨?_, ?_⟩
    · exact fun ⟨hmem, howns, h⟩ => ⟨(horders order howns).mp hmem, howns, h⟩
    · exact fun ⟨hmem, howns, h⟩ => ⟨(horders order howns).mpr hmem, howns, h⟩
  have hsome := howned fun _ => True
  simp only [and_true] at hsome
  have hended : (∀ order ∈ s'.orders, order.orderIntentId = intent.intentId → Ended order.status) ↔
      ∀ order ∈ s.orders, order.orderIntentId = intent.intentId → Ended order.status :=
    forall_congr' fun order => ⟨fun h hmem howns => h ((horders order howns).mpr hmem) howns,
      fun h hmem howns => h ((horders order howns).mp hmem) howns⟩
  have heven : EvenLegs s' intent ↔ EvenLegs s intent := by
    refine and_congr ⟨fun h => ⟨(howned _).mp h.bought, (howned _).mp h.sold⟩,
      fun h => ⟨(howned _).mpr h.bought, (howned _).mpr h.sold⟩⟩ ?_
    rw [Execution.Balanced, Execution.Balanced, hqty, hqty]
  exact imp_congr hsome (imp_congr hended heven)

/-- An intent keeps its row when only the status of another one changes. -/
theorem findIntent_setIntentStatus_of_ne {id : String} (hne : intentId ≠ id)
    (f : String → String) :
    (s.setIntentStatus id f).findIntent intentId = s.findIntent intentId := by
  rw [findIntent_setIntentStatus]
  cases hintent : s.findIntent intentId with
  | none => rfl
  | some intent =>
      rw [Option.map_some, if_neg]
      rwa [findIntent_intentId hintent]

theorem findIntent_setIntentStatus_self (hintent : s.findIntent intentId = some intent)
    (f : String → String) :
    (s.setIntentStatus intentId f).findIntent intentId =
      some { intent with status := f intent.status } := by
  rw [findIntent_setIntentStatus, hintent, Option.map_some, if_pos (findIntent_intentId hintent)]

theorem evenLegs_status {status : String} :
    EvenLegs s { intent with status := status } ↔ EvenLegs s intent :=
  and_congr bothLegs_status Iff.rfl

/-- An order that has ended from the start is even with its intent unless it comes first. -/
theorem evenOnceEnded_addOrder_iff {order : Order}
    (hintent : s.findIntent order.orderIntentId = some intent)
    (hall : ∀ intentId, EvenOnceEnded s intentId) :
    (∀ intentId, EvenOnceEnded (s.addOrder order) intentId) ↔
      (Ended order.status → IsDone intent →
        ∃ other ∈ s.orders, other.orderIntentId = order.orderIntentId) := by
  have hafter : (s.addOrder order).findIntent order.orderIntentId =
      some { intent with status := submittedStatus intent.status } :=
    findIntent_setIntentStatus_self hintent _
  have hid := findIntent_intentId hintent
  constructor
  · intro heven hended hdone
    by_contra hnone
    push Not at hnone
    have hlegs := heven _ _ hafter (isDone_submitted.mpr hdone)
      ⟨order, List.mem_append_right _ List.mem_cons_self, rfl⟩ (by
        intro other hmem howned
        rcases List.mem_append.mp hmem with hold | hnew
        · exact absurd howned (hnone other hold)
        · rwa [List.mem_singleton.mp hnew])
    -- the only order of the intent would be on both legs
    obtain ⟨⟨bought, hbought, hbuy⟩, ⟨sold, hsold, hsell⟩⟩ := hlegs.1
    have honly : ∀ other ∈ (s.addOrder order).orders, intent.Owns other → other = order := by
      intro other hmem howns
      rcases List.mem_append.mp hmem with hold | hnew
      · exact absurd (howns.trans hid) (hnone other hold)
      · exact List.mem_singleton.mp hnew
    have hsides := hbuy.2.1.symm.trans
      ((honly bought hbought hbuy.1).trans (honly sold hsold hsell.1).symm ▸ hsell.2.1)
    simp at hsides
  · intro hfirst intentId
    by_cases hsame : intentId = order.orderIntentId
    · subst hsame
      intro later hlater hdone _ hended
      obtain rfl := Option.some.inj (hafter.symm.trans hlater)
      have hdone := isDone_submitted.mp hdone
      have hnew := hended order (List.mem_append_right _ List.mem_cons_self) rfl
      have heven := hall _ _ hintent hdone (hfirst hnew hdone) fun other hmem howned =>
        hended other (List.mem_append_left _ hmem) howned
      obtain ⟨⟨⟨bought, hbought, hbuy⟩, ⟨sold, hsold, hsell⟩⟩, hbalanced⟩ := heven
      exact ⟨⟨⟨bought, List.mem_append_left _ hbought, hbuy⟩,
        ⟨sold, List.mem_append_left _ hsold, hsell⟩⟩, hbalanced⟩
    · have hkept : (s.addOrder order).findIntent intentId = s.findIntent intentId :=
        findIntent_setIntentStatus_of_ne hsame _
      refine (evenOnceEnded_congr hkept ?_ fun _ => rfl).mpr (hall intentId)
      intro other howned
      have hne : other ≠ order := fun heq => hsame (by rw [← howned, heq])
      simp [hne]

theorem evenOnceEnded_createOrder_iff (hall : ∀ intentId, EvenOnceEnded s intentId)
    (new : NewOrder) :
    (∀ intentId, EvenOnceEnded (MemoryStore.createOrder p new s).2 intentId) ↔
      EndsEven ctx s (.createOrder new) := by
  rcases createOrder_cases p new s with
    ⟨intent, hintent, hmarket, hexchange, hfree, hcreated⟩ | ⟨hnot, hsame⟩
  · rw [hcreated]
    have hrow : s.findIntent (orderRow p s.serial intent new).orderIntentId = some intent := hintent
    refine (evenOnceEnded_addOrder_iff hrow hall).trans
      ⟨fun hfirst _ hended other hother hdone => ?_, fun hfirst hended => ?_⟩
    · obtain rfl := Option.some.inj (hintent.symm.trans hother)
      exact hfirst hended hdone
    · exact hfirst ⟨intent, hintent, hmarket, hexchange, hfree⟩ hended intent hintent
  · rw [hsame]
    refine iff_of_true hall ?_
    rintro ⟨intent, hintent, hmarket, hexchange, hfree⟩
    exact absurd (by rw [createOrder_eq_created hintent hmarket hexchange hfree]) hnot

/-- An intent that is added has no order yet. -/
theorem evenOnceEnded_createOrderIntent (hregular : Regular p s)
    (hall : ∀ intentId, EvenOnceEnded s intentId) (new : NewOrderIntent) :
    ∀ intentId, EvenOnceEnded (MemoryStore.createOrderIntent p new s).2 intentId := by
  intro intentId
  by_cases hsome : ∃ order ∈ s.orders, order.orderIntentId = intentId
  · obtain ⟨order, hmem, rfl⟩ := hsome
    obtain ⟨intent, hintent, -⟩ := hregular.intents order hmem
    have heffect := Call.effect p .exact s (.createOrderIntent new)
    simp only [Call.apply, Call.outcome] at heffect
    generalize (MemoryStore.createOrderIntent p new s).1.outcome = outcome at heffect
    generalize (MemoryStore.createOrderIntent p new s).2 = s' at heffect ⊢
    cases heffect with
    | refused => exact hall _
    | runs horders hfills hintents =>
        exact (evenOnceEnded_congr (by rw [findIntent, hintents, findIntent])
          (fun _ _ => by rw [horders]) fun _ => by rw [hfills]).mpr (hall _)
    | intent added horders hfills hintents =>
        refine (evenOnceEnded_congr ?_ (fun _ _ => by rw [horders])
          fun _ => by rw [hfills]).mpr (hall _)
        rw [findIntent] at hintent
        rw [findIntent, hintents, List.find?_append, hintent, findIntent, hintent]
        rfl
  · rintro intent - - ⟨order, hmem, howned⟩ -
    rcases createOrderIntent_cases p new s with ⟨added, -, -, -, -, horders⟩ | ⟨-, hsame⟩
    · exact absurd ⟨order, horders ▸ hmem, howned⟩ hsome
    · exact absurd ⟨order, hsame ▸ hmem, howned⟩ hsome

/-- A change of status changes the orders of the intent of that order only. -/
theorem mem_setOrderStatus_of_ne (hwf : WellFormed p s) {order : Order} (hmem : order ∈ s.orders)
    {status updatedAt : String} {other : Order} (hne : other.orderIntentId ≠ order.orderIntentId) :
    other ∈ (s.setOrderStatus order.orderId status updatedAt).orders ↔ other ∈ s.orders := by
  constructor
  · intro hother
    obtain ⟨row, hrow, hterms, ⟨hid, -⟩ | ⟨-, rfl⟩⟩ := exists_row_of_mem_setOrderStatus hother
    · obtain rfl := List.inj_on_of_nodup_map hwf.nodup hrow hmem hid
      exact absurd (by simpa using congrArg Order.orderIntentId hterms.symm) hne
    · exact hrow
  · intro hother
    refine List.mem_map.mpr ⟨other, hother, if_neg fun hid => hne ?_⟩
    rw [List.inj_on_of_nodup_map hwf.nodup hother hmem hid]

/-- After a change of status the orders that a condition on their terms concerns have ended
when the new status ends the order, if it is one of them, and the others have ended. -/
theorem allEnded_setOrderStatus_iff (hwf : WellFormed p s) (concerned : Order → Prop)
    (hterms : ∀ row other : Order, row.terms = other.terms → (concerned row ↔ concerned other))
    {order : Order} (hmem : order ∈ s.orders) (status updatedAt : String) :
    (∀ row ∈ (s.setOrderStatus order.orderId status updatedAt).orders,
        concerned row → Ended row.status) ↔
      (concerned order → Ended status) ∧ ∀ other ∈ s.orders, other.orderId ≠ order.orderId →
        concerned other → Ended other.status := by
  constructor
  · intro hended
    refine ⟨fun hconcerned => ?_, fun other hother hne =>
      hended other (List.mem_map.mpr ⟨other, hother, if_neg hne⟩)⟩
    have hrow : { order with status := status, updatedAt := updatedAt } ∈
        (s.setOrderStatus order.orderId status updatedAt).orders :=
      List.mem_map.mpr ⟨order, hmem, if_pos rfl⟩
    have hsame : order.terms =
        ({ order with status := status, updatedAt := updatedAt } : Order).terms := rfl
    have hnew := hended _ hrow ((hterms _ _ hsame).mp hconcerned)
    exact hnew
  · rintro ⟨hstatus, hothers⟩ row hrow hconcerned
    obtain ⟨original, horiginal, hsame, ⟨hid, hnew⟩ | ⟨hne, rfl⟩⟩ :=
      exists_row_of_mem_setOrderStatus hrow
    · obtain rfl := List.inj_on_of_nodup_map hwf.nodup horiginal hmem hid
      rw [hnew]
      exact hstatus ((hterms _ _ hsame).mpr hconcerned)
    · exact hothers row horiginal hne hconcerned

/-- The same for the orders of the intent. -/
theorem ended_setOrderStatus_iff (hwf : WellFormed p s) {order : Order} (hmem : order ∈ s.orders)
    (status updatedAt : String) :
    (∀ row ∈ (s.setOrderStatus order.orderId status updatedAt).orders,
        row.orderIntentId = order.orderIntentId → Ended row.status) ↔
      Ended status ∧ Others s order Ended := by
  rw [allEnded_setOrderStatus_iff hwf (·.orderIntentId = order.orderIntentId) ?_ hmem]
  · refine and_congr (by simp) (forall_congr' fun other => forall_congr' fun _ => ?_)
    exact forall_comm
  · intro row other hsame
    rw [← Order.terms_orderIntentId, hsame, Order.terms_orderIntentId]

/-- All orders of an intent have ended when one has and the others have. -/
theorem ended_of_others {order : Order} (hwf : WellFormed p s) (hmem : order ∈ s.orders)
    (hended : Ended order.status) (hothers : Others s order Ended) :
    ∀ row ∈ s.orders, row.orderIntentId = order.orderIntentId → Ended row.status := by
  intro row hrow howned
  by_cases hid : row.orderId = order.orderId
  · rwa [List.inj_on_of_nodup_map hwf.nodup hrow hmem hid]
  · exact hothers row hrow howned hid

theorem ended_of_terminal {status : String} (hterminal : Text.lower (Text.strip status) ∈
    Storage.terminalOrderStatuses) : Ended status := by
  have hmore : ∀ status ∈ Storage.terminalOrderStatuses, status ∈ terminalOrderStatuses := by decide
  exact hmore _ hterminal

/-- A change of status ends the last open order of a done intent only when it is even. -/
theorem evenOnceEnded_setOrderStatus_iff (hregular : Regular p s)
    (hall : ∀ intentId, EvenOnceEnded s intentId) {order : Order} (hmem : order ∈ s.orders)
    (hintent : s.findIntent order.orderIntentId = some intent) (status updatedAt : String) :
    (∀ intentId, EvenOnceEnded (s.setOrderStatus order.orderId status updatedAt) intentId) ↔
      (IsDone intent → Ended status → Others s order Ended → EvenLegs s intent) := by
  have hended := ended_setOrderStatus_iff hregular.wellFormed hmem status updatedAt
  have heven : EvenLegs (s.setOrderStatus order.orderId status updatedAt) intent ↔
      EvenLegs s intent := and_congr (bothLegs_of_terms (setOrderStatus_terms _ _ _ _)) Iff.rfl
  have hrow : { order with status := status, updatedAt := updatedAt } ∈
      (s.setOrderStatus order.orderId status updatedAt).orders :=
    List.mem_map.mpr ⟨order, hmem, if_pos rfl⟩
  constructor
  · intro hafter hdone hstatus hothers
    exact heven.mp (hafter _ intent hintent hdone ⟨_, hrow, rfl⟩ (hended.mpr ⟨hstatus, hothers⟩))
  · intro hlast intentId
    by_cases hsame : intentId = order.orderIntentId
    · subst hsame
      intro later hlater hdone _ hlaterEnded
      obtain rfl := Option.some.inj (hintent.symm.trans hlater)
      obtain ⟨hstatus, hothers⟩ := hended.mp hlaterEnded
      exact heven.mpr (hlast hdone hstatus hothers)
    · have hkept : (s.setOrderStatus order.orderId status updatedAt).findIntent intentId =
          s.findIntent intentId := rfl
      refine (evenOnceEnded_congr hkept (fun other howned => ?_) fun _ => rfl).mpr (hall intentId)
      exact mem_setOrderStatus_of_ne hregular.wellFormed hmem (howned ▸ hsame)

theorem ended_iff_terminal : ∀ status ∈ validOrderStatuses,
    Ended status ↔ status ∈ Storage.terminalOrderStatuses := by
  unfold Ended
  decide +kernel

theorem evenOnceEnded_updateOrderStatus_iff (hregular : Regular p s)
    (hall : ∀ intentId, EvenOnceEnded s intentId) (orderId status : String) :
    (∀ intentId, EvenOnceEnded (MemoryStore.updateOrderStatus p orderId status s).2 intentId) ↔
      EndsEven ctx s (.updateOrderStatus orderId status) := by
  rcases updateOrderStatus_cases p orderId status s with
    ⟨order, horder, hvalid, -, hchanged⟩ | ⟨hsame, hrefused⟩
  · have hmem := findOrder_mem horder
    obtain rfl := findOrder_orderId horder
    obtain ⟨intent, hintent, -⟩ := hregular.intents order hmem
    have hstatus := evenOnceEnded_setOrderStatus_iff hregular hall hmem hintent
      (Text.lower (Text.strip status)) (p.sampleTime s.serial)
    rw [ended_iff_terminal _ hvalid] at hstatus
    have hserial : ∀ (t : MemoryStore) (n : Nat) (intentId : String),
        EvenOnceEnded { t with serial := n } intentId ↔ EvenOnceEnded t intentId :=
      fun _ _ _ => evenOnceEnded_congr rfl (fun _ _ => Iff.rfl) fun _ => rfl
    rw [hchanged]
    refine (forall_congr' fun _ => hserial _ _ _).trans (hstatus.trans ?_)
    constructor
    · intro hlast other latest hother hlatest
      obtain rfl := Option.some.inj (horder.symm.trans hother)
      obtain rfl := Option.some.inj (hintent.symm.trans hlatest)
      exact hlast
    · exact fun hlast => hlast order intent horder hintent
  · rw [hsame]
    refine iff_of_true hall fun order intent horder hintent hdone hterminal hothers => ?_
    have hvalid : ∀ status ∈ Storage.terminalOrderStatuses, status ∈ validOrderStatuses := by
      decide
    -- the order has ended already
    have hended : Ended order.status := by
      rcases hrefused order horder (hvalid _ hterminal) with hold | heq
      · exact ended_of_terminal hold
      · rw [← heq] at hterminal
        exact ended_of_terminal hterminal
    exact hall _ intent hintent hdone ⟨order, findOrder_mem horder, rfl⟩
      (ended_of_others hregular.wellFormed (findOrder_mem horder) hended hothers)

/-- A fill that fills an order up makes it one that has ended, any other one does not. -/
theorem ended_fillStatus_iff {new : NewFill} {order : Order} (htakes : TakesFill ctx s new order)
    {status : String} (hstatus : fillStatus ctx s order new.fillQty.value = some status) :
    Ended status ↔ FillsUp ctx s new order := by
  obtain rfl := Option.some.inj (hstatus.symm.trans (fillStatus_of_takesFill htakes))
  have hfilled : Ended "filled" ∧ ¬ Ended "partially_filled" := by
    unfold Ended
    decide +kernel
  split_ifs with hfull
  · exact iff_of_true hfilled.1 ⟨htakes, hfull⟩
  · exact iff_of_false hfilled.2 fun h => hfull h.full

theorem fillsLast_iff {new : NewFill} {order : Order} : FillsLast ctx s new order ↔
    FillsUp ctx s new order ∧ Others s order (· = "filled") :=
  ⟨fun h => ⟨⟨h.toTakesFill, h.full⟩, h.others⟩, fun h => ⟨h.1.toTakesFill, h.1.full, h.2⟩⟩

/-- What a fill makes of the intent of its order: it is done now when it was, or when all
its orders are filled. -/
theorem exists_intent_addFill {new : NewFill} {order : Order}
    (htakes : TakesFill ctx s new order) {status : String}
    (hstatus : fillStatus ctx s order new.fillQty.value = some status)
    (hintent : s.findIntent order.orderIntentId = some intent) :
    ∃ next, (s.addFill (fillRow p s.serial order new status)).findIntent order.orderIntentId =
        some { intent with status := next } ∧
      (IsDone { intent with status := next } ↔ IsDone intent ∨ FillsLast ctx s new order) := by
  have hsettled : Settled (s.setOrderStatus new.orderId status (p.sampleTime s.serial))
      order.orderIntentId ↔ FillsLast ctx s new order := settled_setOrderStatus_iff htakes hstatus
  set t := s.setOrderStatus new.orderId status (p.sampleTime s.serial)
  have hintents : (s.addFill (fillRow p s.serial order new status)).findIntent
      order.orderIntentId = (t.settleIntent order.orderIntentId).findIntent order.orderIntentId :=
    rfl
  have hfound : t.findIntent order.orderIntentId = some intent := hintent
  refine ⟨if Settled t order.orderIntentId then "simulated" else submittedStatus intent.status,
    ?_, ?_⟩
  · rw [hintents, settleIntent_eq, findIntent_setIntentStatus_self hfound]
  · rw [← hsettled]
    split_ifs with hdone
    · exact iff_of_true isDone_simulated (Or.inr hdone)
    · rw [isDone_submitted, or_iff_left hdone]

theorem evenLegs_addFill_iff {new : NewFill} {order : Order} {status : String}
    (hintent : s.findIntent order.orderIntentId = some intent) :
    EvenLegs (s.addFill (fillRow p s.serial order new status)) intent ↔
      FillsEven s intent order new := by
  refine and_congr (bothLegs_of_terms (setOrderStatus_terms _ _ _ _)) ?_
  rw [Execution.Balanced, addFill_fills, Execution.sideQty_cons, Execution.sideQty_cons]
  simp [fillRow, findIntent_intentId hintent]

/-- A fill leaves the other intents as they were. -/
theorem evenOnceEnded_addFill_of_ne (hwf : WellFormed p s) {new : NewFill} {order : Order}
    (hmem : order ∈ s.orders) (hid : order.orderId = new.orderId) {status : String}
    (hne : intentId ≠ order.orderIntentId) :
    EvenOnceEnded (s.addFill (fillRow p s.serial order new status)) intentId ↔
      EvenOnceEnded s intentId := by
  refine evenOnceEnded_congr ?_ (fun other howned => ?_) fun side => ?_
  · have hsettled : (s.addFill (fillRow p s.serial order new status)).findIntent intentId =
        ((s.setOrderStatus new.orderId status (p.sampleTime s.serial)).settleIntent
          order.orderIntentId).findIntent intentId := rfl
    rw [hsettled, settleIntent_eq, findIntent_setIntentStatus_of_ne hne]
    rfl
  · have horders : (s.addFill (fillRow p s.serial order new status)).orders =
        (s.setOrderStatus new.orderId status (p.sampleTime s.serial)).orders := rfl
    rw [horders, ← hid]
    exact mem_setOrderStatus_of_ne hwf hmem (howned ▸ hne)
  · rw [addFill_fills, Execution.sideQty_cons, if_neg, zero_add]
    exact fun h => hne h.1.symm

/-- A fill ends the last open order of an intent that is or becomes done only when the
intent is even with it. -/
theorem evenOnceEnded_addFill_iff (hregular : Regular p s)
    (hall : ∀ intentId, EvenOnceEnded s intentId) {new : NewFill} {order : Order}
    (htakes : TakesFill ctx s new order) {status : String}
    (hstatus : fillStatus ctx s order new.fillQty.value = some status)
    (hintent : s.findIntent order.orderIntentId = some intent) :
    (∀ intentId, EvenOnceEnded (s.addFill (fillRow p s.serial order new status)) intentId) ↔
      (FillsUp ctx s new order → Others s order Ended →
        (IsDone intent ∨ Others s order (· = "filled")) → FillsEven s intent order new) := by
  have hmem := findOrder_mem htakes.found
  have hid := findOrder_orderId htakes.found
  have hended := ended_setOrderStatus_iff hregular.wellFormed hmem status (p.sampleTime s.serial)
  rw [ended_fillStatus_iff htakes hstatus, hid] at hended
  obtain ⟨next, hafter, hdone⟩ := exists_intent_addFill (p := p) htakes hstatus hintent
  have heven : EvenLegs (s.addFill (fillRow p s.serial order new status)) intent ↔
      FillsEven s intent order new := evenLegs_addFill_iff hintent
  constructor
  · intro hlater hfull hothers hlast
    refine heven.mp (evenLegs_status.mp (hlater _ _ hafter (hdone.mpr ?_)
      ⟨_, List.mem_map.mpr ⟨order, hmem, if_pos hid⟩, rfl⟩ (hended.mpr ⟨hfull, hothers⟩)))
    exact hlast.imp_right fun hfilled => fillsLast_iff.mpr ⟨hfull, hfilled⟩
  · intro hlast intentId
    by_cases hsame : intentId = order.orderIntentId
    · subst hsame
      intro later hlater hlaterDone _ hlaterEnded
      obtain rfl := Option.some.inj (hafter.symm.trans hlater)
      obtain ⟨hfull, hothers⟩ := hended.mp hlaterEnded
      refine evenLegs_status.mpr (heven.mpr (hlast hfull hothers ?_))
      exact (hdone.mp hlaterDone).imp_right fun h => (fillsLast_iff.mp h).2
    · exact (evenOnceEnded_addFill_of_ne hregular.wellFormed hmem hid hsame).mpr (hall intentId)

theorem evenOnceEnded_createFill_iff (hregular : Regular p s)
    (hall : ∀ intentId, EvenOnceEnded s intentId) (new : NewFill) :
    (∀ intentId, EvenOnceEnded (MemoryStore.createFill p ctx new s).2 intentId) ↔
      EndsEven ctx s (.createFill new) := by
  rcases createFill_cases p ctx new s with
    ⟨order, status, horder, hfree, hstatus, hcreated⟩ | ⟨hnot, hsame⟩
  · have htakes := takesFill_of_fillStatus horder hfree hstatus
    obtain ⟨intent, hintent, -⟩ := hregular.intents order (findOrder_mem horder)
    rw [hcreated, evenOnceEnded_addFill_iff hregular hall htakes hstatus hintent]
    constructor
    · intro hlast other latest hup hlatest
      obtain rfl := Option.some.inj (horder.symm.trans hup.found)
      obtain rfl := Option.some.inj (hintent.symm.trans hlatest)
      exact hlast hup
    · exact fun hlast hup => hlast order intent hup hintent
  · rw [hsame]
    refine iff_of_true hall fun order _ hup => absurd ?_ hnot
    rw [createFill_eq_created hup.found hup.fresh (fillStatus_of_takesFill hup.toTakesFill)]

/-- Where every intent is even once it is done and ended, a call keeps it so exactly when it
ends no order unevenly. -/
theorem evenOnceEnded_apply_iff (hregular : Regular p s)
    (hall : ∀ intentId, EvenOnceEnded s intentId) (call : Call) :
    (∀ intentId, EvenOnceEnded (call.apply p ctx s) intentId) ↔ EndsEven ctx s call := by
  have heffect := call.effect p ctx s
  cases call with
  | createStrategyRun | startStrategyRun | stopStrategyRun =>
      refine iff_of_true (fun intentId => ?_) trivial
      generalize Call.apply p ctx s _ = s' at heffect ⊢
      cases heffect with
      | refused => exact hall intentId
      | runs horders hfills hintents =>
          exact (evenOnceEnded_congr (by rw [findIntent, hintents, findIntent])
            (fun _ _ => by rw [horders]) fun _ => by rw [hfills]).mpr (hall intentId)
  | createOrderIntent new =>
      exact iff_of_true (evenOnceEnded_createOrderIntent hregular hall new) trivial
  | createOrder new => exact evenOnceEnded_createOrder_iff hall new
  | updateOrderStatus orderId status =>
      exact evenOnceEnded_updateOrderStatus_iff hregular hall orderId status
  | createFill new => exact evenOnceEnded_createFill_iff hregular hall new

end Steps

section Histories

variable {p : Platform} {ctx : DecimalContext} {s : MemoryStore}

theorem isPlain_uuid (p : Platform) (n : Nat) : IsPlain (p.uuid n) :=
  jsonText_eq_some (p.uuid_plain n)

/-- An intent after a call has the identifier of an intent before it, or one handed out. -/
theorem intentIds_apply (call : Call) : ∀ intent ∈ (call.apply p ctx s).orderIntents,
    (∃ row ∈ s.orderIntents, row.intentId = intent.intentId) ∨ ∃ n, intent.intentId = p.uuid n := by
  have hkept : ∀ (id : String) (f : String → String) (t : MemoryStore),
      t.orderIntents = s.orderIntents → ∀ intent ∈ (t.setIntentStatus id f).orderIntents,
        ∃ row ∈ s.orderIntents, row.intentId = intent.intentId := by
    intro id f t ht intent hmem
    obtain ⟨row, hrow, ⟨-, rfl⟩ | ⟨-, rfl⟩⟩ := exists_intent_of_mem_setIntentStatus hmem
    · exact ⟨row, ht ▸ hrow, rfl⟩
    · exact ⟨intent, ht ▸ hrow, rfl⟩
  intro intent hmem
  have heffect := call.effect p ctx s
  cases call with
  | createOrderIntent new =>
      rcases createOrderIntent_cases p new s with ⟨added, -, hid, -, hintents, -⟩ | ⟨-, hsame⟩
      · rw [Call.apply, hintents] at hmem
        rcases List.mem_append.mp hmem with hold | hnew
        · exact Or.inl ⟨intent, hold, rfl⟩
        · exact Or.inr ⟨s.serial, List.mem_singleton.mp hnew ▸ hid⟩
      · rw [Call.apply, hsame] at hmem
        exact Or.inl ⟨intent, hmem, rfl⟩
  | createOrder new =>
      left
      rcases createOrder_cases p new s with ⟨_, -, -, -, -, hcreated⟩ | ⟨-, hsame⟩
      · rw [Call.apply, hcreated] at hmem
        exact hkept _ _ s rfl intent hmem
      · rw [Call.apply, hsame] at hmem
        exact ⟨intent, hmem, rfl⟩
  | createFill new =>
      left
      rcases createFill_cases p ctx new s with ⟨order, status, -, -, -, hcreated⟩ | ⟨-, hsame⟩
      · rw [Call.apply, hcreated] at hmem
        -- the intent is settled after the order is stamped
        have hsettled : intent ∈ ((s.setOrderStatus new.orderId status
            (p.sampleTime s.serial)).settleIntent order.orderIntentId).orderIntents := hmem
        rw [settleIntent_eq] at hsettled
        exact hkept _ _ (s.setOrderStatus new.orderId status (p.sampleTime s.serial)) rfl intent
          hsettled
      · rw [Call.apply, hsame] at hmem
        exact ⟨intent, hmem, rfl⟩
  | createStrategyRun | startStrategyRun | stopStrategyRun =>
      generalize Call.apply p ctx s _ = s' at heffect hmem
      cases heffect with
      | refused => exact Or.inl ⟨intent, hmem, rfl⟩
      | runs _ _ hintents => exact Or.inl ⟨intent, hintents ▸ hmem, rfl⟩
  | updateOrderStatus orderId status =>
      simp only [Call.apply, Call.outcome] at heffect hmem
      generalize (MemoryStore.updateOrderStatus p orderId status s).1.outcome = outcome at heffect
      generalize (MemoryStore.updateOrderStatus p orderId status s).2 = s' at heffect hmem
      cases heffect with
      | refused | sameStatus | status => exact Or.inl ⟨intent, hmem, rfl⟩
      | runs _ _ hintents => exact Or.inl ⟨intent, hintents ▸ hmem, rfl⟩

theorem Regular.apply (hregular : Regular p s) (call : Call) : Regular p (call.apply p ctx s) where
  wellFormed := hregular.wellFormed.step (call.step p ctx s)
  intents := (call.effect p ctx s).keepsToIntent hregular.intents
  plain := by
    intro intent hmem
    rcases intentIds_apply call intent hmem with ⟨row, hrow, hid⟩ | ⟨n, hid⟩
    · exact hid ▸ hregular.plain row hrow
    · exact hid ▸ isPlain_uuid p n

theorem regular_empty (p : Platform) (botIds : List String) :
    Regular p (MemoryStore.empty botIds) where
  wellFormed := (Reachable.empty botIds : Reachable p .exact _).wellFormed
  intents := fun _ hmem => absurd hmem List.not_mem_nil
  plain := fun _ hmem => absurd hmem List.not_mem_nil

/-- Throughout a history of calls, whatever is closed is hedged exactly when no call ends an
order unevenly. -/
theorem closesHedged_throughout_iff (p : Platform) (ctx : DecimalContext) (botIds : List String)
    (calls : List Call) :
    Runs.Throughout (fun s call => call.apply p ctx s) (ClosesHedged ctx)
        (MemoryStore.empty botIds) calls ↔
      Runs.Along (fun s call => call.apply p ctx s) (EndsEven ctx)
        (MemoryStore.empty botIds) calls := by
  refine Runs.throughout_iff_along_of_kept (regular_empty p botIds)
    (fun s call hregular => hregular.apply call) ?_ fun s call hregular hall => ?_
  · refine (closesHedged_iff (regular_empty p botIds)).mpr fun intentId intent hintent => ?_
    simp [MemoryStore.empty, findIntent] at hintent
  · rw [closesHedged_iff (hregular.apply call)]
    exact evenOnceEnded_apply_iff hregular ((closesHedged_iff hregular).mp hall) call

end Histories

section OneLeg

/-- A buy order that is filled while its sell order is yet to come. -/
def oneLegFilled : List Call :=
  [.createStrategyRun "bot" "arbitrage" "shadow",
    .createOrderIntent { Execution.oneUnitIntent "upbit" "bithumb" with
      strategyRunId := Platform.counting.uuid 0 },
    .createOrder {
      orderIntentId := Platform.counting.uuid 1
      exchangeName := "upbit"
      exchangeOrderId := some "entry"
      market := "XRP-KRW"
      side := "buy"
      requestedPrice := none
      requestedQty := .one
      status := "new"
      rawPayload := [] },
    .createFill {
      orderId := Platform.counting.uuid 2
      exchangeTradeId := none
      fillPrice := .one
      fillQty := .one
      feeAsset := none
      feeAmount := none
      filledAt := "2024-01-01T00:00:00+00:00" }]

/-- The evaluation of the intent while its entry is open. -/
def entryEvaluation : Dict :=
  [("strategy_run_id", .str (Platform.counting.uuid 0)), ("bot_id", .str "bot"),
    ("lifecycle_preview", .str "entry_open"),
    ("persisted_intent", .obj [("intent_id", .str (Platform.counting.uuid 1))])]

/-- The tick closes the evaluation although nothing was sold. -/
theorem tick_closes_one_leg :
    let s := runCalls .counting .default oneLegFilled (MemoryStore.empty ["bot"])
    let redis := Runtime.RedisRuntime.empty.syncArbitrageEvaluation (Platform.counting.uuid 0)
      entryEvaluation "2024-01-01T00:00:00Z"
    Closes (s.reads .default) redis (fun _ => "2024-01-01T00:00:00Z") (Platform.counting.uuid 1) ∧
      ¬Hedged s (Platform.counting.uuid 1) := by
  intro s redis
  have hone : (syncTerminalLatestEvaluations (s.reads .default)
      (fun _ => "2024-01-01T00:00:00Z") redis).1.length = 1 := by decide +kernel
  have hids : ∀ item ∈ (syncTerminalLatestEvaluations (s.reads .default)
      (fun _ => "2024-01-01T00:00:00Z") redis).1,
      persistedIntentId item = Platform.counting.uuid 1 := by decide +kernel
  obtain ⟨item, hitem⟩ := List.exists_mem_of_length_pos (hone ▸ Nat.one_pos)
  refine ⟨.tick hitem (hids item hitem), fun hhedged => ?_⟩
  have hbalanced := hhedged.balanced
  revert hbalanced
  decide +kernel

end OneLeg

end TradingPlatform.Recovery

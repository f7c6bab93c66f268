import TradingPlatform.Execution.SubmitSoundness

/-! # Balance of a hedge

A submit whose lifecycle is reported as balanced or closed should leave the
intent with as much bought as sold. Every adapter that reports it checks each
leg against its own requested quantity only, so the balance is that of the
earlier fills together with the fills just made.
-/

namespace TradingPlatform.Execution

open Storage Exchange

section Quantities

/-- The quantity filled on one side in a list of fills of an intent. -/
def sideQty (intentId side : String) (fills : List Fill) : ℚ :=
  ((fills.filter fun fill => fill.orderIntentId = intentId ∧ fill.side = side).map
    (·.fillQty.value)).sum

variable {intentId side : String}

@[simp] theorem sideQty_nil : sideQty intentId side [] = 0 := rfl

@[simp] theorem sideQty_append (first second : List Fill) :
    sideQty intentId side (first ++ second) =
      sideQty intentId side first + sideQty intentId side second := by
  simp [sideQty]

theorem sideQty_cons (fill : Fill) (rest : List Fill) :
    sideQty intentId side (fill :: rest) =
      (if fill.orderIntentId = intentId ∧ fill.side = side then fill.fillQty.value else 0) +
        sideQty intentId side rest := by
  by_cases hside : fill.orderIntentId = intentId ∧ fill.side = side <;> simp [sideQty, hside]

@[simp] theorem sideQty_reverse (fills : List Fill) :
    sideQty intentId side fills.reverse = sideQty intentId side fills := by
  simp [sideQty, List.filter_reverse, List.sum_reverse]

/-- As much is recorded as bought for the intent as is recorded as sold. -/
def Balanced (intent : OrderIntent) (s : MemoryStore) : Prop :=
  sideQty intent.intentId "buy" s.fills = sideQty intent.intentId "sell" s.fills

/-- The lifecycles that report a balanced hedge. -/
def ReportsBalance (result : ArbitrageSubmitResult) : Prop :=
  result.lifecyclePreview = "hedge_balanced" ∨ result.lifecyclePreview = "closed"

/-- A submit that is reported as balanced or closed left the intent balanced. -/
def BalancedWhenReported (intent : OrderIntent) (run : ConnectorsSubmit MemoryStore) : Prop :=
  ∀ result, run.result = .ok result → ReportsBalance result → Balanced intent run.store

/-- The quantity a response reports as filled on one side. -/
def reportedQty (ctx : DecimalContext) (side : String) (payload : Dict) : ℚ :=
  ((dictItems (fillEntries (payload.get "fills"))).filterMap fun fields =>
    if itemSide fields = side then
      (jsonNumberText ctx (fields.get "fill_qty")).map Numeral.value
    else none).sum

end Quantities

variable {p : Platform} {ctx : DecimalContext} {intent : OrderIntent} {s : MemoryStore}
  {isoNow : Nat → String} {preview : Option String} {payload : Dict}

section Reported

/-- The quantities of recorded fills are those of the entries they record. -/
theorem sideQty_of_recorded {intentId side : String} {values : List Json} {fills : List Fill}
    (hrecorded : List.Forall₂ (fun value fill => ∃ fields, value = .obj fields ∧
      fill.orderIntentId = intentId ∧ fill.side = itemSide fields ∧
      jsonNumberText ctx (fields.get "fill_qty") = some fill.fillQty) values fills) :
    sideQty intentId side fills =
      ((dictItems values).filterMap fun fields =>
        if itemSide fields = side then
          (jsonNumberText ctx (fields.get "fill_qty")).map Numeral.value
        else none).sum := by
  induction hrecorded with
  | nil => rfl
  | @cons value fill values fills hhead _ ih =>
      obtain ⟨fields, rfl, hintent, hside, hqty⟩ := hhead
      have hitems : dictItems (.obj fields :: values) = fields :: dictItems values := rfl
      rw [sideQty_cons, ih, hitems, List.filterMap_cons, hintent, hside]
      by_cases hsame : itemSide fields = side <;> simp [hsame, hqty]

/-- An accepted response adds the quantities it reports to those of the intent. -/
theorem AcceptedRun.sideQty {outcome : SubmitOutcome} {items : List OrderItem}
    {fills : List FillItem} {change : Order → Order} {run : ArbitrageSubmitResult × MemoryStore}
    (hrun : AcceptedRun p ctx isoNow intent s outcome preview payload items fills change run)
    (side : String) :
    sideQty intent.intentId side run.2.fills =
      reportedQty ctx side payload + sideQty intent.intentId side s.fills := by
  rw [hrun.stored, sideQty_append, sideQty_reverse, reportedQty]
  congr 1
  refine sideQty_of_recorded ?_
  have hstored : ∀ fill ∈ run.1.createdFills, fill ∈ run.2.fills := by
    intro fill hmem
    rw [hrun.stored]
    exact List.mem_append_left _ (List.mem_reverse.mpr hmem)
  have hflip := (List.forall₂_and_left _ _).mpr ⟨hstored, hrun.recorded.flip⟩
  refine hflip.flip.imp ?_
  rintro value fill ⟨hfill, fields, rfl, hrecorded⟩
  obtain ⟨order, horder, hid, hside, -⟩ := hrecorded.order
  have hmem : order ∈ run.2.orders := by
    rw [hrun.added]
    exact List.mem_append_right _ horder
  obtain ⟨hintent, hfillSide, -⟩ := hrun.wellFormed.fill_terms hmem hfill hid
  exact ⟨fields, rfl, hintent.trans (hrun.placesBothLegs.ofIntent order horder),
    hfillSide.trans hside, hrecorded.fillQty⟩

/-- A response that reports both legs filled passes every check, and the fills
it reports fill both orders up. -/
def FilledAccepted (p : Platform) (ctx : DecimalContext) (isoNow : Nat → String)
    (intent : OrderIntent) (s : MemoryStore) (payload : Dict) : Prop :=
  validateResponseFilledPayload ctx intent (payload.get "orders") (payload.get "fills") = none ∧
    ∃ read ∈ readResponse p ctx isoNow intent s true payload,
      ∀ entry ∈ plannedIndex p intent s.serial read.1,
        ∃ account ∈ (Account.opened entry.2).takeAll ctx
          (qtysFor FillItem.newFill entry.2.orderId read.2), account.status = "filled"

/-- Two filled orders on both legs pass the checks made after they were persisted. -/
theorem validateAcceptedStates_filled {orders : List Order} {fills : List Fill}
    (hfilled : ∀ order ∈ orders, order.status = "filled")
    (hnamed : ∀ leg ∈ expectedLegs intent, leg.2 ≠ "")
    (hlegs : ∀ leg ∈ expectedLegs intent, ∃ fill ∈ fills,
      Text.lower (Text.strip fill.side) = leg.1 ∧ Text.strip fill.exchangeName = leg.2) :
    validateAcceptedStates .filled intent orders fills = none := by
  refine Option.or_eq_none_iff.mpr ⟨?_, ?_⟩
  · have hnil : (orders.filter fun order =>
        Text.lower (Text.strip order.status) ≠ "filled") = [] := by
      refine List.filter_eq_nil_iff.mpr fun order hmem => ?_
      rw [hfilled order hmem]
      decide +kernel
    simp only [validateFilledOrderStates, hnil]
    rfl
  · have hnil : (expectedLegs intent).filter (· ∉ fills.map fun fill =>
        (Text.lower (Text.strip fill.side), Text.strip fill.exchangeName)) = [] := by
      refine List.filter_eq_nil_iff.mpr fun leg hmem => ?_
      obtain ⟨fill, hfill, hside, hexchange⟩ := hlegs leg hmem
      simp only [decide_not, Bool.not_eq_eq_eq_not, Bool.not_true, decide_eq_false_iff_not, not_not]
      exact List.mem_map.mpr ⟨fill, hfill, Prod.ext hside hexchange⟩
    have hbuy : intent.buyExchange ≠ "" := hnamed ("buy", _) (by simp [expectedLegs])
    have hsell : intent.sellExchange ≠ "" := hnamed ("sell", _) (by simp [expectedLegs])
    simp only [validateFilledLegCoverage, missingFillLegs, hnil]
    simp [hbuy, hsell]

/-- Every leg of filled orders has a fill. -/
theorem exists_fill_of_filled {index : List (LegKey × Order)} {placed : MemoryStore}
    (hplaced : Placed p s index placed) (hmatch : LegsMatch index) {fills : List FillItem}
    (hnone : (createFillItems (memoryStore p ctx) fills placed).refusal = none)
    {entry : LegKey × Order} (hentry : entry ∈ index) (hopened : entry.2.status ≠ "filled")
    {account : Account}
    (htake : (Account.opened entry.2).takeAll ctx
      (qtysFor FillItem.newFill entry.2.orderId fills) = some account)
    (hfilled : account.status = "filled") :
    ∃ fill ∈ (createFillItems (memoryStore p ctx) fills placed).rows.map Prod.snd,
      fill.side = entry.1.1 ∧ fill.exchangeName = entry.1.2 := by
  have hne : qtysFor FillItem.newFill entry.2.orderId fills ≠ [] := by
    intro hnil
    rw [hnil] at htake
    obtain rfl := Option.some.inj htake
    exact hopened hfilled
  obtain ⟨qty, hqty⟩ := List.exists_mem_of_ne_nil _ hne
  obtain ⟨item, hitem, -⟩ := List.mem_map.mp hqty
  obtain ⟨hmem, hid⟩ := List.mem_filter.mp hitem
  rw [← createRows_items_of_noRefusal hnone] at hmem
  obtain ⟨created, hcreated, rfl⟩ := List.mem_map.mp hmem
  have hrow : entry.2 ∈ placed.orders := by
    rw [hplaced.orders]
    exact List.mem_append_right _ (List.mem_map_of_mem hentry)
  obtain ⟨-, hside, hexchange⟩ := createFills_terms FillItem.newFill fills
    hplaced.after hcreated hrow (of_decide_eq_true hid).symm
  refine ⟨created.2, List.mem_map_of_mem hcreated, ?_, ?_⟩
  · rw [hside, hmatch entry hentry]
  · rw [hexchange, hmatch entry hentry]

/-- A valid filled payload has a list of fills. -/
theorem fillList_of_validate {ordersPayload fillsPayload : Json}
    (hvalid : validateResponseFilledPayload ctx intent ordersPayload fillsPayload = none) :
    fillsPayload = .null ∨ ∃ values, fillsPayload = .arr values := by
  cases fillsPayload with
  | arr values => exact Or.inr ⟨values, rfl⟩
  | null => exact Or.inl rfl
  | bool | int | float | str | obj => simp [validateResponseFilledPayload] at hvalid

/-- Orders of a filled response are placed before they are filled. -/
theorem AcceptedItems.not_filled {orders : List Json} {items : List OrderItem} {mode : String}
    (haccepted : AcceptedItems ctx s intent true mode orders items) {serial : Nat}
    {entry : LegKey × Order} (hentry : entry ∈ plannedIndex p intent serial items) :
    entry.2.status ≠ "filled" := by
  obtain ⟨item, hitem, -, n, hrow⟩ := mem_plannedIndex hentry
  obtain ⟨fields, -, hread⟩ := (readItems_of_ok haccepted.1).exists_fields hitem
  have hstatus : entry.2.status = item.status := by
    rw [hrow]
    rfl
  rw [hstatus, hread.status]
  split
  · decide
  next hnot => simpa using hnot

variable (isoNow) (preview) in
/-- A response is accepted as filled exactly when it passes every check and its
fills fill both orders up. -/
theorem submitAcceptedResponse_filled_iff (hwf : MemoryStore.WellFormed p s)
    (hrec : s.Records intent) (auto : Bool) :
    (submitAcceptedResponse (memoryStore p ctx) ctx isoNow .filled preview intent auto payload
        s).1.outcome = .filled ↔
      FilledAccepted p ctx isoNow intent s payload := by
  constructor
  · intro hfilled
    obtain ⟨items, fills, change, hrun⟩ :=
      submitAcceptedResponse_accepted ctx isoNow .filled preview payload hwf hrec auto
        (by rw [hfilled]; simp)
    refine ⟨hrun.valid, (items, fills), hrun.read, fun entry hentry => ⟨_, hrun.takeAll hentry, ?_⟩⟩
    refine (hrun.settled ?_).1
    rw [hrun.orders]
    exact List.mem_map.mpr ⟨entry, hentry, rfl⟩
  · rintro ⟨hvalid, ⟨items, fills⟩, hread, htakes⟩
    obtain ⟨orders, horders, haccepted, htwo, hfills⟩ := readResponse_eq_some.mp hread
    have hne : orders ≠ [] := by
      rintro rfl
      obtain rfl := Except.ok.inj haccepted.1
      exact absurd htwo (by simp)
    obtain ⟨herror, hindex, hplaced⟩ := placed_of_accepted ctx hwf hrec haccepted hne
    have hlegs := (validateRequiredArbitrageLegs_planned (p := p) haccepted s.serial true).mpr htwo
    have htaken : TakesFills ctx (plannedIndex p intent s.serial items) fills := by
      intro entry hentry
      obtain ⟨account, haccount, -⟩ := htakes entry hentry
      rw [Option.mem_def.mp haccount]
      rfl
    have hfillsRead := readFills_of_ok hfills
    have hnone := (createFillItems_memory hplaced hfillsRead).1.mpr htaken
    have hrows := createFillsFromResponse_eq hplaced (fillList_of_validate hvalid) hfills htaken
    obtain ⟨change, hrestamps, hrefreshed, hadded, haccounts, -, -, hafter⟩ :=
      createFillItems_accepted hplaced (plannedIndex_legsMatch _ _) hfillsRead hnone
    -- an order that ends filled has been given a fill on its leg
    have hcover : ∀ entry ∈ plannedIndex p intent s.serial items,
        ∃ fill ∈ (createFillItems (memoryStore p ctx) fills (createOrdersFromResponse
            (memoryStore p ctx) ctx intent (.arr orders) true "private_http" s).store).rows.map
              Prod.snd,
          fill.side = entry.1.1 ∧ fill.exchangeName = entry.1.2 := by
      intro entry hentry
      obtain ⟨account, haccount, hfilled⟩ := htakes entry hentry
      exact exists_fill_of_filled hplaced (plannedIndex_legsMatch _ _) hnone hentry
        (haccepted.not_filled hentry) haccount hfilled
    have hfilled : ∀ order ∈ (plannedIndex p intent s.serial items).map fun entry => change entry.2,
        order.status = "filled" := by
      intro order hmem
      obtain ⟨entry, hentry, rfl⟩ := List.mem_map.mp hmem
      obtain ⟨account, haccount, hstatus⟩ := htakes entry hentry
      have hrow : change entry.2 ∈ (createFillItems (memoryStore p ctx) fills
          (createOrdersFromResponse (memoryStore p ctx) ctx intent (.arr orders) true "private_http"
            s).store).store.orders := by
        rw [hadded, hrefreshed]
        exact List.mem_append_right _ hmem
      have haccount' := haccounts entry hentry
      rw [haccount, ← hrestamps.orderId entry.2, account_of_mem hafter hrow] at haccount'
      rw [← Option.some.inj haccount'] at hstatus
      exact hstatus
    -- the planned legs are the expected ones, in some order
    have hfillOf : ∀ leg ∈ expectedLegs intent,
        ∃ fill ∈ (createFillItems (memoryStore p ctx) fills (createOrdersFromResponse
            (memoryStore p ctx) ctx intent (.arr orders) true "private_http" s).store).rows.map
              Prod.snd,
          Text.lower (Text.strip fill.side) = leg.1 ∧ Text.strip fill.exchangeName = leg.2 := by
      intro leg hleg
      have hmem : leg ∈ (plannedIndex p intent s.serial items).map Prod.fst := by
        rw [plannedIndex_legs _]
        exact (haccepted.legs_perm htwo).mem_iff.mpr hleg
      obtain ⟨entry, hentry, rfl⟩ := List.mem_map.mp hmem
      obtain ⟨fill, hfill, hside, hexchange⟩ := hcover entry hentry
      refine ⟨fill, hfill, ?_, ?_⟩
      · rw [hside]
        simp only [expectedLegs, List.mem_cons, List.not_mem_nil, or_false] at hleg
        rcases hleg with hbuy | hsell
        · rw [hbuy]
          exact (by decide +kernel : Text.lower (Text.strip "buy") = "buy")
        · rw [hsell]
          exact (by decide +kernel : Text.lower (Text.strip "sell") = "sell")
      · rw [hexchange]
        exact (haccepted.named htwo _ hleg).2
    have hstates := validateAcceptedStates_filled hfilled
      (fun leg hleg => (haccepted.named htwo leg hleg).1) hfillOf
    obtain ⟨fill, hfill, -⟩ := hfillOf ("buy", intent.buyExchange) (by simp [expectedLegs])
    rw [horders] at hvalid
    simp only [submitAcceptedResponse, validateAcceptedPayload, hvalid, horders, decide_true,
      herror, OrdersCreation.createdOrders, hindex, hlegs, hrows, List.ne_nil_of_mem hfill,
      and_false, if_false, hrefreshed, hstates]

end Reported

section PrivateHttp

theorem not_reportsBalance_failure (auto : Bool) (details : Dict) (orders : List Order)
    (fills : List Fill) : ¬ ReportsBalance (submitFailureResult auto details orders fills) := by
  obtain ⟨hbalanced, hclosed⟩ := submitFailureResult_lifecycle auto details orders fills
  exact fun hreports => hreports.elim hbalanced hclosed

theorem not_reportsBalance_failureResult (auto : Bool) (mode reason : String) (details : Dict)
    (orders : List Order) (fills : List Fill) :
    ¬ ReportsBalance (failureResult auto mode reason details orders fills) :=
  not_reportsBalance_failure _ _ _ _

variable {σ : Type} {P : StoreProtocol σ}

theorem submitFailedResponse_lifecycle (ctx : DecimalContext) (isoNow : Nat → String)
    (intent : OrderIntent) (auto : Bool) (payload : Dict) (s : σ) :
    ¬ ReportsBalance (submitFailedResponse P ctx isoNow intent auto payload s).1 := by
  simp only [submitFailedResponse]
  split
  · exact not_reportsBalance_failureResult _ _ _ _ _ _
  · split
    · split
      · exact not_reportsBalance_failureResult _ _ _ _ _ _
      · split <;> exact not_reportsBalance_failureResult _ _ _ _ _ _
    · exact not_reportsBalance_failureResult _ _ _ _ _ _

theorem submitAcceptedResponse_lifecycle (ctx : DecimalContext) (isoNow : Nat → String)
    {outcome : SubmitOutcome} (preview : Option String) (intent : OrderIntent) (auto : Bool)
    (payload : Dict) (s : σ)
    (hreports : ReportsBalance
      (submitAcceptedResponse P ctx isoNow outcome preview intent auto payload s).1) :
    (submitAcceptedResponse P ctx isoNow outcome preview intent auto payload s).1.outcome =
      outcome := by
  revert hreports
  simp only [submitAcceptedResponse]
  split
  · exact fun hreports => absurd hreports (not_reportsBalance_failureResult _ _ _ _ _ _)
  · split
    · exact fun hreports => absurd hreports (not_reportsBalance_failureResult _ _ _ _ _ _)
    · split
      · exact fun hreports => absurd hreports (not_reportsBalance_failureResult _ _ _ _ _ _)
      · split
        · exact fun hreports => absurd hreports (not_reportsBalance_failureResult _ _ _ _ _ _)
        · split
          · exact fun hreports => absurd hreports (not_reportsBalance_failureResult _ _ _ _ _ _)
          · split
            · exact fun hreports => absurd hreports (not_reportsBalance_failureResult _ _ _ _ _ _)
            · exact fun _ => rfl

/-- Only a submit that is not reported as failed reports a balance. -/
theorem submitPrivateHttp_outcome_of_balance {url : Option String} {response : Except String Dict}
    {auto : Bool} {s : σ}
    (hreports : ReportsBalance (submitPrivateHttp P ctx isoNow url response intent auto s).1) :
    (submitPrivateHttp P ctx isoNow url response intent auto s).1.outcome ≠ .submitFailed := by
  unfold submitPrivateHttp at hreports ⊢
  split_ifs at hreports ⊢
  · exact absurd hreports (not_reportsBalance_failureResult _ _ _ _ _ _)
  · cases response with
    | error reason => exact absurd hreports (not_reportsBalance_failureResult _ _ _ _ _ _)
    | ok payload =>
        simp only [submitResponse] at hreports ⊢
        split at hreports
        · exact absurd hreports (not_reportsBalance_failureResult _ _ _ _ _ _)
        next outcome houtcome =>
          split at hreports
          · exact absurd hreports (not_reportsBalance_failureResult _ _ _ _ _ _)
          next hpreview =>
            cases outcome with
            | submitFailed =>
                exact absurd hreports
                  (submitFailedResponse_lifecycle ctx isoNow intent auto payload s)
            | submitted =>
                rw [submitAcceptedResponse_lifecycle ctx isoNow _ intent auto payload s hreports]
                simp
            | filled =>
                rw [submitAcceptedResponse_lifecycle ctx isoNow _ intent auto payload s hreports]
                simp

/-- When the executor's response is accepted as filled, the earlier fills of the
intent and the reported ones are balanced together. -/
def HttpBalances (p : Platform) (ctx : DecimalContext) (isoNow : Nat → String)
    (intent : OrderIntent) (s : MemoryStore) (url : Option String) (response : Except String Dict) :
    Prop :=
  ∀ payload, url.getD "" ≠ "" → response = .ok payload →
    Text.lower ((jsonText (payload.get "outcome")).getD "submitted") = "filled" →
    validateLifecyclePreview "filled" (jsonText (payload.get "lifecycle_preview")) = none →
    FilledAccepted p ctx isoNow intent s payload →
      reportedQty ctx "buy" payload + sideQty intent.intentId "buy" s.fills =
        reportedQty ctx "sell" payload + sideQty intent.intentId "sell" s.fills

theorem submitPrivateHttp_balanced_iff (hwf : MemoryStore.WellFormed p s) (hrec : s.Records intent)
    (url : Option String) (response : Except String Dict) (auto : Bool) :
    (ReportsBalance
        (submitPrivateHttp (memoryStore p ctx) ctx isoNow url response intent auto s).1 →
      Balanced intent
        (submitPrivateHttp (memoryStore p ctx) ctx isoNow url response intent auto s).2) ↔
      HttpBalances p ctx isoNow intent s url response := by
  constructor
  · rintro hbalanced payload hurl rfl houtcome hpreview haccepted
    have hfilled := (submitAcceptedResponse_filled_iff isoNow
      (jsonText (payload.get "lifecycle_preview")) hwf hrec auto).mpr haccepted
    obtain ⟨items, fills, change, hrun⟩ :=
      submitAcceptedResponse_accepted ctx isoNow .filled _ _ hwf hrec auto (by rw [hfilled]; simp)
    have hsubmit : submitPrivateHttp (memoryStore p ctx) ctx isoNow url
      (.ok payload) intent auto s =
        submitAcceptedResponse (memoryStore p ctx) ctx isoNow .filled
          (jsonText (payload.get "lifecycle_preview")) intent auto payload s := by
      simp only [submitPrivateHttp, hurl, if_false, submitResponse, houtcome, SubmitOutcome.ofText?,
        hpreview]
    rw [hsubmit] at hbalanced
    have hreports := (hrun.soundFilled hpreview).lifecycle
    have hequal := hbalanced (by simpa [ReportsBalance] using hreports)
    rw [Balanced, hrun.sideQty, hrun.sideQty] at hequal
    exact hequal
  · intro hbalances hreports
    obtain ⟨payload, outcome, items, fills, change, hurl, hresponse, houtcome, hpreview, hrun⟩ :=
      submitPrivateHttp_accepted ctx isoNow hwf hrec url response auto
        (submitPrivateHttp_outcome_of_balance hreports)
    have htext := SubmitOutcome.ofText?_eq_some houtcome
    rw [htext] at hpreview
    cases outcome with
    | submitFailed =>
        exact absurd hrun.reported (submitPrivateHttp_outcome_of_balance hreports)
    | submitted =>
        have hlifecycle := (hrun.soundSubmitted hpreview).lifecycle
        rcases hreports with hreports | hreports <;> simp [hreports] at hlifecycle
    | filled =>
        rw [Balanced, hrun.sideQty, hrun.sideQty]
        refine hbalances payload hurl hresponse htext hpreview ⟨hrun.valid, (items, fills),
          hrun.read, fun entry hentry => ⟨_, hrun.takeAll hentry, (hrun.settled ?_).1⟩⟩
        rw [hrun.orders]
        exact List.mem_map.mpr ⟨entry, hentry, rfl⟩

end PrivateHttp

section Simulated

variable {token filledAt : Nat → String} {decision : SubmitDecision}

/-- The row of a simulated order. -/
def simulatedRow (p : Platform) (token : Nat → String) (intent : OrderIntent) (serial : Nat)
    (leg : Nat × String × String) : Order :=
  MemoryStore.orderRow p serial intent (simulatedOrder token intent leg)

/-- The rows of the two simulated orders under their legs. -/
def simulatedIndex (p : Platform) (token : Nat → String) (intent : OrderIntent) (serial : Nat) :
    List (LegKey × Order) :=
  [(("buy", intent.buyExchange), simulatedRow p token intent serial (0, "buy", intent.buyExchange)),
    (("sell", intent.sellExchange),
      simulatedRow p token intent (serial + 1) (1, "sell", intent.sellExchange))]

/-- The identifiers simulated orders get at their exchanges are not in use. -/
def SimulatedIdsFree (token : Nat → String) (intent : OrderIntent) (s : MemoryStore) : Prop :=
  s.findExchangeOrder intent.buyExchange (some ("sim-buy-" ++ token 0)) = none ∧
    s.findExchangeOrder intent.sellExchange (some ("sim-sell-" ++ token 1)) = none

theorem simulatedIds_ne (buyToken sellToken : String) :
    "sim-buy-" ++ buyToken ≠ "sim-sell-" ++ sellToken := by
  intro heq
  have hlists := congrArg String.toList heq
  simp at hlists

theorem findExchangeOrder_addOrder {order : Order} {exchangeName id : String}
    (hne : order.exchangeOrderId ≠ some id) :
    (s.addOrder order).findExchangeOrder exchangeName (some id) =
      s.findExchangeOrder exchangeName (some id) := by
  simp [MemoryStore.findExchangeOrder, hne]

theorem createOrder_refused (new : NewOrder)
    (htaken : s.findExchangeOrder new.exchangeName new.exchangeOrderId ≠ none) :
    (MemoryStore.createOrder p new s).1.createdRow = none := by
  rcases MemoryStore.createOrder_cases p new s with ⟨_, -, -, -, hfree, -⟩ | ⟨hnot, -⟩
  · exact absurd hfree htaken
  · exact StoreAnswer.createdRow_of_ne hnot

variable (ctx) (token) in
/-- Both simulated orders are placed exactly when their identifiers are free. -/
theorem createSimulatedOrders_memory (hwf : MemoryStore.WellFormed p s) (hrec : s.Records intent) :
    let run := createSimulatedOrders (memoryStore p ctx) token intent s
    (SimulatedIdsFree token intent s ∧ run.refusal = none ∧
      run.rows.map Prod.snd = (simulatedIndex p token intent s.serial).map Prod.snd ∧
      Placed p s (simulatedIndex p token intent s.serial) run.store) ∨
    (¬ SimulatedIdsFree token intent s ∧ run.refusal ≠ none) := by
  have hbuyId : (simulatedOrder token intent (0, "buy", intent.buyExchange)).exchangeOrderId =
      some ("sim-buy-" ++ token 0) := rfl
  have hsellId : (simulatedOrder token intent (1, "sell", intent.sellExchange)).exchangeOrderId =
      some ("sim-sell-" ++ token 1) := rfl
  simp only [createSimulatedOrders, simulatedLegs]
  by_cases hbuy : s.findExchangeOrder intent.buyExchange (some ("sim-buy-" ++ token 0)) = none
  · have hfirst := hrec.createOrder_eq (p := p)
      (simulatedOrder token intent (0, "buy", intent.buyExchange)) rfl rfl (Or.inl rfl)
      (by rw [hbuyId]; exact hbuy)
    have hrec' :=
      hrec.createOrder (p := p) (simulatedOrder token intent (0, "buy", intent.buyExchange))
    rw [hfirst] at hrec'
    have hsame : (s.addOrder (simulatedRow p token intent s.serial
          (0, "buy", intent.buyExchange))).findExchangeOrder intent.sellExchange
            (some ("sim-sell-" ++ token 1)) =
        s.findExchangeOrder intent.sellExchange (some ("sim-sell-" ++ token 1)) :=
      findExchangeOrder_addOrder (by
        intro heq
        exact simulatedIds_ne (token 0) (token 1) (Option.some.inj heq))
    by_cases hsell : s.findExchangeOrder intent.sellExchange (some ("sim-sell-" ++ token 1)) = none
    · have hsecond := hrec'.createOrder_eq (p := p)
        (simulatedOrder token intent (1, "sell", intent.sellExchange)) rfl rfl (Or.inr rfl)
        (by rw [hsellId]; exact hsame.trans hsell)
      left
      simp only [createRows, memoryStore, hfirst, hsecond, StoreAnswer.createdRow_created]
      exact ⟨⟨hbuy, hsell⟩, trivial, rfl,
        ⟨by simp [simulatedIndex, simulatedRow], rfl, hwf, (hwf.addOrder rfl).addOrder rfl⟩⟩
    · right
      refine ⟨fun hfree => hsell hfree.2, ?_⟩
      have hsecond := createOrder_refused (p := p)
        (simulatedOrder token intent (1, "sell", intent.sellExchange))
        (by rw [hsellId]; exact fun hnone => hsell (hsame.symm.trans hnone))
      rw [simulatedRow] at hsecond
      simp [createRows, memoryStore, hfirst, hsecond]
  · right
    refine ⟨fun hfree => hbuy hfree.1, ?_⟩
    have hfirst := createOrder_refused (p := p)
      (simulatedOrder token intent (0, "buy", intent.buyExchange)) (by rw [hbuyId]; exact hbuy)
    simp [createRows, memoryStore, hfirst]

/-- The two simulated fills. -/
def simulatedSpecs (p : Platform) (token : Nat → String) (intent : OrderIntent) (serial : Nat)
    (edge : EdgePrices) : List (Nat × Order × Numeral) :=
  simulatedFillSpecs edge ((simulatedIndex p token intent serial).map Prod.snd)

variable (intent) (token) in
theorem simulatedRow_ids_ne (serial : Nat) :
    (simulatedRow p token intent serial (0, "buy", intent.buyExchange)).orderId ≠
      (simulatedRow p token intent (serial + 1) (1, "sell", intent.sellExchange)).orderId :=
  fun heq => Nat.succ_ne_self serial (p.uuid_injective heq).symm

variable (filledAt) in
/-- Each simulated fill is for a simulated order and for all of it. -/
theorem simulatedSpecs_spec {serial : Nat} {edge : EdgePrices} {item : Nat × Order × Numeral}
    (hmem : item ∈ simulatedSpecs p token intent serial edge) :
    ∃ entry ∈ simulatedIndex p token intent serial,
      (simulatedFill token filledAt item).orderId = entry.2.orderId ∧
      (simulatedFill token filledAt item).fillQty = intent.targetQty := by
  simp only [simulatedSpecs, simulatedFillSpecs, simulatedIndex, List.map_cons, List.map_nil,
    List.zip_cons_cons, List.zip_nil_right, List.mem_cons, List.not_mem_nil, or_false] at hmem
  rcases hmem with rfl | rfl
  · exact ⟨_, List.mem_cons_self, rfl, rfl⟩
  · exact ⟨_, List.mem_cons_of_mem _ List.mem_cons_self, rfl, rfl⟩

/-- The quantity of the one fill of each simulated order. -/
theorem qtysFor_simulatedSpecs {serial : Nat} {edge : EdgePrices} {entry : LegKey × Order}
    (hentry : entry ∈ simulatedIndex p token intent serial) :
    qtysFor (simulatedFill token filledAt) entry.2.orderId
      (simulatedSpecs p token intent serial edge) = [intent.targetQty.value] := by
  have hne := simulatedRow_ids_ne (p := p) intent token serial
  simp only [simulatedIndex, List.mem_cons, List.not_mem_nil, or_false] at hentry
  rcases hentry with rfl | rfl
  · simp [qtysFor, simulatedSpecs, simulatedFillSpecs, simulatedIndex, simulatedFill, hne.symm]
    rfl
  · simp [qtysFor, simulatedSpecs, simulatedFillSpecs, simulatedIndex, simulatedFill, hne]
    rfl

theorem takeAll_simulated {serial : Nat} {entry : LegKey × Order}
    (hentry : entry ∈ simulatedIndex p token intent serial) :
    ((Account.opened entry.2).takeAll ctx [intent.targetQty.value]).isSome ↔
      ¬ intent.targetQty.value < ctx.add 0 intent.targetQty.value := by
  have hrow : Account.opened entry.2 = ⟨intent.targetQty.value, "new", []⟩ := by
    simp only [simulatedIndex, List.mem_cons, List.not_mem_nil, or_false] at hentry
    rcases hentry with rfl | rfl <;> rfl
  have hlive : "new" ∉ terminalOrderStatuses := by decide +kernel
  rw [hrow]
  by_cases hover : intent.targetQty.value < ctx.add 0 intent.targetQty.value
  · simp [Account.takeAll, Account.take, DecimalContext.sum, hlive, hover]
  · simp [Account.takeAll, Account.take, DecimalContext.sum, hlive, hover]

variable (ctx) (filledAt) in
/-- Simulated fills are refused when rounding makes the quantity exceed itself,
and otherwise add the target quantity to both sides. -/
theorem createSimulatedFills_memory (edge : EdgePrices) {placed : MemoryStore}
    (hplaced : Placed p s (simulatedIndex p token intent s.serial) placed) :
    let run := createSimulatedFills (memoryStore p ctx) token filledAt edge
      ((simulatedIndex p token intent s.serial).map Prod.snd) placed
    (run.refusal = none ↔ ¬ intent.targetQty.value < ctx.add 0 intent.targetQty.value) ∧
      (run.refusal = none → ∀ side, side = "buy" ∨ side = "sell" →
        sideQty intent.intentId side run.store.fills =
          intent.targetQty.value + sideQty intent.intentId side s.fills) := by
  intro run
  have hne := simulatedRow_ids_ne (p := p) intent token s.serial
  -- the orders are new: no fill of theirs has been recorded
  have hfresh : FreshTrades (simulatedFill token filledAt) placed
      (simulatedSpecs p token intent s.serial edge) := by
    refine ⟨?_, fun item hmem key hkey hold => ?_⟩
    · simp [simulatedSpecs, simulatedFillSpecs, simulatedIndex, simulatedFill, NewFill.tradeKey,
      hne]
    · obtain ⟨entry, hentry, hid, -⟩ := simulatedSpecs_spec filledAt hmem
      obtain ⟨id, -, rfl⟩ := Option.map_eq_some_iff.mp hkey
      obtain ⟨fill, hfill, hsame⟩ := List.mem_filterMap.mp hold
      obtain ⟨_, -, hpair⟩ := Option.map_eq_some_iff.mp hsame
      exact hplaced.no_fill hentry fill hfill ((congrArg Prod.fst hpair).trans hid)
  have hknown : ∀ item ∈ simulatedSpecs p token intent s.serial edge,
      (placed.account (simulatedFill token filledAt item).orderId).isSome := by
    intro item hmem
    obtain ⟨entry, hentry, hid, -⟩ := simulatedSpecs_spec filledAt hmem
    rw [hid, hplaced.account hentry]
    rfl
  obtain ⟨hiff, -⟩ := createFills_accounts (p := p) ctx
    (simulatedSpecs p token intent s.serial edge) hfresh hknown
  constructor
  · refine hiff.trans ⟨fun hall => ?_, fun hover id account haccount => ?_⟩
    · have hentry : (("buy", intent.buyExchange), simulatedRow p token intent s.serial
          (0, "buy", intent.buyExchange)) ∈ simulatedIndex p token intent s.serial :=
        List.mem_cons_self
      have hsome := hall _ _ (hplaced.account hentry)
      rwa [qtysFor_simulatedSpecs hentry, takeAll_simulated hentry] at hsome
    · by_cases hid : ∃ entry ∈ simulatedIndex p token intent s.serial, entry.2.orderId = id
      · obtain ⟨entry, hentry, rfl⟩ := hid
        obtain rfl := Option.some.inj ((hplaced.account hentry).symm.trans haccount)
        rw [qtysFor_simulatedSpecs hentry]
        exact (takeAll_simulated hentry).mpr hover
      · have hnil : qtysFor (simulatedFill token filledAt) id
            (simulatedSpecs p token intent s.serial edge) = [] := by
          simp only [qtysFor, List.map_eq_nil_iff, List.filter_eq_nil_iff, decide_eq_true_eq]
          intro item hmem heq
          obtain ⟨entry, hentry, hsame, -⟩ := simulatedSpecs_spec filledAt hmem
          exact hid ⟨entry, hentry, hsame.symm.trans heq⟩
        rw [hnil]
        rfl
  · intro hnone side hside
    have hitems : run.rows.map Prod.fst = simulatedSpecs p token intent s.serial edge :=
      createRows_items_of_noRefusal hnone
    have hfills : run.store.fills = (run.rows.map Prod.snd).reverse ++ placed.fills :=
      createFills_fills _ placed
    obtain ⟨-, hrepeats⟩ := createFills_rows ctx (simulatedFill token filledAt)
      (simulatedSpecs p token intent s.serial edge) hplaced.after
    -- each fill takes its terms from the order that it fills
    have hrow : ∀ entry ∈ simulatedIndex p token intent s.serial, ∀ created ∈ run.rows,
        (simulatedFill token filledAt created.1).orderId = entry.2.orderId →
          created.2.orderIntentId = intent.intentId ∧ created.2.side = entry.1.1 ∧
            created.2.fillQty.value = intent.targetQty.value := by
      intro entry hentry created hcreated hid
      have horder : entry.2 ∈ placed.orders := by
        rw [hplaced.orders]
        exact List.mem_append_right _ (List.mem_map_of_mem hentry)
      obtain ⟨hintent, hside, -⟩ := createFills_terms (simulatedFill token filledAt)
        (simulatedSpecs p token intent s.serial edge) hplaced.after hcreated horder hid.symm
      have hitem : created.1 ∈ simulatedSpecs p token intent s.serial edge :=
        hitems ▸ List.mem_map_of_mem hcreated
      obtain ⟨-, -, -, hqty⟩ := simulatedSpecs_spec filledAt hitem
      have hterms : entry.2.orderIntentId = intent.intentId ∧ entry.2.side = entry.1.1 := by
        simp only [simulatedIndex, List.mem_cons, List.not_mem_nil, or_false] at hentry
        rcases hentry with rfl | rfl <;> exact ⟨rfl, rfl⟩
      exact ⟨hintent.trans hterms.1, hside.trans hterms.2,
        congrArg Numeral.value ((hrepeats created hcreated).fillQty.trans hqty)⟩
    obtain ⟨first, rest, hrows, hfirst, hrest⟩ := List.map_eq_cons_iff.mp hitems
    obtain ⟨second, last, rfl, hsecond, hlast⟩ := List.map_eq_cons_iff.mp hrest
    obtain rfl := List.map_eq_nil_iff.mp hlast
    obtain ⟨hintent, hbuy, hqty⟩ := hrow _ List.mem_cons_self first (by simp [hrows])
      (by rw [hfirst]; rfl)
    obtain ⟨hintent', hsell, hqty'⟩ := hrow _ (List.mem_cons_of_mem _ List.mem_cons_self) second
      (by simp [hrows]) (by rw [hsecond]; rfl)
    rw [hfills, hrows, hplaced.fills, sideQty_append, sideQty_reverse]
    simp only [List.map_cons, List.map_nil, sideQty_cons, sideQty_nil, hintent, hbuy, hqty,
      hintent', hsell, hqty']
    rcases hside with rfl | rfl <;> simp

/-- When the simulated adapter fills both orders, the intent was balanced before. -/
def SimulatedBalances (ctx : DecimalContext) (token : Nat → String) (decision : SubmitDecision)
    (intent : OrderIntent) (mode : String) (s : MemoryStore) : Prop :=
  Text.lower (Text.strip mode) = "simulate_fill" → decision.executableEdge ≠ none →
    SimulatedIdsFree token intent s →
    ¬ intent.targetQty.value < ctx.add 0 intent.targetQty.value → Balanced intent s

variable (filledAt) in
theorem submitArbitrageOrders_balanced_iff (hwf : MemoryStore.WellFormed p s)
    (hrec : s.Records intent) (mode : String) (auto : Bool) :
    (ReportsBalance
        (submitArbitrageOrders (memoryStore p ctx) token filledAt decision intent mode auto s).1 →
      Balanced intent
        (submitArbitrageOrders (memoryStore p ctx) token filledAt decision intent mode auto s).2) ↔
      SimulatedBalances ctx token decision intent mode s := by
  have hsilent : ∀ result : ArbitrageSubmitResult, ∀ placed : MemoryStore, ¬ ReportsBalance result →
      (ReportsBalance result → Balanced intent placed) :=
    fun _ _ hnot hreports => absurd hreports hnot
  unfold SimulatedBalances
  simp only [submitArbitrageOrders]
  split
  next hfailure =>
    refine iff_of_true (hsilent _ _ (not_reportsBalance_failure _ _ _ _)) fun hfill => ?_
    exact absurd (hfailure.symm.trans hfill) (by decide)
  next =>
    rcases createSimulatedOrders_memory (p := p) ctx token hwf hrec with
      ⟨hfree, hnone, hrows, hplaced⟩ | ⟨hnot, hrefused⟩
    · simp only [hnone, hrows]
      split
      next hfill =>
        split
        next hedge =>
          exact iff_of_true (hsilent _ _ (not_reportsBalance_failure _ _ _ _)) (by simp [hedge])
        next edge hedge =>
          obtain ⟨hiff, hqty⟩ := createSimulatedFills_memory ctx filledAt edge hplaced
          split
          next hsome =>
            refine iff_of_true (hsilent _ _ (not_reportsBalance_failure _ _ _ _)) ?_
            intro _ _ _ hover
            rw [hiff.mpr hover] at hsome
            exact absurd hsome (by simp)
          next hfilled =>
            have hbalanced : Balanced intent
              (createSimulatedFills (memoryStore p ctx) token filledAt
                edge ((simulatedIndex p token intent s.serial).map Prod.snd)
                (createSimulatedOrders (memoryStore p ctx) token intent s).store).store ↔
                  Balanced intent s := by
              rw [Balanced, Balanced, hqty hfilled "buy" (Or.inl rfl),
                hqty hfilled "sell" (Or.inr rfl), add_right_inj]
            rw [hbalanced]
            exact ⟨fun hreports _ _ _ _ => hreports (Or.inl rfl), fun hbefore _ =>
              hbefore hfill (by simp [hedge]) hfree (hiff.mp hfilled)⟩
      next hother =>
        refine iff_of_true (hsilent _ _ ?_) fun hfill => absurd hfill hother
        simp [ReportsBalance]
    · obtain ⟨refused, hrefused⟩ := Option.ne_none_iff_exists'.mp hrefused
      simp only [hrefused]
      exact iff_of_true (hsilent _ _ (not_reportsBalance_failure _ _ _ _))
        fun _ _ hfree => absurd hfree hnot

end Simulated

section Submit

variable {σ : Type} {P : StoreProtocol σ}

theorem submitLegs_lifecycle (ctx : DecimalContext)
    (connectors : List (String × PrivateExchangeConnector)) (intent : OrderIntent) (auto : Bool)
    (legs : List ConnectorLeg) (created : List Order) (s : σ) :
    ∀ result, (submitLegs P ctx connectors intent auto legs created s).outcome = .failed result →
      ¬ ReportsBalance result := by
  induction legs generalizing created s with
  | nil => simp [submitLegs]
  | cons leg rest ih =>
      simp only [submitLegs]
      split
      · rintro result ⟨⟩
        exact not_reportsBalance_failureResult _ _ _ _ _ _
      · split
        · simp
        · split
          · rintro result ⟨⟩
            exact not_reportsBalance_failureResult _ _ _ _ _ _
          · split
            · simp
            · split
              · rintro result ⟨⟩
                exact not_reportsBalance_failureResult _ _ _ _ _ _
              · exact ih _ _

/-- The private_connectors adapter never reports a balance. -/
theorem submitPrivateConnectors_lifecycle (ctx : DecimalContext)
    (connectors : List (String × PrivateExchangeConnector)) (decision : SubmitDecision)
    (intent : OrderIntent) (auto : Bool) (s : σ) :
    ∀ result, (submitPrivateConnectors P ctx connectors decision intent auto s).result =
      .ok result →
      ¬ ReportsBalance result := by
  simp only [submitPrivateConnectors]
  split
  · rintro result ⟨⟩
    exact not_reportsBalance_failureResult _ _ _ _ _ _
  next edge hedge =>
    have hlegs := submitLegs_lifecycle (P := P) ctx connectors intent auto
      (connectorLegs intent edge)
      [] s
    split
    · simp
    next result houtcome =>
      rintro other ⟨⟩
      exact hlegs result houtcome
    · split
      · rintro result ⟨⟩
        exact not_reportsBalance_failureResult _ _ _ _ _ _
      · rintro result ⟨⟩
        simp [ReportsBalance]

/-- When a submit that fills an intent leaves it balanced: simulated fills, when
the intent was balanced before; reported ones, when they and the earlier fills
are balanced together. The other adapters fill nothing. -/
def SubmitBalances (p : Platform) (ctx : DecimalContext) (adapter : SubmitAdapter)
    (decision : SubmitDecision) (intent : OrderIntent) (s : MemoryStore) : Prop :=
  match adapter with
  | .simulated mode token _ => SimulatedBalances ctx token decision intent mode s
  | .privateHttp url response isoNow => HttpBalances p ctx isoNow intent s url response
  | .privateConnectors _ => True
  | .privateStub => True

/-- A submit reported as balanced or closed leaves the intent balanced exactly
when its earlier fills together with the ones just made are. -/
theorem submit_balanced_iff (hreach : MemoryStore.Reachable p ctx s) (hrec : s.Records intent)
    (adapter : SubmitAdapter) (decision : SubmitDecision) (auto : Bool) :
    BalancedWhenReported intent (adapter.submit (memoryStore p ctx) ctx decision intent auto s) ↔
      SubmitBalances p ctx adapter decision intent s := by
  cases adapter with
  | simulated mode token filledAt =>
      refine Iff.trans ?_ (submitArbitrageOrders_balanced_iff filledAt
        hreach.wellFormed hrec mode auto)
      simp [BalancedWhenReported, SubmitAdapter.submit]
  | privateHttp url response isoNow =>
      refine Iff.trans ?_ (submitPrivateHttp_balanced_iff hreach.wellFormed hrec url response auto)
      simp [BalancedWhenReported, SubmitAdapter.submit]
  | privateConnectors connectors =>
      refine iff_of_true (fun result hresult hreports => ?_) trivial
      exact absurd hreports
        (submitPrivateConnectors_lifecycle ctx connectors decision intent auto s result hresult)
  | privateStub =>
      refine iff_of_true ?_ trivial
      rintro result ⟨⟩ hreports
      exact absurd hreports (not_reportsBalance_failure _ _ _ _)

/-- An executor reports both legs filled, each with its own requested quantity. -/
def filledLegs (buyQty sellQty : String) : Dict :=
  let order (exchangeName side qty id : String) : Json := .obj [
    ("exchange_name", .str exchangeName), ("side", .str side), ("requested_qty", .str qty),
    ("exchange_order_id", .str id), ("status", .str "filled")]
  let fill (exchangeName side qty : String) : Json := .obj [("exchange_name", .str exchangeName),
    ("side", .str side), ("fill_price", .str "100"), ("fill_qty", .str qty)]
  [("outcome", .str "filled"),
    ("orders", .arr [order "upbit" "buy" buyQty "buy-1", order "bithumb" "sell" sellQty "sell-1"]),
    ("fills", .arr [fill "upbit" "buy" buyQty, fill "bithumb" "sell" sellQty])]

/-- One unit bought and one unit sold balance a new intent. -/
theorem submit_balances_one_unit :
    ∃ intent,
      (MemoryStore.withIntent .counting (oneUnitIntent "upbit" "bithumb")).orderIntents.head? =
        some intent ∧
      BalancedWhenReported intent
        ((SubmitAdapter.privateHttp (some "http://executor") (.ok (filledLegs "1" "1"))
          (fun _ => "")).submit (memoryStore .counting .default) .default ⟨none⟩ intent false
          (MemoryStore.withIntent .counting (oneUnitIntent "upbit" "bithumb"))) := by
  refine ⟨_, rfl, (submit_balanced_iff
    (MemoryStore.reachable_withIntent .counting .default (oneUnitIntent "upbit" "bithumb"))
    ⟨_, rfl, ⟨rfl, rfl, rfl, rfl, rfl⟩⟩ _ _ false).mpr ?_⟩
  rintro payload - ⟨⟩ - - -
  decide +kernel

/-- One unit bought and two units sold are reported as balanced. -/
theorem submit_reports_unbalanced :
    MemoryStore.Reachable .counting .default
        (MemoryStore.withIntent .counting (oneUnitIntent "upbit" "bithumb")) ∧
    ∃ intent,
      (MemoryStore.withIntent .counting (oneUnitIntent "upbit" "bithumb")).orderIntents.head? =
        some intent ∧
      ¬ BalancedWhenReported intent
        ((SubmitAdapter.privateHttp (some "http://executor") (.ok (filledLegs "1" "2"))
          (fun _ => "")).submit (memoryStore .counting .default) .default ⟨none⟩ intent false
          (MemoryStore.withIntent .counting (oneUnitIntent "upbit" "bithumb"))) := by
  refine ⟨MemoryStore.reachable_withIntent _ _ _, _, rfl, fun hbalanced => ?_⟩
  have hequal := hbalanced _ rfl
  revert hequal
  simp only [ReportsBalance, Balanced, SubmitAdapter.submit]
  decide +kernel

end Submit

end TradingPlatform.Execution

import TradingPlatform.Execution.AcceptedResponse

/-! # Soundness of a successful submit

Whatever an executor returns, a submit that is reported as submitted or filled
left exactly one order on each leg; a submitted one left no fill and no terminal
order, a filled one left both orders filled by their recorded fills.
-/

namespace TradingPlatform.Execution

open Storage

variable {p : Platform} {ctx : DecimalContext} {intent : OrderIntent} {s : MemoryStore}
  {isoNow : Nat → String} {outcome : SubmitOutcome} {preview : Option String} {payload : Dict}
  {items : List OrderItem} {fills : List FillItem} {change : Order → Order}
  {run : ArbitrageSubmitResult × MemoryStore}

section Rows

theorem mem_plannedIndex {serial : Nat} {entry : LegKey × Order}
    (hmem : entry ∈ plannedIndex p intent serial items) :
    ∃ item ∈ items, entry.1 = item.leg ∧
      ∃ n, entry.2 = MemoryStore.orderRow p n intent (item.newOrder intent.intentId) := by
  obtain ⟨created, hcreated, rfl⟩ := List.mem_map.mp hmem
  obtain ⟨hitem, n, hrow⟩ := mem_plannedRows hcreated
  exact ⟨created.1, hitem, rfl, n, hrow⟩

variable (hrun : AcceptedRun p ctx isoNow intent s outcome preview payload items fills change run)

include hrun

theorem AcceptedRun.accepted : ∃ orders,
    AcceptedItems ctx s intent (outcome = .filled) "private_http"
    orders items ∧ items.length = 2 := by
  obtain ⟨orders, -, haccepted, htwo, -⟩ := readResponse_eq_some.mp hrun.read
  exact ⟨orders, haccepted, htwo⟩

/-- A reported order is the changed row of a planned one. -/
theorem AcceptedRun.exists_entry {order : Order} (hmem : order ∈ run.1.createdOrders) :
    ∃ entry ∈ plannedIndex p intent s.serial items, order = change entry.2 := by
  rw [hrun.orders] at hmem
  obtain ⟨entry, hentry, rfl⟩ := List.mem_map.mp hmem
  exact ⟨entry, hentry, rfl⟩

/-- The account of a planned order took its quantities and is the account of the changed row. -/
theorem AcceptedRun.takeAll {entry : LegKey × Order}
    (hmem : entry ∈ plannedIndex p intent s.serial items) :
    (Account.opened entry.2).takeAll ctx (qtysFor FillItem.newFill entry.2.orderId fills) =
      some ⟨(change entry.2).requestedQty.value, (change entry.2).status,
        (run.2.fillsOf entry.2.orderId).map (·.fillQty.value)⟩ := by
  have hrow : change entry.2 ∈ run.2.orders := by
    rw [hrun.added, hrun.orders]
    exact List.mem_append_right _ (List.mem_map.mpr ⟨entry, hmem, rfl⟩)
  rw [← hrun.accounts entry hmem, ← hrun.restamps.orderId entry.2,
    account_of_mem hrun.wellFormed hrow]

end Rows

/-- A submit that placed both legs of an intent and no other order. -/
structure PlacesBothLegs (intent : OrderIntent) (s : MemoryStore)
    (run : ArbitrageSubmitResult × MemoryStore) : Prop where
  added : run.2.orders = s.orders ++ run.1.createdOrders
  legs : (run.1.createdOrders.map fun order => (order.side, order.exchangeName)).Perm
    (expectedLegs intent)
  ofIntent : ∀ order ∈ run.1.createdOrders, order.orderIntentId = intent.intentId
  market : ∀ order ∈ run.1.createdOrders, order.market = intent.market

/-- What a submit reported as submitted left. -/
structure SoundSubmitted (intent : OrderIntent) (s : MemoryStore)
    (run : ArbitrageSubmitResult × MemoryStore) : Prop where
  placed : PlacesBothLegs intent s run
  noFills : run.2.fills = s.fills
  live : ∀ order ∈ run.1.createdOrders, order.status ∉ terminalStatuses
  lifecycle : run.1.lifecyclePreview ∈ ["entry_submitting", "entry_open"]

/-- The newest fill of an order made the sum of its fills the requested quantity,
as the store adds them up. -/
def FilledUp (ctx : DecimalContext) (s : MemoryStore) (order : Order) : Prop :=
  ∃ last earlier, s.fillsOf order.orderId = last :: earlier ∧
    ctx.add (ctx.sum (earlier.map (·.fillQty.value))) last.fillQty.value = order.requestedQty.value

/-- What a submit reported as filled left. -/
structure SoundFilled (ctx : DecimalContext) (intent : OrderIntent) (s : MemoryStore)
    (run : ArbitrageSubmitResult × MemoryStore) : Prop where
  placed : PlacesBothLegs intent s run
  filled : ∀ order ∈ run.1.createdOrders, order.status = "filled"
  filledUp : ∀ order ∈ run.1.createdOrders, FilledUp ctx run.2 order
  trades : ∀ order ∈ run.1.createdOrders,
    ((run.2.fillsOf order.orderId).filterMap Fill.exchangeTradeId).Nodup
  lifecycle : run.1.lifecyclePreview ∈ ["hedge_balanced", "closed"]

section Statuses

/-- The statuses the adapters know are written without blanks and in lower case. -/
theorem lower_strip_allowed : ∀ status ∈ allowedOrderStatuses,
    Text.lower (Text.strip status) = status := by
  decide +kernel

theorem terminalStatuses_allowed : ∀ status ∈ terminalStatuses, status ∈ allowedOrderStatuses := by
  simp [terminalStatuses, allowedOrderStatuses]

theorem filled_of_validate {orders : List Order}
    (hvalid : validateFilledOrderStates orders = none) :
    ∀ order ∈ orders, Text.lower (Text.strip order.status) = "filled" := by
  intro order hmem
  simp only [validateFilledOrderStates] at hvalid
  split_ifs at hvalid with hempty
  by_contra hnot
  have hnil := List.isEmpty_iff.mp hempty
  exact List.filter_eq_nil_iff.mp hnil order hmem (by simpa using hnot)

theorem live_of_validate {orders : List Order} {created : List Fill}
    (hvalid : validateSubmittedOrderStates orders created = none) :
    created = [] ∧ ∀ order ∈ orders, order.status ∉ terminalStatuses := by
  simp only [validateSubmittedOrderStates] at hvalid
  split_ifs at hvalid with hfills hempty
  refine ⟨by simpa using hfills, fun order hmem hterminal => ?_⟩
  have hnil := List.isEmpty_iff.mp hempty
  refine List.filter_eq_nil_iff.mp hnil order hmem ?_
  rw [lower_strip_allowed _ (terminalStatuses_allowed _ hterminal)]
  simpa using hterminal

theorem lifecycle_of_validate {outcomeText : String} {allowed : List String} {settled : String}
    (hallowed : allowedLifecyclePreviews outcomeText = some allowed) (hsettled : settled ∈ allowed)
    (hvalid : validateLifecyclePreview outcomeText preview = none) :
    preview.getD settled ∈ allowed := by
  cases preview with
  | none => exact hsettled
  | some text =>
      simp only [validateLifecyclePreview, hallowed] at hvalid
      split_ifs at hvalid with hmem
      exact hmem

end Statuses

section Sound

variable (hrun : AcceptedRun p ctx isoNow intent s outcome preview payload items fills change run)

include hrun

theorem AcceptedRun.placesBothLegs : PlacesBothLegs intent s run := by
  obtain ⟨orders, haccepted, htwo⟩ := hrun.accepted
  have hterms : ∀ entry : LegKey × Order,
      (change entry.2).side = entry.2.side ∧ (change entry.2).exchangeName = entry.2.exchangeName ∧
        (change entry.2).orderIntentId = entry.2.orderIntentId ∧
        (change entry.2).market = entry.2.market := by
    intro entry
    obtain ⟨⟨status, updatedAt, heq⟩, -⟩ := hrun.restamps entry.2
    rw [heq]
    exact ⟨rfl, rfl, rfl, rfl⟩
  refine ⟨hrun.added, ?_, ?_, ?_⟩
  · have hlegs : run.1.createdOrders.map (fun order => (order.side, order.exchangeName)) =
        items.map OrderItem.leg := by
      rw [hrun.orders, List.map_map, ← plannedIndex_legs (p := p) intent s.serial]
      refine List.map_congr_left fun entry hmem => ?_
      rw [plannedIndex_legsMatch _ _ entry hmem]
      simp [hterms entry]
    rw [hlegs]
    exact haccepted.legs_perm htwo
  · intro order hmem
    obtain ⟨entry, hentry, rfl⟩ := hrun.exists_entry hmem
    obtain ⟨item, -, -, n, hrow⟩ := mem_plannedIndex hentry
    rw [(hterms entry).2.2.1, hrow]
    rfl
  · intro order hmem
    obtain ⟨entry, hentry, rfl⟩ := hrun.exists_entry hmem
    obtain ⟨item, hitem, -, n, hrow⟩ := mem_plannedIndex hentry
    rw [(hterms entry).2.2.2, hrow]
    exact haccepted.2 item hitem

end Sound

theorem AcceptedRun.soundSubmitted
    (hrun : AcceptedRun p ctx isoNow intent s .submitted preview payload items fills change run)
    (hpreview : validateLifecyclePreview "submitted" preview = none) :
    SoundSubmitted intent s run := by
  obtain ⟨hnone, hlive⟩ := live_of_validate hrun.states
  refine ⟨hrun.placesBothLegs, ?_, hlive, ?_⟩
  · rw [hrun.stored, hnone]
    rfl
  · rw [hrun.lifecycle]
    exact lifecycle_of_validate rfl (by simp) hpreview

/-- An order reported as filled was filled up by its fills. -/
theorem AcceptedRun.settled
    (hrun : AcceptedRun p ctx isoNow intent s .filled preview payload items fills change run)
    {order : Order} (hmem : order ∈ run.1.createdOrders) :
    order.status = "filled" ∧ FilledUp ctx run.2 order := by
  obtain ⟨hfilled, -⟩ := Option.or_eq_none_iff.mp hrun.states
  have hlower := filled_of_validate hfilled order hmem
  obtain ⟨entry, hentry, rfl⟩ := hrun.exists_entry hmem
  obtain ⟨item, hitem, -, n, hrow⟩ := mem_plannedIndex hentry
  obtain ⟨orders, haccepted, -⟩ := hrun.accepted
  obtain ⟨fields, -, hread⟩ := (readItems_of_ok haccepted.1).exists_fields hitem
  have hid := hrun.restamps.orderId entry.2
  rcases Account.takeAll_status (hrun.takeAll hentry) with
    hsame | ⟨hstatus, last, earlier, hqtys, hsum⟩ |
    hpartially
  · -- Without a fill the order still has the status it was placed with, which is not filled.
    have hstatus : (change entry.2).status = item.status := by
      have heq : (change entry.2).status = entry.2.status := congrArg Account.status hsame
      rw [heq, hrow]
      rfl
    rw [hstatus, hread.status] at hlower
    split at hlower
    · exact absurd hlower (by decide +kernel)
    next hnot =>
      rw [lower_strip_allowed _ hread.allowed] at hlower
      exact absurd hlower (by simpa using hnot)
  · obtain ⟨fill, rest, hfills, rfl, rfl⟩ := List.map_eq_cons_iff.mp hqtys
    exact ⟨hstatus, fill, rest, by rw [hid, hfills], hsum⟩
  · simp only at hpartially
    rw [hpartially] at hlower
    exact absurd hlower (by decide +kernel)

theorem AcceptedRun.soundFilled
    (hrun : AcceptedRun p ctx isoNow intent s .filled preview payload items fills change run)
    (hpreview : validateLifecyclePreview "filled" preview = none) :
    SoundFilled ctx intent s run := by
  refine ⟨hrun.placesBothLegs, fun order hmem => (hrun.settled hmem).1,
    fun order hmem => (hrun.settled hmem).2,
    fun order _ => hrun.wellFormed.trades_nodup order.orderId, ?_⟩
  rw [hrun.lifecycle]
  exact lifecycle_of_validate rfl (by simp) hpreview

section Submit

theorem SubmitOutcome.ofText?_eq_some {text : String} {outcome : SubmitOutcome}
    (houtcome : SubmitOutcome.ofText? text = some outcome) : text = outcome.text := by
  unfold SubmitOutcome.ofText? at houtcome
  split at houtcome
  all_goals cases houtcome
  all_goals rfl

/-- A response that reports a failed submit is never reported otherwise. -/
theorem submitFailedResponse_outcome {σ : Type} {P : StoreProtocol σ} (ctx : DecimalContext)
    (isoNow : Nat → String) (intent : OrderIntent) (auto : Bool) (payload : Dict) (s : σ) :
    (submitFailedResponse P ctx isoNow intent auto payload s).1.outcome = .submitFailed := by
  simp only [submitFailedResponse]
  split
  · rfl
  · split
    · split
      · rfl
      · split <;> rfl
    · rfl

variable (ctx) (isoNow) in
/-- A submit over the executor that is not reported as failed accepted a response. -/
theorem submitPrivateHttp_accepted (hwf : MemoryStore.WellFormed p s) (hrec : s.Records intent)
    (url : Option String) (response : Except String Dict) (auto : Bool)
    (hsuccess : (submitPrivateHttp (memoryStore p ctx) ctx isoNow url response intent auto
      s).1.outcome ≠ .submitFailed) :
    ∃ payload outcome items fills change,
      url.getD "" ≠ "" ∧ response = .ok payload ∧
      SubmitOutcome.ofText? (Text.lower ((jsonText (payload.get "outcome")).getD "submitted")) =
        some outcome ∧
      validateLifecyclePreview (Text.lower ((jsonText (payload.get "outcome")).getD "submitted"))
        (jsonText (payload.get "lifecycle_preview")) = none ∧
      AcceptedRun p ctx isoNow intent s outcome (jsonText (payload.get "lifecycle_preview")) payload
        items fills change
        (submitPrivateHttp (memoryStore p ctx) ctx isoNow url response intent auto s) := by
  unfold submitPrivateHttp at hsuccess ⊢
  split_ifs at hsuccess ⊢ with hurl
  · exact absurd rfl hsuccess
  · cases response with
    | error reason => exact absurd rfl hsuccess
    | ok payload =>
        simp only [submitResponse] at hsuccess ⊢
        split at hsuccess
        · exact absurd rfl hsuccess
        next outcome houtcome =>
          split at hsuccess
          · exact absurd rfl hsuccess
          next hpreview =>
            cases outcome with
            | submitFailed =>
                exact absurd (submitFailedResponse_outcome ctx isoNow intent auto payload s)
                  hsuccess
            | submitted =>
                obtain ⟨items, fills, change, hrun⟩ :=
                  submitAcceptedResponse_accepted _ _ _ _ _ hwf hrec auto
                  hsuccess
                exact
                  ⟨payload, .submitted, items, fills, change, hurl, rfl, houtcome, hpreview, hrun⟩
            | filled =>
                obtain ⟨items, fills, change, hrun⟩ :=
                  submitAcceptedResponse_accepted _ _ _ _ _ hwf hrec auto
                  hsuccess
                exact ⟨payload, .filled, items, fills, change, hurl, rfl, houtcome, hpreview, hrun⟩

/-- What the executor returns never makes a submit look better than it was: a
submitted one placed both legs and nothing was filled, a filled one placed both
legs and both were filled up. -/
theorem submitPrivateHttp_sound (hreach : MemoryStore.Reachable p ctx s) (hrec : s.Records intent)
    (url : Option String) (response : Except String Dict) (auto : Bool) :
    let run := submitPrivateHttp (memoryStore p ctx) ctx isoNow url response intent auto s
    (run.1.outcome = .submitted → SoundSubmitted intent s run) ∧
      (run.1.outcome = .filled → SoundFilled ctx intent s run) := by
  intro run
  constructor
  · intro hsubmitted
    obtain ⟨payload, outcome, items, fills, change, -, -, houtcome, hpreview, hrun⟩ :=
      submitPrivateHttp_accepted ctx isoNow hreach.wellFormed hrec url response
        auto (fun hfailed => by simp [run, hfailed] at hsubmitted)
    obtain rfl := hrun.reported.symm.trans hsubmitted
    rw [SubmitOutcome.ofText?_eq_some houtcome] at hpreview
    exact hrun.soundSubmitted hpreview
  · intro hfilled
    obtain ⟨payload, outcome, items, fills, change, -, -, houtcome, hpreview, hrun⟩ :=
      submitPrivateHttp_accepted ctx isoNow hreach.wellFormed hrec url response
        auto (fun hfailed => by simp [run, hfailed] at hfilled)
    obtain rfl := hrun.reported.symm.trans hfilled
    rw [SubmitOutcome.ofText?_eq_some houtcome] at hpreview
    exact hrun.soundFilled hpreview

/-- An executor reports both legs of one unit filled, the buy leg in two fills. -/
def filledTwice (firstBuy secondBuy : String) : Dict :=
  let order (exchangeName side id : String) : Json := .obj [("exchange_name", .str exchangeName),
    ("side", .str side), ("requested_qty", .str "1"), ("exchange_order_id", .str id),
    ("status", .str "filled")]
  let fill (exchangeName side qty : String) : Json := .obj [("exchange_name", .str exchangeName),
    ("side", .str side), ("fill_price", .str "100"), ("fill_qty", .str qty)]
  [("outcome", .str "filled"),
    ("orders", .arr [order "upbit" "buy" "buy-1", order "bithumb" "sell" "sell-1"]),
    ("fills", .arr [fill "upbit" "buy" firstBuy, fill "upbit" "buy" secondBuy,
      fill "bithumb" "sell" "1"])]

/-- A unit bought in two halves. -/
theorem submit_fills_two_halves :
    ∃ intent,
      (MemoryStore.withIntent .counting (oneUnitIntent "upbit" "bithumb")).orderIntents.head? =
        some intent ∧
      SoundFilled .default intent
        (MemoryStore.withIntent .counting (oneUnitIntent "upbit" "bithumb"))
        (submitPrivateHttp (memoryStore .counting .default) .default (fun _ => "")
          (some "http://executor") (.ok (filledTwice "0.5" "0.5")) intent false
          (MemoryStore.withIntent .counting (oneUnitIntent "upbit" "bithumb"))) :=
  ⟨_, rfl, (submitPrivateHttp_sound
    (MemoryStore.reachable_withIntent .counting .default (oneUnitIntent "upbit" "bithumb"))
    ⟨_, rfl, ⟨rfl, rfl, rfl, rfl, rfl⟩⟩ (some "http://executor") (.ok (filledTwice "0.5" "0.5"))
    false).2 (by decide +kernel)⟩

/-- Two fills whose sum is rounded up to the unit they do not make up. -/
theorem submit_fills_rounded_sum :
    MemoryStore.Reachable .counting .default
        (MemoryStore.withIntent .counting (oneUnitIntent "upbit" "bithumb")) ∧
    ∃ intent,
      (MemoryStore.withIntent .counting (oneUnitIntent "upbit" "bithumb")).orderIntents.head? =
        some intent ∧
      let run := submitPrivateHttp (memoryStore .counting .default) .default (fun _ => "")
        (some "http://executor")
        (.ok (filledTwice "0.9999999999999999999999999999" "0.00000000000000000000000000006"))
        intent false (MemoryStore.withIntent .counting (oneUnitIntent "upbit" "bithumb"))
      run.1.outcome = .filled ∧ ∃ order ∈ run.1.createdOrders,
        ((run.2.fillsOf order.orderId).map (·.fillQty.value)).sum ≠ order.requestedQty.value :=
  ⟨MemoryStore.reachable_withIntent _ _ _, _, rfl, by decide +kernel, by decide +kernel⟩

end Submit

end TradingPlatform.Execution

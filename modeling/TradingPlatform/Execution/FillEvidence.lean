import TradingPlatform.Execution.PersistedFills

/-! # Evidence of fills of a failed submit

An executor that reports a failed submit may report orders and fills with it.
The fills are all recorded exactly when both legs are reported, every item
passes its checks, and each order, opened with its reported status, takes the
quantities reported for it.
-/

namespace TradingPlatform.Execution

open Storage

variable {p : Platform} {ctx : DecimalContext} {intent : OrderIntent} {s placed : MemoryStore}
  {index : List (LegKey × Order)} {isoNow : Nat → String}

section Records

/-- A fill row that records an entry of a response against one of the given orders. -/
structure FillRecorded (ctx : DecimalContext) (orders : List Order) (fields : Dict) (fill : Fill) :
    Prop where
  order : ∃ order ∈ orders, order.orderId = fill.orderId ∧ order.side = itemSide fields ∧
    ∀ name ∈ jsonText (fields.get "exchange_name"), order.exchangeName = name
  fillPrice : jsonNumberText ctx (fields.get "fill_price") = some fill.fillPrice
  fillQty : jsonNumberText ctx (fields.get "fill_qty") = some fill.fillQty
  exchangeTradeId : fill.exchangeTradeId = jsonText (fields.get "exchange_trade_id")

/-- Every fill a response reports is recorded in the store and reported in the result. -/
structure KeepsFills (ctx : DecimalContext) (payload : Dict)
    (run : ArbitrageSubmitResult × MemoryStore) : Prop where
  recorded : List.Forall₂
    (fun value fill => ∃ fields, value = .obj fields ∧
      FillRecorded ctx run.1.createdOrders fields fill)
    (fillEntries (payload.get "fills")) run.1.createdFills
  stored : ∀ fill ∈ run.1.createdFills, fill ∈ run.2.fills

/-- Every order of an index stands under its own leg. -/
def LegsMatch (index : List (LegKey × Order)) : Prop :=
  ∀ entry ∈ index, entry.1 = (entry.2.side, entry.2.exchangeName)

theorem plannedIndex_legsMatch (serial : Nat) (items : List OrderItem) :
    LegsMatch (plannedIndex p intent serial items) := by
  intro entry hmem
  obtain ⟨created, hcreated, rfl⟩ := List.mem_map.mp hmem
  obtain ⟨-, n, hrow⟩ := mem_plannedRows hcreated
  simp only [hrow]
  rfl

theorem ReadFill.recorded (hmatch : LegsMatch index) {fields : Dict} {order : Order}
    {item : FillItem} {fill : Fill} {orders : List Order} {change : Order → Order}
    (hread : ReadFill ctx index fields order item) (hrepeats : RepeatsFill item.newFill fill)
    (hchange : ∀ order, ∃ status updatedAt,
      change order = { order with status := status, updatedAt := updatedAt })
    (horders : orders = (index.map Prod.snd).map change) : FillRecorded ctx orders fields fill := by
  obtain ⟨leg, hindex, hside, hname⟩ := mem_of_matchOrderForFill hread.matched
  obtain ⟨status, updatedAt, heq⟩ := hchange order
  have hleg := hmatch _ hindex
  simp only at hleg
  subst hleg
  refine ⟨⟨change order, ?_, ?_, ?_, ?_⟩, ?_, ?_, ?_⟩
  · rw [horders]
    exact List.mem_map_of_mem (List.mem_map_of_mem hindex)
  · rw [heq, hrepeats.orderId]
    exact hread.orderId.symm
  · rw [heq]
    exact hside
  · rw [heq]
    exact hname
  · rw [hrepeats.fillPrice]
    exact hread.fillPrice
  · rw [hrepeats.fillQty]
    exact hread.fillQty
  · rw [hrepeats.exchangeTradeId]
    exact hread.exchangeTradeId

/-- Fills that are all persisted are recorded and stored. -/
theorem createFillItems_recorded (hplaced : Placed p s index placed) (hmatch : LegsMatch index)
    {values : List Json} {fills : List FillItem} (hread : ReadFills ctx index values fills)
    (hnone : (createFillItems (memoryStore p ctx) fills placed).refusal = none) :
    let run := createFillItems (memoryStore p ctx) fills placed
    List.Forall₂
      (fun value fill => ∃ fields, value = .obj fields ∧ FillRecorded ctx
        (refreshOrders (memoryStore p ctx) readOrderId run.store (index.map Prod.snd)) fields fill)
      values (run.rows.map Prod.snd) ∧
    ∀ fill ∈ run.rows.map Prod.snd, fill ∈ run.store.fills := by
  intro run
  obtain ⟨change, hchange, -, hrefreshed⟩ := createFillItems_orders hplaced hread
  obtain ⟨-, hrepeats⟩ := createFills_rows ctx FillItem.newFill fills
    hplaced.after
  constructor
  · have hitems : run.rows.map Prod.fst = fills := createRows_items_of_noRefusal hnone
    have hboth := hread.read
    rw [← hitems, List.forall₂_map_right_iff] at hboth
    rw [List.forall₂_map_right_iff]
    have hflip := (List.forall₂_and_left _ _).mpr ⟨hrepeats, hboth.flip⟩
    refine hflip.flip.imp ?_
    rintro value created ⟨hrow, fields, order, rfl, hitem⟩
    exact ⟨fields, rfl, hitem.recorded hmatch hrow (fun order => (hchange order).1) hrefreshed⟩
  · intro fill hmem
    have hfills : run.store.fills = (run.rows.map Prod.snd).reverse ++ placed.fills :=
      createFills_fills fills placed
    rw [hfills]
    exact List.mem_append_left _ (List.mem_reverse.mpr hmem)

/-- Nothing is created of fills without entries. -/
theorem createFillsFromResponse_nil {fillsPayload : Json} (hempty : fillEntries fillsPayload = []) :
    (createFillsFromResponse (memoryStore p ctx) ctx isoNow index fillsPayload
      placed).createdFills = [] := by
  cases fillsPayload with
  | arr values =>
      obtain rfl : values = [] := hempty
      rfl
  | null | bool | int | float | str | obj => rfl

/-- A list of fills is persisted to its end exactly when it passes its checks
and the accounts take it. -/
theorem createFillsFromResponse_complete (hplaced : Placed p s index placed)
    {values : List Json} (hne : values ≠ []) :
    (createFillsFromResponse (memoryStore p ctx) ctx isoNow index (.arr values)
        placed).createdFills.length = values.length ↔
      ∃ fills, validateFillItems ctx (fun _ => []) index isoNow 0 {} values = .ok fills ∧
        TakesFills ctx index fills := by
  rw [createFillsFromResponse_placed hplaced]
  cases hitems : validateFillItems ctx (fun _ => []) index isoNow 0 {} values with
  | error message =>
      exact iff_of_false (fun hnil => hne (List.length_eq_zero_iff.mp hnil.symm)) (by simp)
  | ok fills =>
      have hread := readFills_of_ok hitems
      have hlength := hread.read.length_eq
      obtain ⟨hiff, -⟩ := createFillItems_memory hplaced hread
      simp only [Except.ok.injEq, exists_eq_left', List.length_map, hlength, ← hiff]
      constructor
      · intro hall
        by_contra hrefused
        have hshort := createRows_length_lt_of_refusal hrefused
        simp only [createFillItems] at hall
        omega
      · intro hnone
        rw [← congrArg List.length (createRows_items_of_noRefusal hnone), List.length_map]
        rfl

end Records

section Failed

/-- When the fills of a response to a failed submit are recorded: there are
none, or two accepted orders take all of them. -/
def FillsAccepted (p : Platform) (ctx : DecimalContext) (isoNow : Nat → String)
    (intent : OrderIntent) (s : MemoryStore) (payload : Dict) : Prop :=
  fillEntries (payload.get "fills") = [] ∨
    ∃ read ∈ readResponse p ctx isoNow intent s false payload,
      TakesFills ctx (plannedIndex p intent s.serial read.1) read.2

instance (p : Platform) (ctx : DecimalContext) (isoNow : Nat → String) (intent : OrderIntent)
    (s : MemoryStore) (payload : Dict) :
    Decidable (FillsAccepted p ctx isoNow intent s payload) :=
  decidable_of_iff ((fillEntries (payload.get "fills")).isEmpty ∨ _)
    (or_congr_left List.isEmpty_iff)

/-- A response that reports a failed submit keeps its fills exactly when they are accepted. -/
theorem submitFailedResponse_keeps_iff (hwf : MemoryStore.WellFormed p s) (hrec : s.Records intent)
    (auto : Bool) (payload : Dict)
    (hvalid : validateResponseSubmitFailedPayload ctx (payload.get "orders") (payload.get "fills") =
      none) :
    KeepsFills ctx payload
        (submitFailedResponse (memoryStore p ctx) ctx isoNow intent auto payload s) ↔
      FillsAccepted p ctx isoNow intent s payload := by
  -- with no fill reported there is none to keep
  by_cases hempty : fillEntries (payload.get "fills") = []
  · refine iff_of_true ?_ (Or.inl hempty)
    have hnil : (submitFailedResponse (memoryStore p ctx) ctx isoNow intent auto payload
        s).1.createdFills = [] := by
      simp only [submitFailedResponse, hvalid]
      split
      · split
        · rfl
        · split
          · rfl
          · exact createFillsFromResponse_nil hempty
      · rfl
    exact ⟨by simp [hempty, hnil], by simp [hnil]⟩
  obtain ⟨values, hvalues, hne⟩ : ∃ values, payload.get "fills" = .arr values ∧ values ≠ [] := by
    cases hfills : payload.get "fills" with
    | arr values => exact ⟨values, rfl, by simpa [fillEntries, hfills] using hempty⟩
    | null | bool | int | float | str | obj => simp [fillEntries, hfills] at hempty
  -- where fills are reported, an exit that has created none keeps none
  have hdropped : ∀ run : ArbitrageSubmitResult × MemoryStore, run.1.createdFills = [] →
      ¬ KeepsFills ctx payload run := by
    rintro run hnil ⟨hrecorded, -⟩
    have hlength := hrecorded.length_eq
    simp [hnil, fillEntries, hvalues, hne] at hlength
  simp only [submitFailedResponse, hvalid, FillsAccepted, hempty, false_or, Prod.exists,
    Option.mem_def, readResponse_eq_some]
  split
  next first rest horders =>
    have herror := createOrdersFromResponse_error_eq_none (p := p) ctx hrec false
      "private_http" (payload.get "orders")
    split
    next message hmessage =>
      refine iff_of_false (hdropped _ rfl) ?_
      rintro ⟨items, fills, ⟨orders, heq, haccepted, -⟩, -⟩
      obtain rfl := Json.arr.inj (horders.symm.trans heq)
      rw [herror.mpr ⟨_, _, items, heq, haccepted⟩] at hmessage
      exact absurd hmessage (by simp)
    next hnone =>
      obtain ⟨_, _, items, heq, haccepted⟩ := herror.mp hnone
      obtain ⟨rfl, rfl⟩ := List.cons.inj (Json.arr.inj (horders.symm.trans heq))
      obtain ⟨-, hindex, hplaced⟩ := placed_of_accepted ctx hwf hrec haccepted (by simp)
      -- the orders are read once, so whoever reads them has the same items
      have honly : ∀ orders others, payload.get "orders" = .arr orders →
          AcceptedItems ctx s intent false "private_http" orders others →
            orders = first :: rest ∧ others = items := by
        intro orders others hother hothers
        obtain rfl := Json.arr.inj (horders.symm.trans hother)
        exact ⟨rfl, Except.ok.inj (hothers.1.symm.trans haccepted.1)⟩
      have hlegs := validateRequiredArbitrageLegs_planned (p := p) haccepted s.serial false
      simp only [horders, OrdersCreation.createdOrders, hindex]
      split
      next message hmessage =>
        refine iff_of_false (hdropped _ rfl) ?_
        rintro ⟨others, fills, ⟨orders, hother, hothers, htwo, -⟩, -⟩
        obtain ⟨rfl, rfl⟩ := honly orders others (horders.trans hother) hothers
        rw [hlegs.mpr htwo] at hmessage
        exact absurd hmessage (by simp)
      next hcomplete =>
        have htwo := hlegs.mp hcomplete
        have hentries : fillEntries (payload.get "fills") = values := by rw [hvalues]; rfl
        rw [hentries, hvalues]
        constructor
        · rintro ⟨hrecorded, -⟩
          rw [hentries] at hrecorded
          obtain ⟨fills, hfills, htakes⟩ := (createFillsFromResponse_complete hplaced hne).mp
            hrecorded.length_eq.symm
          exact ⟨items, fills, ⟨_, rfl, haccepted, htwo, hfills⟩, htakes⟩
        · rintro ⟨others, fills, ⟨orders, hother, hothers, -, hfills⟩, htakes⟩
          obtain ⟨rfl, rfl⟩ := honly orders others (horders.trans hother) hothers
          have hread := readFills_of_ok hfills
          obtain ⟨hrecorded, hstored⟩ := createFillItems_recorded hplaced
            (plannedIndex_legsMatch _ _) hread ((createFillItems_memory hplaced hread).1.mpr htakes)
          simp only [createFillsFromResponse_placed hplaced, hfills]
          exact ⟨by rw [hentries]; exact hrecorded, hstored⟩
  next hshape =>
    refine iff_of_false (hdropped _ rfl) ?_
    rintro ⟨items, fills, ⟨orders, heq, haccepted, htwo, -⟩, -⟩
    cases orders with
    | nil =>
        obtain rfl := Except.ok.inj haccepted.1
        exact absurd htwo (by simp)
    | cons first rest => exact hshape first rest heq

/-- A response is acted on by its outcome. -/
theorem submitPrivateHttp_submitFailed {url : String} (hurl : url ≠ "") {payload : Dict}
    (houtcome : Text.lower ((jsonText (payload.get "outcome")).getD "submitted") = "submit_failed")
    (auto : Bool) :
    submitPrivateHttp (memoryStore p ctx) ctx isoNow (some url) (.ok payload) intent auto s =
      submitFailedResponse (memoryStore p ctx) ctx isoNow intent auto payload s := by
  have hpreview : validateLifecyclePreview "submit_failed"
    (jsonText (payload.get "lifecycle_preview")) =
      none := by
    cases jsonText (payload.get "lifecycle_preview") <;> rfl
  simp only [submitPrivateHttp, Option.getD_some, hurl, if_false, submitResponse, houtcome,
    SubmitOutcome.ofText?, hpreview]

/-- A failed submit keeps every fill of a valid response exactly when both legs
are reported, every item passes its checks, and the reported orders take the
reported fills. -/
theorem submitPrivateHttp_keeps_fills_iff (hreach : MemoryStore.Reachable p ctx s)
    (hrec : s.Records intent) {url : String} (hurl : url ≠ "") {payload : Dict}
    (houtcome : Text.lower ((jsonText (payload.get "outcome")).getD "submitted") = "submit_failed")
    (hvalid : validateResponseSubmitFailedPayload ctx (payload.get "orders") (payload.get "fills") =
      none) (auto : Bool) :
    KeepsFills ctx payload (submitPrivateHttp (memoryStore p ctx) ctx isoNow (some url)
        (.ok payload) intent auto s) ↔
      FillsAccepted p ctx isoNow intent s payload := by
  rw [submitPrivateHttp_submitFailed hurl houtcome]
  exact submitFailedResponse_keeps_iff hreach.wellFormed hrec auto payload hvalid

/-- An executor reports half of a unit bought in an order of the given status,
and one unit to sell in a submitted order. -/
def halfBought (buyStatus : String) : Dict :=
  [("outcome", .str "submit_failed"),
    ("orders", .arr [
      .obj [("exchange_name", .str "upbit"), ("side", .str "buy"), ("requested_qty", .str "1"),
        ("exchange_order_id", .str "buy-1"), ("status", .str buyStatus)],
      .obj [("exchange_name", .str "bithumb"), ("side", .str "sell"), ("requested_qty", .str "1"),
        ("exchange_order_id", .str "sell-1"), ("status", .str "submitted")]]),
    ("fills", .arr [
      .obj [("exchange_name", .str "upbit"), ("side", .str "buy"), ("fill_price", .str "100"),
        ("fill_qty", .str "0.5")]])]

/-- The fill of a live order is kept. -/
theorem submit_keeps_partial_fill :
    ∃ intent,
      (MemoryStore.withIntent .counting (oneUnitIntent "upbit" "bithumb")).orderIntents.head? =
        some intent ∧
      KeepsFills .default (halfBought "partially_filled")
        (submitPrivateHttp (memoryStore .counting .default) .default (fun _ => "")
        (some "http://executor")
          (.ok (halfBought "partially_filled")) intent false
          (MemoryStore.withIntent .counting (oneUnitIntent "upbit" "bithumb"))) :=
  ⟨_, rfl, (submitPrivateHttp_keeps_fills_iff
    (MemoryStore.reachable_withIntent .counting .default (oneUnitIntent "upbit" "bithumb"))
    ⟨_, rfl, ⟨rfl, rfl, rfl, rfl, rfl⟩⟩ (by decide +kernel) (by decide +kernel)
    (by decide +kernel) false).mpr (by decide +kernel)⟩

/-- The fill of an order that was cancelled after it is lost. -/
theorem submit_loses_fill_of_cancelled :
    MemoryStore.Reachable .counting .default
        (MemoryStore.withIntent .counting (oneUnitIntent "upbit" "bithumb")) ∧
      validateResponseSubmitFailedPayload .default ((halfBought "cancelled").get "orders")
        ((halfBought "cancelled").get "fills") = none ∧
      ∃ intent,
        (MemoryStore.withIntent .counting (oneUnitIntent "upbit" "bithumb")).orderIntents.head? =
          some intent ∧
        ¬ KeepsFills .default (halfBought "cancelled")
          (submitPrivateHttp (memoryStore .counting .default) .default (fun _ => "")
            (some "http://executor") (.ok (halfBought "cancelled")) intent false
            (MemoryStore.withIntent .counting (oneUnitIntent "upbit" "bithumb"))) := by
  refine ⟨MemoryStore.reachable_withIntent _ _ _, by decide +kernel, _, rfl, fun hkeeps => ?_⟩
  have hlength := hkeeps.recorded.length_eq
  revert hlength
  decide +kernel

end Failed

end TradingPlatform.Execution

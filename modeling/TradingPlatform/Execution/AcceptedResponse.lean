import TradingPlatform.Execution.FillEvidence

/-! # Accepted responses

What an executor's response that reports success leaves behind once the
private_http adapter accepts it, and when it accepts a filled one.
-/

namespace TradingPlatform.Execution

open Storage

variable {p : Platform} {ctx : DecimalContext} {intent : OrderIntent} {s : MemoryStore}
  {isoNow : Nat → String} {outcome : SubmitOutcome} {preview : Option String} {payload : Dict}

/-- The run of an accepted response: the orders and fills it was read as, and
what became of the orders' rows. -/
structure AcceptedRun (p : Platform) (ctx : DecimalContext) (isoNow : Nat → String)
    (intent : OrderIntent) (s : MemoryStore) (outcome : SubmitOutcome) (preview : Option String)
    (payload : Dict) (items : List OrderItem) (fills : List FillItem) (change : Order → Order)
    (run : ArbitrageSubmitResult × MemoryStore) : Prop where
  reported : run.1.outcome = outcome
  lifecycle : run.1.lifecyclePreview =
    preview.getD (if outcome = .filled then "hedge_balanced" else "entry_submitting")
  valid :
    validateAcceptedPayload ctx outcome intent (payload.get "orders") (payload.get "fills") = none
  read : readResponse p ctx isoNow intent s (outcome = .filled) payload = some (items, fills)
  restamps : Restamps (fills.map FillItem.orderId) change
  orders : run.1.createdOrders =
    (plannedIndex p intent s.serial items).map fun entry => change entry.2
  added : run.2.orders = s.orders ++ run.1.createdOrders
  accounts : ∀ entry ∈ plannedIndex p intent s.serial items, run.2.account entry.2.orderId =
    (Account.opened entry.2).takeAll ctx (qtysFor FillItem.newFill entry.2.orderId fills)
  recorded : List.Forall₂
    (fun value fill => ∃ fields, value = .obj fields ∧
      FillRecorded ctx run.1.createdOrders fields fill)
    (fillEntries (payload.get "fills")) run.1.createdFills
  stored : run.2.fills = run.1.createdFills.reverse ++ s.fills
  wellFormed : MemoryStore.WellFormed p run.2
  states : validateAcceptedStates outcome intent run.1.createdOrders run.1.createdFills = none

section Accepting

/-- A run of fills without refusal, in the terms of the response it belongs to. -/
theorem createFillItems_accepted {index : List (LegKey × Order)} {placed : MemoryStore}
    (hplaced : Placed p s index placed) (hmatch : LegsMatch index) {values : List Json}
    {fills : List FillItem} (hread : ReadFills ctx index values fills)
    (hnone : (createFillItems (memoryStore p ctx) fills placed).refusal = none) :
    let run := createFillItems (memoryStore p ctx) fills placed
    let orders := refreshOrders (memoryStore p ctx) readOrderId run.store (index.map Prod.snd)
    ∃ change, Restamps (fills.map FillItem.orderId) change ∧
      orders = index.map (fun entry => change entry.2) ∧
      run.store.orders = s.orders ++ orders ∧
      (∀ entry ∈ index, run.store.account entry.2.orderId =
        (Account.opened entry.2).takeAll ctx
          (qtysFor FillItem.newFill entry.2.orderId fills)) ∧
      List.Forall₂
        (fun value fill => ∃ fields, value = .obj fields ∧ FillRecorded ctx orders fields fill)
        values (run.rows.map Prod.snd) ∧
      run.store.fills = (run.rows.map Prod.snd).reverse ++ s.fills ∧
      MemoryStore.WellFormed p run.store := by
  intro run orders
  obtain ⟨change, hchange, horders, hrefreshed⟩ := createFillItems_orders hplaced hread
  have hrow : orders = index.map fun entry => change entry.2 := by
    simpa [orders, run, Function.comp_def] using hrefreshed
  refine ⟨change, hchange, hrow, ?_, (createFillItems_memory hplaced hread).2 hnone,
    (createFillItems_recorded hplaced hmatch hread hnone).1, ?_,
    (createFills_rows ctx FillItem.newFill fills hplaced.after).1⟩
  · exact horders.trans (by rw [← hrefreshed])
  · rw [← hplaced.fills]
    exact createFills_fills fills placed

/-- Fills for orders just placed are created without an error when they are
missing or a list, pass their checks and are taken. -/
theorem createFillsFromResponse_error_eq_none {index : List (LegKey × Order)}
    {placed : MemoryStore} (hplaced : Placed p s index placed) (fillsPayload : Json) :
    (createFillsFromResponse (memoryStore p ctx) ctx isoNow index fillsPayload placed).error =
      none ↔
      (fillsPayload = .null ∨ ∃ values, fillsPayload = .arr values) ∧
      ∃ fills, validateFillItems ctx (fun _ => []) index isoNow 0 {} (fillEntries fillsPayload) =
          .ok fills ∧ TakesFills ctx index fills := by
  cases fillsPayload with
  | null =>
      exact iff_of_true rfl ⟨Or.inl rfl, [], rfl, fun _ _ => rfl⟩
  | arr values =>
      rw [createFillsFromResponse_placed hplaced]
      simp only [fillEntries]
      cases hitems : validateFillItems ctx (fun _ => []) index isoNow 0 {} values with
      | error message => simp
      | ok fills =>
          have hiff := (createFillItems_memory hplaced (readFills_of_ok hitems)).1
          simp [Option.map_eq_none_iff, hiff]
  | bool | int | float | str | obj => simp [createFillsFromResponse]

/-- Fills created without an error are the run over the fills that were read. -/
theorem createFillsFromResponse_eq {index : List (LegKey × Order)} {placed : MemoryStore}
    (hplaced : Placed p s index placed) {fillsPayload : Json} {fills : List FillItem}
    (hshape : fillsPayload = .null ∨ ∃ values, fillsPayload = .arr values)
    (hfills : validateFillItems ctx (fun _ => []) index isoNow 0 {} (fillEntries fillsPayload) =
      .ok fills) (htakes : TakesFills ctx index fills) :
    createFillsFromResponse (memoryStore p ctx) ctx isoNow index fillsPayload placed =
      ⟨(createFillItems (memoryStore p ctx) fills placed).rows.map Prod.snd, none,
        (createFillItems (memoryStore p ctx) fills placed).store⟩ := by
  rcases hshape with rfl | ⟨values, rfl⟩
  · obtain rfl := Except.ok.inj hfills
    rfl
  · have hnone := (createFillItems_memory hplaced (readFills_of_ok hfills)).1.mpr htakes
    rw [createFillsFromResponse_placed hplaced]
    simp only [fillEntries] at hfills
    simp [hfills, hnone]

variable (ctx) (isoNow) (outcome) (preview) (payload) in
theorem submitAcceptedResponse_accepted (hwf : MemoryStore.WellFormed p s)
    (hrec : s.Records intent) (auto : Bool)
    (hsuccess : (submitAcceptedResponse (memoryStore p ctx) ctx isoNow outcome preview intent auto
      payload s).1.outcome ≠ .submitFailed) :
    ∃ items fills change, AcceptedRun p ctx isoNow intent s outcome preview payload items fills
      change (submitAcceptedResponse (memoryStore p ctx) ctx isoNow outcome preview intent auto
        payload s) := by
  have herror := createOrdersFromResponse_error_eq_none (p := p) ctx hrec
    (outcome = .filled) "private_http" (payload.get "orders")
  revert hsuccess
  simp only [submitAcceptedResponse]
  split
  · exact fun hfailed => absurd rfl hfailed
  next hvalid =>
    split
    · exact fun hfailed => absurd rfl hfailed
    next hnone =>
      obtain ⟨first, rest, items, horders, haccepted⟩ := herror.mp hnone
      obtain ⟨-, hindex, hplaced⟩ := placed_of_accepted ctx hwf hrec haccepted (by simp)
      have hlegs := validateRequiredArbitrageLegs_planned (p := p) haccepted s.serial true
      simp only [horders, OrdersCreation.createdOrders, hindex]
      split
      · exact fun hfailed => absurd rfl hfailed
      next hcomplete =>
        split
        · exact fun hfailed => absurd rfl hfailed
        next hfillsNone =>
          obtain ⟨hshape, fills, hfills, htakes⟩ :=
            (createFillsFromResponse_error_eq_none hplaced _).mp hfillsNone
          have hread := readFills_of_ok hfills
          obtain ⟨change, hrestamps, hrows, hadded, haccounts, hrecorded, hstored, hafter⟩ :=
            createFillItems_accepted hplaced (plannedIndex_legsMatch _ _) hread
              ((createFillItems_memory hplaced hread).1.mpr htakes)
          rw [createFillsFromResponse_eq hplaced hshape hfills htakes]
          split
          · exact fun hfailed => absurd rfl hfailed
          · split
            · exact fun hfailed => absurd rfl hfailed
            next hstates =>
              refine fun _ => ⟨items, fills, change, ?_⟩
              exact
                { reported := rfl
                  lifecycle := rfl
                  valid := hvalid
                  read := readResponse_eq_some.mpr
                    ⟨_, horders, haccepted, hlegs.mp hcomplete, hfills⟩
                  restamps := hrestamps
                  orders := hrows
                  added := hadded
                  accounts := haccounts
                  recorded := hrecorded
                  stored := hstored
                  wellFormed := hafter
                  states := hstates }

end Accepting

end TradingPlatform.Execution

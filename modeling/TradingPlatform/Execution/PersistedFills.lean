import Mathlib.Data.List.Dedup
import TradingPlatform.Execution.PersistedOrders
import TradingPlatform.Execution.Reporting
import TradingPlatform.Storage.Accounts

/-! # Fills of a response in the memory store

Once a response's orders are placed, its fills are persisted exactly when they
pass their checks and the accounts of the new orders take their quantities.
-/

namespace TradingPlatform.Execution

open Storage

variable {p : Platform} {ctx : DecimalContext} {intent : OrderIntent} {s placed : MemoryStore}
  {index : List (LegKey × Order)} {isoNow : Nat → String}

section Reading

/-- What a fill that passed its own checks was read from. -/
structure ReadFill (ctx : DecimalContext) (index : List (LegKey × Order)) (fields : Dict)
    (order : Order) (item : FillItem) : Prop where
  matched : matchOrderForFill index (itemSide fields) (jsonText (fields.get "exchange_name")) =
    some order
  orderId : item.orderId = order.orderId
  exchangeTradeId : item.exchangeTradeId = jsonText (fields.get "exchange_trade_id")
  fillPrice : jsonNumberText ctx (fields.get "fill_price") = some item.fillPrice
  fillQty : jsonNumberText ctx (fields.get "fill_qty") = some item.fillQty
  positive : 0 < item.fillQty.value

theorem readFill_of_ok {now : String} {fields : Dict} {order : Order} {item : FillItem}
    (hitem : readFillItem ctx index now fields = .ok (order, item)) :
    ReadFill ctx index fields order item := by
  simp only [readFillItem] at hitem
  split at hitem
  · exact absurd hitem (by simp)
  next found hfound =>
    split at hitem
    next fillPrice fillQty hprice hqty =>
      simp only [require_eq_ok, Except.ok.injEq, Prod.mk.injEq] at hitem
      obtain ⟨-, hpositive, -, rfl, rfl⟩ := hitem
      exact ⟨hfound, rfl, rfl, hprice, hqty, by simpa [isPositiveNumberText] using hpositive⟩
    · exact absurd hitem (by simp)

/-- The order a fill is matched to is one of the index, on the fill's side. -/
theorem mem_of_matchOrderForFill {side : String} {exchangeName : Option String} {order : Order}
    (hmatch : matchOrderForFill index side exchangeName = some order) :
    ∃ leg, (leg, order) ∈ index ∧ leg.1 = side ∧ ∀ name ∈ exchangeName, leg.2 = name := by
  unfold matchOrderForFill at hmatch
  split at hmatch
  next name =>
    obtain ⟨before, after, rfl, -⟩ := List.lookup_eq_some_iff.mp hmatch
    exact ⟨(side, name), by simp, rfl, by simp⟩
  next =>
    split at hmatch
    next entry hentry =>
      have hmem : entry ∈ index.filter fun entry => entry.1.1 = side := by simp [hentry]
      obtain ⟨hindex, hside⟩ := List.mem_filter.mp hmem
      obtain rfl := Option.some.inj hmatch
      exact ⟨entry.1, hindex, by simpa using hside, by simp⟩
    · exact absurd hmatch (by simp)

/-- What a list of fills that passed the checks satisfies together. -/
structure ReadFills (ctx : DecimalContext) (index : List (LegKey × Order)) (payload : List Json)
    (items : List FillItem) : Prop where
  read : List.Forall₂
    (fun value item => ∃ fields order, value = .obj fields ∧ ReadFill ctx index fields order item)
    payload items
  trades : (items.filterMap fun item => item.newFill.tradeKey).Nodup

theorem readFills_of_seen {listFills : String → List Fill} {n : Nat} {progress : FillProgress}
    {payload : List Json} {items : List FillItem}
    (hitems : validateFillItems ctx listFills index isoNow n progress payload = .ok items) :
    ReadFills ctx index payload items ∧
      ∀ key ∈ items.filterMap (fun item => item.newFill.tradeKey), key ∉ progress.tradeIds := by
  induction payload generalizing n progress items with
  | nil =>
      simp only [validateFillItems, Except.ok.injEq] at hitems
      subst hitems
      exact ⟨⟨.nil, List.nodup_nil⟩, by simp⟩
  | cons value rest ih =>
      cases value with
      | obj fields =>
          simp only [validateFillItems] at hitems
          split at hitems
          · exact absurd hitems (by simp)
          next order item hitem =>
            simp only [require_eq_ok, decide_eq_true_eq] at hitems
            obtain ⟨htrade, -, -, htail⟩ := hitems
            split at htail
            · exact absurd htail (by simp)
            next later hlater =>
              obtain rfl := Except.ok.inj htail
              obtain ⟨hread, hseen⟩ := ih hlater
              have hkey : item.newFill.tradeKey = item.exchangeTradeId.map (item.orderId, ·) := rfl
              refine ⟨⟨.cons ⟨fields, order, rfl, readFill_of_ok hitem⟩ hread.read, ?_⟩, ?_⟩
              · rw [List.filterMap_cons]
                split
                · exact hread.trades
                next key hsome =>
                  refine List.nodup_cons.mpr ⟨fun hmem => hseen key hmem ?_, hread.trades⟩
                  rw [hkey] at hsome
                  simp [hsome]
              · intro key hmem
                rw [List.filterMap_cons] at hmem
                split at hmem
                · exact fun hold => hseen key hmem (List.mem_append_right _ hold)
                next first hsome =>
                  rcases List.mem_cons.mp hmem with rfl | hrest
                  · rw [hkey] at hsome
                    obtain ⟨id, hid, rfl⟩ := Option.map_eq_some_iff.mp hsome
                    simpa [hid] using htrade
                  · exact fun hold => hseen key hrest (List.mem_append_right _ hold)
      | null | bool | int | float | str | arr => simp [validateFillItems] at hitems

theorem readFills_of_ok {listFills : String → List Fill} {n : Nat} {payload : List Json}
    {items : List FillItem}
    (hitems : validateFillItems ctx listFills index isoNow n {} payload = .ok items) :
    ReadFills ctx index payload items := (readFills_of_seen hitems).1

/-- Every fill item is for an order of the index. -/
theorem ReadFills.orderId_mem {payload : List Json} {items : List FillItem}
    (hread : ReadFills ctx index payload items) {item : FillItem} (hmem : item ∈ items) :
    item.orderId ∈ index.map fun entry => entry.2.orderId := by
  obtain ⟨read, -⟩ := hread
  induction read with
  | nil => exact absurd hmem (by simp)
  | cons hhead _ ih =>
      rcases List.mem_cons.mp hmem with rfl | hrest
      · obtain ⟨fields, order, -, hitem⟩ := hhead
        obtain ⟨leg, hindex, -⟩ := mem_of_matchOrderForFill hitem.matched
        exact List.mem_map.mpr ⟨(leg, order), hindex, hitem.orderId.symm⟩
      · exact ih hrest

/-- The checks read the store only at the orders of the index. -/
theorem validateFillItems_congr (listFills other : String → List Fill)
    (hsame : ∀ entry ∈ index, listFills entry.2.orderId = other entry.2.orderId) (n : Nat)
    (progress : FillProgress) (payload : List Json) :
    validateFillItems ctx listFills index isoNow n progress payload =
      validateFillItems ctx other index isoNow n progress payload := by
  induction payload generalizing n progress with
  | nil => rfl
  | cons value rest ih =>
      cases value with
      | obj fields =>
          simp only [validateFillItems, ih]
          split
          · rfl
          next order item hitem =>
            have hread := readFill_of_ok hitem
            obtain ⟨leg, hindex, -⟩ := mem_of_matchOrderForFill hread.matched
            have hlist : listFills item.orderId = other item.orderId := by
              rw [hread.orderId]
              exact hsame _ hindex
            have hquantity : progress.quantity ctx listFills order =
                progress.quantity ctx other order := by
              rw [FillProgress.quantity, FillProgress.quantity, hsame _ hindex]
            rw [hlist, hquantity]
      | null | bool | int | float | str | arr => rfl

end Reading

section Placing

/-- The store after the orders of an index were added to it. -/
structure Placed (p : Platform) (s : MemoryStore) (index : List (LegKey × Order))
    (placed : MemoryStore) : Prop where
  orders : placed.orders = s.orders ++ index.map Prod.snd
  fills : placed.fills = s.fills
  before : MemoryStore.WellFormed p s
  after : MemoryStore.WellFormed p placed

/-- No fill of the store is for an order just placed. -/
theorem Placed.no_fill (hplaced : Placed p s index placed) {entry : LegKey × Order}
    (hmem : entry ∈ index) : ∀ fill ∈ placed.fills, fill.orderId ≠ entry.2.orderId := by
  intro fill hfill heq
  rw [hplaced.fills] at hfill
  obtain ⟨order, horder, hid, -⟩ := hplaced.before.fills fill hfill
  have hnodup := hplaced.after.nodup
  rw [hplaced.orders, List.map_append] at hnodup
  refine (List.nodup_append.mp hnodup).2.2 _ (List.mem_map_of_mem horder) _
    (List.mem_map_of_mem (List.mem_map_of_mem hmem)) ?_
  exact hid.trans heq

theorem Placed.fillsOf (hplaced : Placed p s index placed) {entry : LegKey × Order}
    (hmem : entry ∈ index) : placed.fillsOf entry.2.orderId = [] :=
  List.filter_eq_nil_iff.mpr fun fill hfill => by simpa using hplaced.no_fill hmem fill hfill

theorem Placed.listFills (hplaced : Placed p s index placed) {entry : LegKey × Order}
    (hmem : entry ∈ index) : placed.listFills entry.2.orderId = [] := by
  have horder : entry.2 ∈ placed.orders := by
    rw [hplaced.orders]
    exact List.mem_append_right _ (List.mem_map_of_mem hmem)
  obtain ⟨n, -, hid⟩ := hplaced.after.issued _ horder
  have hne : entry.2.orderId ≠ "" := hid ▸ (jsonText_eq_some (p.uuid_plain n)).2
  refine List.eq_nil_iff_forall_not_mem.mpr fun fill hfill => ?_
  simp only [MemoryStore.listFills, MemoryStore.mem_latestFirst, MemoryStore.filterRows, hne,
    if_false, List.mem_filter, decide_eq_true_eq] at hfill
  exact hplaced.no_fill hmem fill hfill.1 hfill.2

theorem Placed.account (hplaced : Placed p s index placed) {entry : LegKey × Order}
    (hmem : entry ∈ index) : placed.account entry.2.orderId = some (Account.opened entry.2) := by
  have horder : entry.2 ∈ placed.orders := by
    rw [hplaced.orders]
    exact List.mem_append_right _ (List.mem_map_of_mem hmem)
  rw [account_of_mem hplaced.after horder, hplaced.fillsOf hmem]
  rfl

/-- The accounts of the orders take the quantities of the fills. -/
def TakesFills (ctx : DecimalContext) (index : List (LegKey × Order)) (items : List FillItem) :
    Prop :=
  ∀ entry ∈ index, ((Account.opened entry.2).takeAll ctx
    (qtysFor FillItem.newFill entry.2.orderId items)).isSome

instance (ctx : DecimalContext) (index : List (LegKey × Order)) (items : List FillItem) :
    Decidable (TakesFills ctx index items) :=
  inferInstanceAs (Decidable (∀ entry ∈ index, _))

theorem qtysFor_eq_nil {payload : List Json} {items : List FillItem}
    (hread : ReadFills ctx index payload items) {orderId : String}
    (hnot : orderId ∉ index.map fun entry => entry.2.orderId) :
    qtysFor FillItem.newFill orderId items = [] := by
  simp only [qtysFor, List.map_eq_nil_iff, List.filter_eq_nil_iff, decide_eq_true_eq]
  rintro item hmem rfl
  exact hnot (hread.orderId_mem hmem)

/-- Fills for orders just placed are all persisted exactly when the accounts of
the orders take them, and then each account has taken its own. -/
theorem createFillItems_memory (hplaced : Placed p s index placed) {payload : List Json}
    {items : List FillItem} (hread : ReadFills ctx index payload items) :
    ((createFillItems (memoryStore p ctx) items placed).refusal = none ↔
        TakesFills ctx index items) ∧
      ((createFillItems (memoryStore p ctx) items placed).refusal = none → ∀ entry ∈ index,
        (createFillItems (memoryStore p ctx) items placed).store.account entry.2.orderId =
          (Account.opened entry.2).takeAll ctx
            (qtysFor FillItem.newFill entry.2.orderId items)) := by
  have hfresh : FreshTrades FillItem.newFill placed items := by
    refine ⟨hread.trades, fun item hmem key hkey hold => ?_⟩
    obtain ⟨entry, hentry, heq⟩ := List.mem_map.mp (hread.orderId_mem hmem)
    obtain ⟨id, -, rfl⟩ := Option.map_eq_some_iff.mp hkey
    obtain ⟨fill, hfill, hsame⟩ := List.mem_filterMap.mp hold
    obtain ⟨_, -, hpair⟩ := Option.map_eq_some_iff.mp hsame
    exact hplaced.no_fill hentry fill hfill ((congrArg Prod.fst hpair).trans heq.symm)
  have hknown : ∀ item ∈ items, (placed.account (FillItem.newFill item).orderId).isSome := by
    intro item hmem
    obtain ⟨entry, hentry, heq⟩ := List.mem_map.mp (hread.orderId_mem hmem)
    change (placed.account item.orderId).isSome
    rw [← heq, hplaced.account hentry]
    rfl
  obtain ⟨hiff, hafter⟩ := createFills_accounts (p := p) ctx items hfresh hknown
  refine ⟨hiff.trans ⟨fun hall entry hmem => hall _ _ (hplaced.account hmem), fun htakes id account
    haccount => ?_⟩, fun hnone entry hmem => ?_⟩
  · by_cases hid : id ∈ index.map fun entry => entry.2.orderId
    · obtain ⟨entry, hentry, rfl⟩ := List.mem_map.mp hid
      obtain rfl := Option.some.inj ((hplaced.account hentry).symm.trans haccount)
      exact htakes entry hentry
    · simp [qtysFor_eq_nil hread hid]
  · have haccount := hafter hnone entry.2.orderId
    rw [hplaced.account hmem] at haccount
    exact haccount

/-- What a run of fills leaves of the orders just placed. -/
theorem createFillItems_orders (hplaced : Placed p s index placed) {payload : List Json}
    {items : List FillItem} (hread : ReadFills ctx index payload items) :
    let run := createFillItems (memoryStore p ctx) items placed
    ∃ change, Restamps (items.map FillItem.orderId) change ∧
      run.store.orders = s.orders ++ (index.map Prod.snd).map change ∧
      refreshOrders (memoryStore p ctx) readOrderId run.store (index.map Prod.snd) =
        (index.map Prod.snd).map change := by
  intro run
  obtain ⟨change, hchange, horders⟩ := createFills_orders (p := p) ctx FillItem.newFill items placed
  obtain ⟨hwf, -⟩ := createFills_rows ctx FillItem.newFill items hplaced.after
  have hold : s.orders.map change = s.orders := by
    refine (List.map_congr_left fun order hmem => (hchange order).2 ?_).trans (List.map_id _)
    intro hid
    obtain ⟨item, hitem, heq⟩ := List.mem_map.mp hid
    obtain ⟨entry, hentry, hsame⟩ := List.mem_map.mp (hread.orderId_mem hitem)
    have hnodup := hplaced.after.nodup
    rw [hplaced.orders, List.map_append] at hnodup
    exact (List.nodup_append.mp hnodup).2.2 _ (List.mem_map_of_mem hmem) _
      (List.mem_map_of_mem (List.mem_map_of_mem hentry)) (heq.symm.trans hsame.symm)
  have hstore : run.store.orders = s.orders ++ (index.map Prod.snd).map change := by
    refine horders.trans ?_
    rw [hplaced.orders, List.map_append, hold]
  refine ⟨change, hchange, hstore, List.map_congr_left fun order hmem => ?_⟩
  have hid := hchange.orderId order
  have hrow : change order ∈ run.store.orders := by
    rw [hstore]
    exact List.mem_append_right _ (List.mem_map_of_mem hmem)
  have hfind := hwf.findOrder_of_mem hrow
  obtain ⟨n, -, hissued⟩ := hwf.issued _ hrow
  have hplain : jsonText (.str order.orderId) = some order.orderId := by
    rw [← hid, hissued]
    exact p.uuid_plain n
  simp only [readOrderId, hplain, Option.bind_some]
  rw [hid] at hfind
  simp [memoryStore, run, createFillItems] at hfind ⊢
  rw [hfind]
  rfl

end Placing

section Responses

variable {normalize : Bool} {mode : String} {payload : List Json} {items : List OrderItem}

variable (ctx) in
/-- The orders of an accepted response are placed. -/
theorem placed_of_accepted (hwf : MemoryStore.WellFormed p s) (hrec : s.Records intent)
    (haccepted : AcceptedItems ctx s intent normalize mode payload items) (hne : payload ≠ []) :
    let run := createOrdersFromResponse (memoryStore p ctx) ctx intent
      (.arr payload) normalize mode s
    run.error = none ∧ run.orderIndex = plannedIndex p intent s.serial items ∧
      Placed p s (plannedIndex p intent s.serial items) run.store := by
  obtain ⟨first, rest, rfl⟩ := List.exists_cons_of_ne_nil hne
  obtain ⟨horders, hfills, hafter, -⟩ := createOrdersFromResponse_rows ctx hwf hrec
    normalize mode (.arr (first :: rest))
  have hindex := createOrdersFromResponse_accepted (p := p) hrec haccepted
  refine ⟨(createOrdersFromResponse_error_eq_none _ hrec normalize mode _).mpr
    ⟨first, rest, items, rfl, haccepted⟩, hindex, ?_, hfills, hwf, hafter⟩
  rw [← hindex]
  exact horders

variable (intent) in
@[simp] theorem plannedIndex_legs (serial : Nat) (items : List OrderItem) :
    (plannedIndex p intent serial items).map Prod.fst = items.map OrderItem.leg := by
  rw [plannedIndex, List.map_map, ← plannedRows_items (p := p) intent serial items,
    List.map_map, plannedRows_items _]
  rfl

@[simp] theorem plannedIndex_length (serial : Nat) (items : List OrderItem) :
    (plannedIndex p intent serial items).length = items.length := by
  rw [← List.length_map (f := Prod.fst), plannedIndex_legs _, List.length_map]

/-- Accepted items are on distinct legs of the intent, so at most two, and two
of them are on both legs. -/
theorem AcceptedItems.legs_perm
    (haccepted : AcceptedItems ctx s intent normalize mode payload items)
    (htwo : items.length = 2) : (items.map OrderItem.leg).Perm (expectedLegs intent) := by
  have hread := readItems_of_ok haccepted.1
  have hsubset : items.map OrderItem.leg ⊆ expectedLegs intent := by
    intro leg hmem
    obtain ⟨item, hitem, rfl⟩ := List.mem_map.mp hmem
    obtain ⟨fields, -, hfields⟩ := hread.exists_fields hitem
    exact hfields.leg
  exact (List.subperm_of_subset hread.legs hsubset).perm_of_length_le (by simp [expectedLegs, htwo])

/-- The exchanges of an intent with two accepted items have names. -/
theorem AcceptedItems.named (haccepted : AcceptedItems ctx s intent normalize mode payload items)
    (htwo : items.length = 2) :
    ∀ leg ∈ expectedLegs intent, leg.2 ≠ "" ∧ Text.strip leg.2 = leg.2 := by
  intro leg hmem
  obtain ⟨item, hitem, rfl⟩ := List.mem_map.mp ((haccepted.legs_perm htwo).mem_iff.mpr hmem)
  obtain ⟨fields, -, hfields⟩ := (readItems_of_ok haccepted.1).exists_fields hitem
  exact (jsonText_eq_some hfields.exchange).symm

/-- Placed orders are complete exactly when there are two of them. -/
theorem validateRequiredArbitrageLegs_planned
    (haccepted : AcceptedItems ctx s intent normalize mode payload items) (serial : Nat)
    (complete : Bool) :
    validateRequiredArbitrageLegs (plannedIndex p intent serial items) intent complete = none ↔
      items.length = 2 := by
  constructor
  · intro hnone
    simp only [validateRequiredArbitrageLegs] at hnone
    split_ifs at hnone with hcontext hmissing hunexpected hcount
    simpa [expectedLegs] using hcount
  · intro htwo
    have hperm := haccepted.legs_perm htwo
    have hbuy : intent.buyExchange ≠ "" :=
      (haccepted.named htwo ("buy", _) (by simp [expectedLegs])).1
    have hsell : intent.sellExchange ≠ "" :=
      (haccepted.named htwo ("sell", _) (by simp [expectedLegs])).1
    have hmissing : (expectedLegs intent).filter
        (· ∉ (plannedIndex p intent serial items).map Prod.fst) = [] := by
      refine List.filter_eq_nil_iff.mpr fun leg hmem => ?_
      simpa [plannedIndex_legs _] using hperm.mem_iff.mpr hmem
    have hunexpected : (sortedLegs ((plannedIndex p intent serial items).map Prod.fst)).filter
        (· ∉ expectedLegs intent) = [] := by
      refine List.filter_eq_nil_iff.mpr fun leg hmem => ?_
      simp only [sortedLegs, List.mem_insertionSort, List.mem_dedup, plannedIndex_legs _] at hmem
      simpa using hperm.mem_iff.mp hmem
    have hcount : (plannedIndex p intent serial items).length = (expectedLegs intent).length := by
      simp [expectedLegs, htwo]
    simp only [validateRequiredArbitrageLegs, hmissing, hunexpected, hcount]
    simp [hbuy, hsell]

/-- Checking the fills of orders just placed reads nothing of the store. -/
theorem createFillsFromResponse_placed (hplaced : Placed p s index placed) (values : List Json) :
    createFillsFromResponse (memoryStore p ctx) ctx isoNow index (.arr values) placed =
      match validateFillItems ctx (fun _ => []) index isoNow 0 {} values with
      | .error message => ⟨[], some message, placed⟩
      | .ok fills =>
          let creation := createFillItems (memoryStore p ctx) fills placed
          { createdFills := creation.rows.map Prod.snd
            error := creation.refusal.map fun refused =>
              "private execution fill create failed: " ++ refused.2.text
            store := creation.store } := by
  have hfresh : validateFillItems ctx ((memoryStore p ctx).listFills placed) index isoNow 0
    {} values =
      validateFillItems ctx (fun _ => []) index isoNow 0 {} values :=
    validateFillItems_congr _ _ (fun entry hmem => hplaced.listFills hmem) 0 {} values
  cases hread : validateFillItems ctx (fun _ => []) index isoNow 0 {} values with
  | error message => simp only [createFillsFromResponse, hfresh, hread]
  | ok fills => simp only [createFillsFromResponse, hfresh, hread]

/-- The entries of a list of fills; anything else has none. -/
def fillEntries : Json → List Json
  | .arr values => values
  | _ => []

/-- The orders and fills a response is persisted through: both legs, each with
every check passed. -/
def readResponse (p : Platform) (ctx : DecimalContext) (isoNow : Nat → String)
    (intent : OrderIntent) (s : MemoryStore) (normalize : Bool) (payload : Dict) :
    Option (List OrderItem × List FillItem) :=
  match payload.get "orders" with
  | .arr orders =>
      match validateOrderItems ctx s.listOrders intent normalize "private_http" 1 [] [] orders with
      | .error _ => none
      | .ok items =>
          if items.length = 2 ∧ ∀ item ∈ items, item.market = intent.market then
            match validateFillItems ctx (fun _ => []) (plannedIndex p intent s.serial items) isoNow
              0 {} (fillEntries (payload.get "fills")) with
            | .error _ => none
            | .ok fills => some (items, fills)
          else none
  | _ => none

theorem readResponse_eq_some {payload : Dict} {items : List OrderItem} {fills : List FillItem} :
    readResponse p ctx isoNow intent s normalize payload = some (items, fills) ↔
      ∃ orders, payload.get "orders" = .arr orders ∧
        AcceptedItems ctx s intent normalize "private_http" orders items ∧ items.length = 2 ∧
        validateFillItems ctx (fun _ => []) (plannedIndex p intent s.serial items) isoNow 0 {}
          (fillEntries (payload.get "fills")) = .ok fills := by
  unfold readResponse AcceptedItems
  constructor
  · intro hread
    split at hread
    next orders horders =>
      split at hread
      · exact absurd hread (by simp)
      next found hitems =>
        split_ifs at hread with hcomplete
        split at hread
        · exact absurd hread (by simp)
        next others hfills =>
          obtain ⟨rfl, rfl⟩ := Prod.mk.inj (Option.some.inj hread)
          exact ⟨orders, horders, ⟨hitems, hcomplete.2⟩, hcomplete.1, hfills⟩
    · exact absurd hread (by simp)
  · rintro ⟨orders, horders, ⟨hitems, hmarket⟩, htwo, hfills⟩
    simp only [horders, hitems, htwo, hfills]
    exact if_pos ⟨trivial, hmarket⟩

end Responses

end TradingPlatform.Execution

import TradingPlatform.Foundation.IsoTexts
import TradingPlatform.Foundation.PlainTexts
import TradingPlatform.Recovery.AcceptedEvidence
import TradingPlatform.Recovery.FlatReports

/-! # Evidence that polling writes

Order and fill identifiers come from the store and are distinct, amounts are
written as they are read. Statuses and assets are what the exchanges answer.
-/

namespace TradingPlatform.Recovery

open Storage Exchange

section Polled

variable {ctx : DecimalContext} {reads : ReadStore}

theorem plainStatus_reportStatus {report : Order × Dict}
    {connectors : List (String × StatusConnector)} {market : String}
    (hreported : ReportedAs connectors market report.1 report.2) :
    PlainStatus (reportStatus report) := by
  refine ⟨Text.strip_strip _, hreported.orderId, ?_⟩
  simp only [reportStatus, reportedStatus, normalizedText, Text.strip_lower, Text.strip_strip,
    Text.lower_lower]

/-- An amount that is not negative is written as such an amount. -/
theorem isAmount_of_decimalText {q : ℚ} {text : String} (hq : 0 ≤ q)
    (htext : decimalText ctx q = .ok text) : BalanceRow.IsAmount text := by
  unfold decimalText at htext
  dsimp only at htext
  split_ifs at htext
  obtain rfl := Except.ok.inj htext
  exact Decimal.exists_ofText?_plainText .exact (decide_eq_false (not_lt.mpr hq))

theorem isAmount_text {amount : Numeral} (hamount : 0 ≤ amount.value) :
    BalanceRow.IsAmount amount.text := by
  obtain ⟨d, hd, hvalue⟩ := Option.map_eq_some_iff.mp amount.denotes
  exact ⟨d, hd, hvalue ▸ hamount⟩

/-- The asset an exchange lists a balance of. -/
def balanceAsset (item : Dict) : String :=
  Text.upper (Text.strip ((item.get "currency").orElse (item.get "asset")).textOrEmpty)

/-- A listed balance that reconciliation keeps: of an asset that matters, with
amounts that are not negative. -/
def KeepsBalance (assets : List String) (item : Dict) : Prop :=
  (assets = [] ∨ balanceAsset item ∈ assets) ∧
    (∃ free, balanceAmount item ["available", "free"] = some free ∧ 0 ≤ free) ∧
    ∃ locked, balanceAmount item ["locked", "in_use", "limit"] = some locked ∧ 0 ≤ locked

/-- The rows kept of the balances an exchange lists, those of the assets seen left out. -/
structure KeptRows (exchangeName : String) (assets : List String) (seen : List (String × String))
    (items : List Json) (rows : List BalanceRow) : Prop where
  exchange : ∀ row ∈ rows, row.exchangeName = exchangeName
  plain : ∀ row ∈ rows, Text.upper (Text.strip row.asset) = row.asset ∧
    BalanceRow.IsAmount row.free ∧ BalanceRow.IsAmount row.locked
  distinct : (rows.map BalanceRow.asset).Nodup
  mem_iff : ∀ asset, asset ∈ rows.map BalanceRow.asset ↔ (exchangeName, asset) ∉ seen ∧
    ∃ item, .obj item ∈ items ∧ KeepsBalance assets item ∧ balanceAsset item = asset

section Kept

variable {exchangeName : String} {assets : List String} {seen : List (String × String)}
  {rest : List Json} {rows : List BalanceRow}

/-- Something that is no balance to keep, or one seen before, adds nothing. -/
theorem KeptRows.skip (hkept : KeptRows exchangeName assets seen rest rows) {first : Json}
    (hskip : ∀ item, first = .obj item → KeepsBalance assets item →
      (exchangeName, balanceAsset item) ∈ seen) :
    KeptRows exchangeName assets seen (first :: rest) rows := by
  refine ⟨hkept.exchange, hkept.plain, hkept.distinct, fun asset => ?_⟩
  rw [hkept.mem_iff asset]
  apply and_congr_right
  intro hfresh
  constructor
  · rintro ⟨item, hitem, hkeeps⟩
    exact ⟨item, List.mem_cons_of_mem _ hitem, hkeeps⟩
  · rintro ⟨item, hitem, hkeeps, hasset⟩
    rcases List.mem_cons.mp hitem with heq | hitem
    · rw [← hasset] at hfresh
      exact absurd (hskip item heq.symm hkeeps) hfresh
    · exact ⟨item, hitem, hkeeps, hasset⟩

theorem KeptRows.cons {item : Dict} {row : BalanceRow}
    (hkept : KeptRows exchangeName assets ((exchangeName, balanceAsset item) :: seen) rest rows)
    (hkeeps : KeepsBalance assets item) (hfresh : (exchangeName, balanceAsset item) ∉ seen)
    (hexchange : row.exchangeName = exchangeName) (hasset : row.asset = balanceAsset item)
    (hfree : BalanceRow.IsAmount row.free) (hlocked : BalanceRow.IsAmount row.locked) :
    KeptRows exchangeName assets seen (.obj item :: rest) (row :: rows) := by
  refine ⟨?_, ?_, ?_, fun asset => ?_⟩
  · exact List.forall_mem_cons.mpr ⟨hexchange, hkept.exchange⟩
  · refine List.forall_mem_cons.mpr ⟨⟨?_, hfree, hlocked⟩, hkept.plain⟩
    rw [hasset]
    simp only [balanceAsset, Text.strip_upper, Text.strip_strip, Text.upper_upper]
  · rw [List.map_cons, List.nodup_cons]
    refine ⟨fun hmem => ?_, hkept.distinct⟩
    have hunseen := ((hkept.mem_iff _).mp hmem).1
    rw [hasset] at hunseen
    exact hunseen List.mem_cons_self
  · rw [List.map_cons, List.mem_cons, hkept.mem_iff asset, hasset]
    constructor
    · rintro (rfl | ⟨hunseen, other, hother, hkept⟩)
      · exact ⟨hfresh, item, List.mem_cons_self, hkeeps, rfl⟩
      · exact ⟨fun hseen => hunseen (List.mem_cons_of_mem _ hseen), other,
          List.mem_cons_of_mem _ hother, hkept⟩
    · rintro ⟨hunseen, other, hother, hkept, rfl⟩
      by_cases hsame : balanceAsset other = balanceAsset item
      · exact Or.inl hsame
      · refine Or.inr ⟨?_, other, ?_, hkept, rfl⟩
        · intro hseen
          rcases List.mem_cons.mp hseen with heq | hseen
          · exact hsame (Prod.mk.inj heq).2
          · exact hunseen hseen
        · rcases List.mem_cons.mp hother with heq | hother
          · exact absurd (congrArg balanceAsset (Json.obj.inj heq)) hsame
          · exact hother

end Kept

theorem exists_of_bind_eq_ok {ε α β : Type} {x : Except ε α} {f : α → Except ε β} {b : β}
    (hbind : x >>= f = .ok b) : ∃ a, x = .ok a ∧ f a = .ok b := by
  cases x with
  | error e => cases hbind
  | ok a => exact ⟨a, rfl, hbind⟩

theorem exists_of_map_eq_ok {ε α β : Type} {f : α → β} {x : Except ε α} {b : β}
    (hmap : x.map f = .ok b) : ∃ a, x = .ok a ∧ f a = b := by
  cases x with
  | error e => cases hmap
  | ok a => exact ⟨a, rfl, Except.ok.inj hmap⟩

/-- What is read of the balances an exchange lists. -/
theorem readBalances_rows {exchangeName : String} {assets : List String}
    {seen : List (String × String)} {items balances : List Json}
    (hread : readBalances ctx exchangeName assets seen items = .ok balances) :
    ∃ rows : List BalanceRow, balances = rows.map BalanceRow.json ∧
      KeptRows exchangeName assets seen items rows := by
  -- row by row: one that is skipped is no balance to keep, or its asset has been seen
  induction items generalizing seen balances with
  | nil =>
      obtain rfl := Except.ok.inj hread
      exact ⟨[], rfl, by simp, by simp, List.nodup_nil, by simp⟩
  | cons first rest ih =>
      cases first with
      | obj item =>
          rw [readBalances] at hread
          rw [← balanceAsset] at hread
          cases hfree : balanceAmount item ["available", "free"] with
          | none =>
              simp only [hfree] at hread
              obtain ⟨rows, hrows, hkept⟩ := ih hread
              refine ⟨rows, hrows, hkept.skip fun other heq hkeeps => ?_⟩
              obtain rfl := Json.obj.inj heq
              obtain ⟨free, hsome, -⟩ := hkeeps.2.1
              rw [hfree] at hsome
              simp at hsome
          | some free =>
              cases hlocked : balanceAmount item ["locked", "in_use", "limit"] with
              | none =>
                  simp only [hfree, hlocked] at hread
                  obtain ⟨rows, hrows, hkept⟩ := ih hread
                  refine ⟨rows, hrows, hkept.skip fun other heq hkeeps => ?_⟩
                  obtain rfl := Json.obj.inj heq
                  obtain ⟨locked, hsome, -⟩ := hkeeps.2.2
                  rw [hlocked] at hsome
                  simp at hsome
              | some locked =>
                  simp only [hfree, hlocked] at hread
                  split at hread
                  next hskip =>
                    obtain ⟨rows, hrows, hkept⟩ := ih hread
                    refine ⟨rows, hrows, hkept.skip fun other heq hkeeps => ?_⟩
                    obtain rfl := Json.obj.inj heq
                    obtain ⟨hmatters, ⟨_, hsomeFree, hfreePos⟩, _, hsomeLocked, hlockedPos⟩ :=
                      hkeeps
                    obtain rfl := Option.some.inj (hfree.symm.trans hsomeFree)
                    obtain rfl := Option.some.inj (hlocked.symm.trans hsomeLocked)
                    rcases hskip with hother | hnegative | hnegative | hseen
                    · exact absurd hmatters (not_or.mpr hother)
                    · exact absurd hfreePos (not_le.mpr hnegative)
                    · exact absurd hlockedPos (not_le.mpr hnegative)
                    · exact hseen
                  next hkeep =>
                    simp only [not_or, not_and_or, not_not, not_lt] at hkeep
                    obtain ⟨hmatters, hfreePos, hlockedPos, hfresh⟩ := hkeep
                    cases hfreeText : decimalText ctx free with
                    | error text => simp [hfreeText] at hread
                    | ok freeText =>
                        cases hlockedText : decimalText ctx locked with
                        | error text => simp [hfreeText, hlockedText] at hread
                        | ok lockedText =>
                            simp only [hfreeText, hlockedText] at hread
                            obtain ⟨tail, htail, hcons⟩ := exists_of_map_eq_ok hread
                            obtain ⟨rows, rfl, hkept⟩ := ih htail
                            have hkeeps : KeepsBalance assets item :=
                              ⟨hmatters, ⟨free, hfree, hfreePos⟩, locked, hlocked, hlockedPos⟩
                            refine ⟨⟨exchangeName, balanceAsset item, freeText, lockedText⟩ :: rows,
                              hcons.symm, hkept.cons hkeeps hfresh rfl rfl ?_ ?_⟩
                            · exact isAmount_of_decimalText hfreePos hfreeText
                            · exact isAmount_of_decimalText hlockedPos hlockedText
      | null | bool | int | float | str | arr =>
          rw [readBalances] at hread
          · obtain ⟨rows, hrows, hkept⟩ := ih hread
            exact ⟨rows, hrows, hkept.skip fun item heq _ => by cases heq⟩
          · intro item heq
            cases heq

/-- An exchange lists a balance to keep of an asset without a name. -/
def ListsNameless (connectors : List (String × StatusConnector)) (assets : List String)
    (exchangeName : String) : Prop :=
  ∃ connector response items item, connectors.lookup exchangeName = some connector ∧
    connector.getBalances = .ok response ∧
    (responsePayload response).map (Dict.get · "items") = some (.arr items) ∧
    .obj item ∈ items ∧ KeepsBalance assets item ∧ balanceAsset item = ""

/-- The rows of all exchanges asked: one for each asset of an exchange. -/
structure PolledRows (connectors : List (String × StatusConnector)) (assets : List String)
    (exchanges : List String) (rows : List BalanceRow) : Prop where
  exchange : ∀ row ∈ rows, row.exchangeName ∈ exchanges
  plain : ∀ row ∈ rows, Text.upper (Text.strip row.asset) = row.asset ∧
    BalanceRow.IsAmount row.free ∧ BalanceRow.IsAmount row.locked
  distinct : (rows.map BalanceRow.key).Nodup
  named_iff : (∀ row ∈ rows, row.asset ≠ "") ↔
    ∀ exchangeName ∈ exchanges, ¬ ListsNameless connectors assets exchangeName

section Gathered

variable {connectors : List (String × StatusConnector)} {assets exchanges : List String}
  {exchangeName : String} {rows found : List BalanceRow}

theorem PolledRows.skip (hpolled : PolledRows connectors assets exchanges rows)
    (hnone : ¬ ListsNameless connectors assets exchangeName) :
    PolledRows connectors assets (exchangeName :: exchanges) rows := by
  refine ⟨fun row hrow => List.mem_cons_of_mem _ (hpolled.exchange row hrow), hpolled.plain,
    hpolled.distinct, ?_⟩
  rw [hpolled.named_iff, List.forall_mem_cons]
  exact ⟨fun hall => ⟨hnone, hall⟩, And.right⟩

theorem KeptRows.named_iff {items : List Json}
    (hkept : KeptRows exchangeName assets [] items found) :
    (∀ row ∈ found, row.asset ≠ "") ↔
      ¬ ∃ item, .obj item ∈ items ∧ KeepsBalance assets item ∧ balanceAsset item = "" := by
  have hblank := hkept.mem_iff ""
  constructor
  · intro hnamed hitem
    obtain ⟨row, hrow, hasset⟩ := List.mem_map.mp (hblank.mpr ⟨List.not_mem_nil, hitem⟩)
    exact hnamed row hrow hasset
  · intro hnone row hrow hasset
    exact hnone (hblank.mp (List.mem_map.mpr ⟨row, hrow, hasset⟩)).2

theorem PolledRows.append {items : List Json}
    (hpolled : PolledRows connectors assets exchanges rows)
    (hkept : KeptRows exchangeName assets [] items found) (hfresh : exchangeName ∉ exchanges)
    (hlists : ListsNameless connectors assets exchangeName ↔
      ∃ item, .obj item ∈ items ∧ KeepsBalance assets item ∧ balanceAsset item = "") :
    PolledRows connectors assets (exchangeName :: exchanges) (found ++ rows) := by
  refine ⟨?_, ?_, ?_, ?_⟩
  · intro row hrow
    rcases List.mem_append.mp hrow with hrow | hrow
    · rw [hkept.exchange row hrow]
      exact List.mem_cons_self
    · exact List.mem_cons_of_mem _ (hpolled.exchange row hrow)
  · intro row hrow
    exact (List.mem_append.mp hrow).elim (hkept.plain row) (hpolled.plain row)
  · rw [List.map_append, List.nodup_append']
    refine ⟨?_, hpolled.distinct, ?_⟩
    · -- Rows of one exchange differ in their assets.
      apply List.Nodup.of_map Prod.snd
      rw [List.map_map]
      exact hkept.distinct
    · intro key hfound hother
      obtain ⟨row, hrow, rfl⟩ := List.mem_map.mp hfound
      obtain ⟨other, hother, hkey⟩ := List.mem_map.mp hother
      have hsame : other.exchangeName = row.exchangeName := congrArg Prod.fst hkey
      rw [hkept.exchange row hrow] at hsame
      exact hfresh (hsame ▸ hpolled.exchange other hother)
  · rw [List.forall_mem_cons, hlists, ← hkept.named_iff, ← hpolled.named_iff]
    simp only [List.mem_append, or_imp, forall_and]

end Gathered

theorem pollBalances_rows {connectors : List (String × StatusConnector)} {assets : List String}
    {exchanges : List String} {balances : List Json} (hunique : exchanges.Nodup)
    (hpoll : pollBalances ctx connectors assets exchanges = .ok balances) :
    ∃ rows : List BalanceRow, balances = rows.map BalanceRow.json ∧
      PolledRows connectors assets exchanges rows := by
  induction exchanges generalizing balances with
  | nil =>
      obtain rfl := Except.ok.inj hpoll
      exact ⟨[], rfl, by simp, by simp, List.nodup_nil, by simp⟩
  | cons exchangeName rest ih =>
      obtain ⟨hfresh, hrest⟩ := List.nodup_cons.mp hunique
      rw [pollBalances] at hpoll
      split at hpoll
      next hnone =>
        obtain ⟨rows, hrows, hpolled⟩ := ih hrest hpoll
        refine ⟨rows, hrows, hpolled.skip ?_⟩
        rintro ⟨connector, _, _, _, hsome, -⟩
        rw [hnone] at hsome
        cases hsome
      next connector hconnector =>
        split at hpoll
        next => cases hpoll
        next response hresponse =>
          split at hpoll
          next items hitems =>
            split at hpoll
            next => cases hpoll
            next found hread =>
              obtain ⟨others, hothers, rfl⟩ := exists_of_map_eq_ok hpoll
              obtain ⟨kept, rfl, hkept⟩ := readBalances_rows hread
              obtain ⟨rows, rfl, hpolled⟩ := ih hrest hothers
              refine ⟨kept ++ rows, List.map_append.symm, hpolled.append hkept hfresh ?_⟩
              constructor
              · rintro ⟨_, _, _, item, hsome, hanswer, hlisted, hitem⟩
                obtain rfl := Option.some.inj (hconnector.symm.trans hsome)
                obtain rfl := Except.ok.inj (hresponse.symm.trans hanswer)
                obtain rfl := Json.arr.inj (Option.some.inj (hitems.symm.trans hlisted))
                exact ⟨item, hitem⟩
              · rintro ⟨item, hitem⟩
                exact ⟨connector, response, items, item, hconnector, hresponse, hitems, hitem⟩
          next hother =>
            obtain ⟨rows, hrows, hpolled⟩ := ih hrest hpoll
            refine ⟨rows, hrows, hpolled.skip ?_⟩
            rintro ⟨_, _, items, _, hsome, hanswer, hlisted, -⟩
            obtain rfl := Option.some.inj (hconnector.symm.trans hsome)
            obtain rfl := Except.ok.inj (hresponse.symm.trans hanswer)
            exact hother items hlisted

end Polled

section Snapshots

variable {p : Platform} {ctx : DecimalContext} {connectors : List (String × StatusConnector)}
  {reads : ReadStore} {trace patch : Dict} {orders : List Order} {fills : List Fill}
  {isoNow : String}

/-- The evidence a snapshot adds to a trace. -/
theorem snapshot_fields (hsnapshot : buildAutoReconciliationSnapshot ctx connectors reads trace
      orders fills isoNow = .ok (some patch)) (recordedAt : String) :
    let stored := trace.merge (reconciliationPatch trace patch recordedAt)
    ∃ poll balances,
      pollOrders ctx connectors reads (relatedMarket orders) {} orders = .ok poll ∧
      pollBalances ctx connectors (relevantAssetsFromMarket (relatedMarket orders))
        (relatedExchanges orders) = .ok balances ∧
      stored.get "reconciliation_observed_at" = .str isoNow ∧
      stored.get "reconciliation_observed_order_ids" = .arr (poll.orderIds.map .str) ∧
      stored.get "reconciliation_observed_fill_ids" =
        .arr (((fills.map fun fill => Text.strip fill.fillId).filter (· ≠ "")).map .str) ∧
      stored.get "reconciliation_observed_order_statuses" = .arr (poll.statuses.map statusJson) ∧
      stored.get "reconciliation_observed_balances" = .arr balances := by
  intro stored
  obtain ⟨poll, balances, residual, residualText, -, hpoll, -, hbalances, -, -, hpatch⟩ :=
    exists_of_snapshot hsnapshot
  refine ⟨poll, balances, hpoll, hbalances, ?_⟩
  have hkeys : ((reconciliationPatch trace patch recordedAt).map Prod.fst).Nodup := by
    rw [map_fst_reconciliationPatch (map_fst_snapshot hsnapshot)]
    decide
  refine ⟨Dict.get_merge_of_mem hkeys (List.mem_append_left _ ?_),
    Dict.get_merge_of_mem hkeys (List.mem_append_left _ ?_),
    Dict.get_merge_of_mem hkeys (List.mem_append_left _ ?_),
    Dict.get_merge_of_mem hkeys (List.mem_append_left _ ?_),
    Dict.get_merge_of_mem hkeys (List.mem_append_left _ ?_)⟩
  all_goals simp [hpatch, reconciliationSnapshot, statusJson]

theorem sublist_orderReports (market : String) (orders : List Order) :
    ((orderReports connectors market orders).map Prod.fst).Sublist orders := by
  induction orders with
  | nil => exact List.Sublist.slnil
  | cons order rest ih =>
      unfold orderReports at ih ⊢
      rw [List.filterMap_cons]
      split
      next => exact ih.cons order
      next report hreport =>
        split at hreport
        next => obtain rfl := Option.some.inj hreport; exact ih.cons_cons order
        next => cases hreport

/-- Orders a store issued, as the reports name them. -/
theorem distinct_reports {s : MemoryStore} (hreach : MemoryStore.Reachable p ctx s) (trace : Dict)
    (market : String) :
    ((orderReports connectors market (relatedOrders (s.reads ctx) trace)).map
      (Text.strip ·.1.orderId)).Nodup := by
  have hwf := hreach.wellFormed
  have hlisted := MemoryStore.nodup_listRunOrders hwf.nodup (traceText trace "bot_id")
    (traceText trace "run_id")
  have hrelated : ((relatedOrders (s.reads ctx) trace).map Order.orderId).Nodup := by
    unfold relatedOrders
    dsimp only
    split_ifs
    · exact hlisted
    · exact hlisted.sublist (List.filter_sublist.map _)
  have hplain : ∀ order ∈ relatedOrders (s.reads ctx) trace,
      Text.strip order.orderId = order.orderId := by
    intro order horder
    have hmem : order ∈ s.orders := by
      unfold relatedOrders at horder
      dsimp only at horder
      split_ifs at horder
      · exact (MemoryStore.mem_listRunOrders.mp horder).1
      · exact (MemoryStore.mem_listRunOrders.mp (List.mem_of_mem_filter horder)).1
    obtain ⟨n, -, hid⟩ := hwf.issued order hmem
    rw [hid]
    exact (jsonText_eq_some (p.uuid_plain n)).1
  have hstripped : (relatedOrders (s.reads ctx) trace).map (Text.strip ·.orderId) =
      (relatedOrders (s.reads ctx) trace).map Order.orderId := List.map_congr_left hplain
  have hreports : ((orderReports connectors market (relatedOrders (s.reads ctx) trace)).map
      Prod.fst).Sublist (relatedOrders (s.reads ctx) trace) := sublist_orderReports market _
  have hsub := hreports.map (Text.strip ·.orderId)
  rw [List.map_map, hstripped] at hsub
  exact hrelated.sublist hsub

/-- Fills a store issued, as a snapshot names them. -/
theorem distinct_fillIds {s : MemoryStore} (hreach : MemoryStore.Reachable p ctx s) (trace : Dict) :
    let ids := ((relatedFills (s.reads ctx) trace).map fun fill => Text.strip fill.fillId).filter
      (· ≠ "")
    ids.Nodup ∧ ∀ text ∈ ids, Text.strip text = text ∧ text ≠ "" := by
  have hissued := hreach.issuedFills
  have hlisted := MemoryStore.nodup_listRunFills hissued.nodup (traceText trace "bot_id")
    (traceText trace "run_id")
  have hstripped : (relatedFills (s.reads ctx) trace).map (fun fill => Text.strip fill.fillId) =
      (relatedFills (s.reads ctx) trace).map Fill.fillId := by
    apply List.map_congr_left
    intro fill hfill
    obtain ⟨n, -, hid⟩ :=
      hissued.issued fill (MemoryStore.mem_listRunFills (List.mem_of_mem_filter hfill))
    rw [hid]
    exact (jsonText_eq_some (p.uuid_plain n)).1
  dsimp only
  rw [hstripped]
  refine ⟨List.Nodup.filter _ (hlisted.sublist (List.filter_sublist.map _)), fun text htext => ?_⟩
  obtain ⟨hmem, hne⟩ := List.mem_filter.mp htext
  refine ⟨?_, by simpa using hne⟩
  rw [← hstripped] at hmem
  obtain ⟨fill, -, rfl⟩ := List.mem_map.mp hmem
  exact Text.strip_strip _

/-- What the exchanges answer about orders and balances is known to the checks:
each reported status, and each asset of a balance to keep has a name. -/
structure KnownAnswers (connectors : List (String × StatusConnector)) (orders : List Order) :
    Prop where
  statuses : ∀ order ∈ orders, ∀ payload,
    ReportedAs connectors (relatedMarket orders) order payload →
      normalizedText (payload.get "status") ∈ knownOrderStatuses
  assets : ∀ exchangeName ∈ relatedExchanges orders,
    ¬ ListsNameless connectors (relevantAssetsFromMarket (relatedMarket orders)) exchangeName

theorem relatedExchange_plain {exchangeName : String} {orders : List Order}
    (hmem : exchangeName ∈ relatedExchanges orders) :
    Text.strip exchangeName = exchangeName ∧ exchangeName ≠ "" := by
  simp only [relatedExchanges, sortedTexts, List.mem_insertionSort, List.mem_dedup, List.mem_filter,
    decide_eq_true_eq] at hmem
  obtain ⟨hname, hne⟩ := hmem
  obtain ⟨order, -, rfl⟩ := List.mem_map.mp hname
  exact ⟨Text.strip_strip _, by simpa using hne⟩

theorem relatedExchanges_nodup (orders : List Order) : (relatedExchanges orders).Nodup :=
  (List.perm_insertionSort _ _).nodup_iff.mpr (List.nodup_dedup _)

/-- The evidence of a snapshot is accepted exactly when the answers are known. -/
theorem snapshot_accepted_iff {s later : MemoryStore} (hreach : MemoryStore.Reachable p ctx s)
    (hlater : MemoryStore.Reachable p ctx later) {observedAt now : Int}
    (hlow : Datetime.microsPerDay ≤ observedAt)
    (hhigh : observedAt < (Datetime.maxOrdinal + 1) * Datetime.microsPerDay)
    (hnow : observedAt ≤ now)
    (hsnapshot : buildAutoReconciliationSnapshot ctx connectors (s.reads ctx) trace
      (relatedOrders (s.reads ctx) trace) (relatedFills (later.reads ctx) trace)
      (Datetime.isoText observedAt) = .ok (some patch)) (recordedAt : String) :
    AcceptedEvidence (trace.merge (reconciliationPatch trace patch recordedAt)) now ↔
      KnownAnswers connectors (relatedOrders (s.reads ctx) trace) := by
  obtain ⟨poll, balances, hpoll, hbalances, hobserved, hids, hfills, hstatuses, hrows⟩ :=
    snapshot_fields hsnapshot recordedAt
  obtain ⟨-, rfl⟩ := pollOrders_eq_ok hpoll
  obtain ⟨rows, rfl, hpolled⟩ := pollBalances_rows (relatedExchanges_nodup _) hbalances
  have hreported : ∀ report ∈ orderReports connectors
      (relatedMarket (relatedOrders (s.reads ctx) trace)) (relatedOrders (s.reads ctx) trace),
      reportedStatus report ≠ "" := fun report hmem => (mem_orderReports.mp hmem).2.status
  rw [foldl_recordReport_orderIds hreported, List.nil_append] at hids
  rw [foldl_recordReport_statuses hreported, List.nil_append] at hstatuses
  have hdistinct := @distinct_reports p ctx connectors s hreach trace
    (relatedMarket (relatedOrders (s.reads ctx) trace))
  have hplain : ∀ row ∈ rows, row.Plain := by
    intro row hrow
    obtain ⟨hstrip, hnamed⟩ := relatedExchange_plain (hpolled.exchange row hrow)
    obtain ⟨hasset, hfree, hlocked⟩ := hpolled.plain row hrow
    exact ⟨hstrip, hnamed, hasset, hfree, hlocked⟩
  have hstatusesRead := statuses_read_iff hstatuses (by rwa [List.map_map]) (by
    intro status hstatus
    obtain ⟨report, hreport, rfl⟩ := List.mem_map.mp hstatus
    exact plainStatus_reportStatus (mem_orderReports.mp hreport).2)
  have hbalancesRead := BalanceRow.read_iff hrows hpolled.distinct hplain
  constructor
  · intro haccepted
    refine ⟨?_, hpolled.named_iff.mp (hbalancesRead.mp haccepted.balances)⟩
    intro order horder payload hreported
    have hmem : (order, payload) ∈ orderReports connectors
        (relatedMarket (relatedOrders (s.reads ctx) trace)) (relatedOrders (s.reads ctx) trace) :=
      mem_orderReports.mpr ⟨horder, hreported⟩
    have hstatus := hstatusesRead.mp haccepted.orderStatuses (reportStatus (order, payload))
      (List.mem_map.mpr ⟨_, hmem, rfl⟩)
    simpa only [reportStatus, reportedStatus] using hstatus
  · intro hknown
    refine ⟨ids_read hids hdistinct ?_, ?_, hstatusesRead.mpr ?_,
      hbalancesRead.mpr (hpolled.named_iff.mpr hknown.assets), fun _ => ?_⟩
    · intro text htext
      obtain ⟨report, hreport, rfl⟩ := List.mem_map.mp htext
      exact ⟨Text.strip_strip _, (mem_orderReports.mp hreport).2.orderId⟩
    · have hfillIds := distinct_fillIds hlater trace
      exact ids_read hfills hfillIds.1 hfillIds.2
    · intro status hstatus
      obtain ⟨report, hreport, rfl⟩ := List.mem_map.mp hstatus
      obtain ⟨horder, hreported⟩ := mem_orderReports.mp hreport
      have hstatus := hknown.statuses report.1 horder report.2 hreported
      simpa only [reportStatus, reportedStatus] using hstatus
    · rw [hobserved]
      exact ⟨observedAt, hnow, parseIsoDatetime_isoText hlow hhigh⟩

end Snapshots

end TradingPlatform.Recovery

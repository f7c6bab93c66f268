import Mathlib.Data.List.Dedup
import TradingPlatform.Foundation.TextCase
import TradingPlatform.Recovery.ClosedTraces

/-! # Resolving on a match

A trace is resolved on its reconciliation exactly when the evidence it carries
is complete: a match without orders or residual, observed recently, with lists
that are well formed, and balances of both exchanges with nothing locked.
-/

namespace TradingPlatform.Recovery

open Storage Exchange

section Specification

/-- A list of evidence is missing, or it is read and satisfies a condition. -/
def OptionalEvidence {α κ : Type} (read : Json → Option α) (key : α → κ) (value : Json)
    (condition : List α → Prop) : Prop :=
  value ≠ .null → ∃ as, ReadsAs read key value as ∧ condition as

/-- A market consists of two parts, taken between dashes if there are two such,
else between slashes. -/
def MarketParts (market base quote : String) : Prop :=
  nonBlankParts '-' (Text.upper (Text.strip market)) = [base, quote] ∨
    ((nonBlankParts '-' (Text.upper (Text.strip market))).length ≠ 2 ∧
      nonBlankParts '/' (Text.upper (Text.strip market)) = [base, quote])

/-- The balances show a pair with nothing locked. -/
def Unlocked (balances : List ObservedBalance) (exchangeName asset : String) : Prop :=
  ∃ balance ∈ balances, balance.exchangeName = exchangeName ∧ balance.asset = asset ∧
    balance.locked.value = 0

/-- An intent of two exchanges and two assets, all of whose balances are unlocked. -/
structure UnlockedIntent (intent : OrderIntent) (balances : List ObservedBalance) : Prop where
  buyNamed : Text.strip intent.buyExchange ≠ ""
  sellNamed : Text.strip intent.sellExchange ≠ ""
  distinct : Text.strip intent.buyExchange ≠ Text.strip intent.sellExchange
  unlocked : ∃ base quote, MarketParts intent.market base quote ∧
    ∀ exchangeName ∈ [Text.strip intent.buyExchange, Text.strip intent.sellExchange],
      ∀ asset ∈ [base, quote], Unlocked balances exchangeName asset

/-- The evidence a trace is resolved on. -/
structure FullEvidence (reads : ReadStore) (settings : RecoverySettings) (now : Int)
    (trace : Dict) : Prop where
  isMatch : reconciliationResult trace = "matched"
  noBoolean : isBool (trace.get "reconciliation_open_order_count") = false
  noOpenOrder : parseInt (trace.get "reconciliation_open_order_count") = some 0
  noResidual : (parseDecimal (trace.get "reconciliation_residual_exposure_quote")).map
    Decimal.value = some 0
  observed : ∃ observedAt, parseIsoDatetime (trace.get "reconciliation_observed_at") =
    some observedAt ∧ observedAt ≤ now ∧
      (now - observedAt) / Datetime.microsPerSecond < settings.staleAfterSeconds
  orderIds : OptionalEvidence observedText id (trace.get "reconciliation_observed_order_ids")
    fun _ => True
  fillIds : OptionalEvidence observedText id (trace.get "reconciliation_observed_fill_ids")
    fun _ => True
  orderStatuses : OptionalEvidence observedOrderStatus ObservedOrderStatus.orderId
    (trace.get "reconciliation_observed_order_statuses")
    fun statuses => ∀ status ∈ statuses, status.status = "filled"
  balances : ∃ balances intent, ReadsAs observedBalance ObservedBalance.key
    (trace.get "reconciliation_observed_balances") balances ∧
      traceIntentId trace ≠ "" ∧ reads.getOrderIntent (traceIntentId trace) = some intent ∧
      UnlockedIntent intent balances

end Specification

section Readers

variable {α κ : Type} {read : Json → Option α} {key : α → κ}

@[simp] theorem failedFields_eq_nil {checks : List (String × Bool)} :
    failedFields checks = [] ↔ ∀ check ∈ checks, check.2 = false := by
  simp [failedFields, List.filter_eq_nil_iff]

theorem hasItems_eq_true {items : Option (List α)} :
    hasItems items = true ↔ ∃ as, items = some as ∧ as ≠ [] := by
  cases items <;> simp [hasItems]

/-- A field passes when its list is missing or read. -/
theorem evidenceUnread_eq_false [DecidableEq κ] {trace : Dict} {field : String} :
    evidenceUnread trace (observedList read key) field = false ↔
      OptionalEvidence read key (trace.get field) fun _ => True := by
  simp only [evidenceUnread, Bool.and_eq_false_imp, Bool.not_eq_true', isNull_eq_false,
    OptionalEvidence, and_true, ← observedList_eq_some_iff, Option.isNone_eq_false_iff,
    Option.isSome_iff_exists]

theorem OptionalEvidence.and_imp [DecidableEq κ] {value : Json} {condition : List α → Prop}
    (hread : OptionalEvidence read key value fun _ => True)
    (hcondition : ∀ as, observedList read key value = some as → condition as) :
    OptionalEvidence read key value condition := by
  intro hvalue
  obtain ⟨as, has, -⟩ := hread hvalue
  exact ⟨as, has, hcondition as (observedList_eq_some_iff.mpr has)⟩

theorem OptionalEvidence.weaken {value : Json} {condition : List α → Prop}
    (hevidence : OptionalEvidence read key value condition) :
    OptionalEvidence read key value fun _ => True :=
  fun hvalue => (hevidence hvalue).imp fun _ has => ⟨has.1, trivial⟩

/-- What an evidence list satisfies when it is there, the list read satisfies. -/
theorem OptionalEvidence.of_observed [DecidableEq κ] {value : Json} {condition : List α → Prop}
    {as : List α}
    (hevidence : OptionalEvidence read key value condition)
    (has : observedList read key value = some as) : condition as := by
  have hvalue : value ≠ .null := by
    rintro rfl
    simp [observedList] at has
  obtain ⟨bs, hbs, hcondition⟩ := hevidence hvalue
  rw [← observedList_eq_some_iff, has] at hbs
  exact Option.some.inj hbs ▸ hcondition

theorem observedOrderStatus_known {item : Json} {row : ObservedOrderStatus}
    (hrow : observedOrderStatus item = some row) : row.status ∈ knownOrderStatuses := by
  simp only [observedOrderStatus] at hrow
  split at hrow
  · split at hrow
    · split_ifs at hrow with hbad
      obtain rfl := Option.some.inj hrow
      simp only [not_or, not_not] at hbad
      exact hbad.2.2
    · exact absurd hrow (by simp)
  · exact absurd hrow (by simp)

theorem observedBalance_terms {item : Json} {balance : ObservedBalance}
    (hbalance : observedBalance item = some balance) :
    relevantKey balance = balance.key ∧ 0 ≤ balance.locked.value := by
  unfold observedBalance at hbalance
  split at hbalance
  · split at hbalance
    · split_ifs at hbalance with hbad
      obtain rfl := Option.some.inj hbalance
      simp only [not_or, not_lt] at hbad
      refine ⟨?_, hbad.2.2.2⟩
      simp [relevantKey, ObservedBalance.key, Text.strip_upper]
    · exact absurd hbalance (by simp)
  · exact absurd hbalance (by simp)

/-- Every item of a list that is read comes from some value. -/
theorem ReadsAs.exists_item {value : Json} {as : List α} (hreads : ReadsAs read key value as)
    {a : α} (hmem : a ∈ as) : ∃ item, read item = some a := by
  obtain ⟨items, -, hitems⟩ := hreads.items
  have hsome : some a ∈ items.map read := by
    rw [hitems]
    exact List.mem_map_of_mem hmem
  obtain ⟨item, -, hitem⟩ := List.mem_map.mp hsome
  exact ⟨item, hitem⟩

end Readers

section Checks

variable {trace : Dict} {reads : ReadStore} {settings : RecoverySettings} {now : Int}

theorem matchedWithoutResidual_iff : matchedWithoutResidual trace = true ↔
    reconciliationResult trace = "matched" ∧ openOrderCount trace = some 0 ∧
      (reconciliationResidual trace).map Decimal.value = some 0 := by
  simp [matchedWithoutResidual, and_assoc]

/-- A match without residual is valid when its count is no truth value and its
observation is not in the future. -/
theorem invalidResultHandoffReason_eq_none (hmatch : matchedWithoutResidual trace = true) :
    invalidResultHandoffReason trace now = none ↔
      isBool (trace.get "reconciliation_open_order_count") = false ∧
        (trace.get "reconciliation_observed_at" ≠ .null → ∃ observedAt,
          parseIsoDatetime (trace.get "reconciliation_observed_at") = some observedAt ∧
            observedAt ≤ now) := by
  obtain ⟨hresult, hcount, hresidual⟩ := matchedWithoutResidual_iff.mp hmatch
  obtain ⟨residual, hsome, hzero⟩ := Option.map_eq_some_iff.mp hresidual
  simp only [invalidResultHandoffReason, hresult, hcount, hsome]
  simp [hzero, Option.any_eq_true]

theorem staleHandoffReason_eq_none (hmatch : matchedWithoutResidual trace = true) :
    staleHandoffReason trace settings now = none ↔ ∃ observedAt,
      parseIsoDatetime (trace.get "reconciliation_observed_at") = some observedAt ∧
        ageSeconds now observedAt < settings.staleAfterSeconds := by
  simp only [staleHandoffReason, hmatch, Bool.not_true, Bool.false_eq_true, if_false]
  cases parseIsoDatetime (trace.get "reconciliation_observed_at") with
  | none => simp
  | some observedAt => by_cases hfresh : ageSeconds now observedAt < settings.staleAfterSeconds <;>
      simp [hfresh]

theorem invalidEvidenceHandoffReason_eq_none (hmatch : matchedWithoutResidual trace = true) :
    invalidEvidenceHandoffReason trace = none ↔
      OptionalEvidence observedText id (trace.get "reconciliation_observed_order_ids")
          (fun _ => True) ∧
        OptionalEvidence observedText id (trace.get "reconciliation_observed_fill_ids")
          (fun _ => True) ∧
        OptionalEvidence observedOrderStatus ObservedOrderStatus.orderId
          (trace.get "reconciliation_observed_order_statuses") (fun _ => True) ∧
        OptionalEvidence observedBalance ObservedBalance.key
          (trace.get "reconciliation_observed_balances") (fun _ => True) := by
  obtain ⟨hresult, hcount, hresidual⟩ := matchedWithoutResidual_iff.mp hmatch
  obtain ⟨residual, hsome, -⟩ := Option.map_eq_some_iff.mp hresidual
  simp only [← evidenceUnread_eq_false]
  simp [invalidEvidenceHandoffReason, hresult, hcount, hsome, observedStringIds,
    observedOrderStatuses, observedBalances]

/-- An observed status is not ended in failure and not open exactly when it is filled. -/
theorem normalizedStatus_eq_filled : ∀ status ∈ knownOrderStatuses,
    (normalizedStatus status ∉ terminalFailureOrderStatuses ∧
      normalizedStatus status ∈ terminalOrderStatuses) ↔ status = "filled" := by
  decide +kernel

/-- The statuses a trace observes are those its list reads as. -/
theorem mem_observedStatuses {status : String} : status ∈ observedStatuses trace ↔
    ∃ statuses, observedOrderStatuses (trace.get "reconciliation_observed_order_statuses") =
      some statuses ∧ ∃ row ∈ statuses, normalizedStatus row.status = status := by
  cases hread : observedOrderStatuses (trace.get "reconciliation_observed_order_statuses") <;>
    simp [observedStatuses, hread]

/-- All statuses a list observes pass exactly when each of them is filled. -/
theorem statusHandoffReason_eq_none (hmatch : matchedWithoutResidual trace = true) :
    statusHandoffReason trace = none ↔ ∀ statuses,
      observedOrderStatuses (trace.get "reconciliation_observed_order_statuses") = some statuses →
        ∀ row ∈ statuses, row.status = "filled" := by
  have hpass : statusHandoffReason trace = none ↔ ∀ status ∈ observedStatuses trace,
      status ∉ terminalFailureOrderStatuses ∧ status ∈ terminalOrderStatuses := by
    simp only [statusHandoffReason, hmatch, Bool.not_true, Bool.false_eq_true, if_false, ne_eq,
      sortedTexts_eq_nil]
    split_ifs with hfailures hnonterminal
    · simp only [List.filter_eq_nil_iff, decide_eq_true_eq, not_not] at hfailures hnonterminal
      exact iff_of_true rfl fun status hstatus => ⟨hfailures status hstatus,
        hnonterminal status hstatus⟩
    · refine iff_of_false (by simp) fun hpass => hnonterminal ?_
      simpa [List.filter_eq_nil_iff] using fun status hstatus => (hpass status hstatus).2
    · refine iff_of_false (by simp) fun hpass => hfailures ?_
      simpa [List.filter_eq_nil_iff] using fun status hstatus => (hpass status hstatus).1
  rw [hpass]
  constructor
  · intro hstatuses statuses hread row hrow
    obtain ⟨item, hitem⟩ := (observedList_eq_some_iff.mp hread).exists_item hrow
    refine (normalizedStatus_eq_filled _ (observedOrderStatus_known hitem)).mp (hstatuses _ ?_)
    exact mem_observedStatuses.mpr ⟨statuses, hread, row, hrow, rfl⟩
  · intro hfilled status hstatus
    obtain ⟨statuses, hread, row, hrow, rfl⟩ := mem_observedStatuses.mp hstatus
    obtain ⟨item, hitem⟩ := (observedList_eq_some_iff.mp hread).exists_item hrow
    exact (normalizedStatus_eq_filled _ (observedOrderStatus_known hitem)).mpr
      (hfilled statuses hread row hrow)

end Checks

section Balances

variable {trace : Dict} {reads : ReadStore}

/-- The balance of an asset is the one a balance is compared under, and it is not negative. -/
theorem ReadsAs.balance_terms {value : Json} {balances : List ObservedBalance}
    (hreads : ReadsAs observedBalance ObservedBalance.key value balances)
    {balance : ObservedBalance}
    (hmem : balance ∈ balances) : relevantKey balance = balance.key ∧ 0 ≤ balance.locked.value := by
  obtain ⟨item, hitem⟩ := hreads.exists_item hmem
  exact observedBalance_terms hitem

theorem MarketParts.assets {market base quote : String} (hparts : MarketParts market base quote) :
    relevantAssetsFromMarket market = [base, quote] := by
  rcases hparts with hdash | ⟨hdash, hslash⟩
  · simp [relevantAssetsFromMarket, hdash]
  · simp [relevantAssetsFromMarket, hdash, hslash]

theorem exists_marketParts {market : String} (hassets : relevantAssetsFromMarket market ≠ []) :
    ∃ base quote, MarketParts market base quote := by
  unfold relevantAssetsFromMarket at hassets
  dsimp only at hassets
  split_ifs at hassets with hdash hslash
  · obtain ⟨base, quote, hparts⟩ := List.length_eq_two.mp hdash
    exact ⟨base, quote, Or.inl hparts⟩
  · obtain ⟨base, quote, hparts⟩ := List.length_eq_two.mp hslash
    exact ⟨base, quote, Or.inr ⟨hdash, hparts⟩⟩
  · exact absurd rfl hassets

/-- The intent names two exchanges exactly when two distinct names are left. -/
theorem two_le_relevantExchanges : 2 ≤ (relevantExchanges reads trace).length ↔
    ∃ intent, traceIntent reads trace = some intent ∧ Text.strip intent.buyExchange ≠ "" ∧
      Text.strip intent.sellExchange ≠ "" ∧
        Text.strip intent.buyExchange ≠ Text.strip intent.sellExchange := by
  cases hintent : traceIntent reads trace with
  | none => simp [relevantExchanges, hintent]
  | some intent =>
      simp only [relevantExchanges, hintent, Option.some.injEq, exists_eq_left', List.map_cons,
        List.map_nil, List.filter_cons, List.filter_nil, decide_eq_true_eq]
      by_cases hbuy : Text.strip intent.buyExchange = "" <;>
        by_cases hsell : Text.strip intent.sellExchange = "" <;>
          by_cases hsame : Text.strip intent.buyExchange = Text.strip intent.sellExchange <;>
            simp_all [List.dedup_cons_of_mem, List.dedup_cons_of_notMem]

theorem mem_relevantExchanges {intent : OrderIntent}
    (hintent : traceIntent reads trace = some intent) (hbuy : Text.strip intent.buyExchange ≠ "")
    (hsell : Text.strip intent.sellExchange ≠ "") {exchangeName : String} :
    exchangeName ∈ relevantExchanges reads trace ↔
      exchangeName ∈ [Text.strip intent.buyExchange, Text.strip intent.sellExchange] := by
  simp [relevantExchanges, hintent, hbuy, hsell]

/-- No pair of a balance list is missing or locked exactly when each is unlocked. -/
theorem unlocked_iff {value : Json} {balances : List ObservedBalance}
    (hreads : ReadsAs observedBalance ObservedBalance.key value balances)
    (exchanges assets : List String) :
    ((∀ exchangeName ∈ exchanges, ∀ asset ∈ assets, ∃ balance ∈ balances,
        relevantKey balance = (exchangeName, asset)) ∧
      ∀ balance ∈ balances, (relevantKey balance).1 ∈ exchanges →
        (relevantKey balance).2 ∈ assets → balance.locked.value ≤ 0) ↔
      ∀ exchangeName ∈ exchanges, ∀ asset ∈ assets, Unlocked balances exchangeName asset := by
  constructor
  · rintro ⟨hpresent, hfree⟩ exchangeName hexchange asset hasset
    obtain ⟨balance, hmem, hkey⟩ := hpresent exchangeName hexchange asset hasset
    obtain ⟨hterms, hnonneg⟩ := hreads.balance_terms hmem
    have hlocked := hfree balance hmem (by rwa [hkey]) (by rwa [hkey])
    rw [hterms, ObservedBalance.key, Prod.mk.injEq] at hkey
    exact ⟨balance, hmem, hkey.1, hkey.2, le_antisymm hlocked hnonneg⟩
  · intro hunlocked
    constructor
    · intro exchangeName hexchange asset hasset
      obtain ⟨balance, hmem, rfl, rfl, -⟩ := hunlocked exchangeName hexchange asset hasset
      exact ⟨balance, hmem, (hreads.balance_terms hmem).1⟩
    · intro balance hmem hexchange hasset
      obtain ⟨other, hother, hotherExchange, hotherAsset, hzero⟩ :=
        hunlocked _ hexchange _ hasset
      -- a key stands for one balance only
      have hsame : other = balance := by
        refine List.inj_on_of_nodup_map hreads.unique hother hmem ?_
        rw [← (hreads.balance_terms hmem).1, ObservedBalance.key, hotherExchange, hotherAsset]
      exact (hsame ▸ hzero).le

/-- The checks of the balances, with what each of them looks for. -/
theorem balanceHandoffReason_eq_none (hmatch : matchedWithoutResidual trace = true)
    {balances : List ObservedBalance}
    (hbalances : (observedBalances (trace.get "reconciliation_observed_balances")).getD [] =
      balances) :
    balanceHandoffReason reads trace = none ↔
      2 ≤ (relevantExchanges reads trace).length ∧ relevantAssets reads trace ≠ [] ∧
        (∀ exchangeName ∈ relevantExchanges reads trace, ∀ asset ∈ relevantAssets reads trace,
          ∃ balance ∈ balances, relevantKey balance = (exchangeName, asset)) ∧
        ∀ balance ∈ balances, (relevantKey balance).1 ∈ relevantExchanges reads trace →
          (relevantKey balance).2 ∈ relevantAssets reads trace → balance.locked.value ≤ 0 := by
  simp only [balanceHandoffReason, hmatch, hbalances, Bool.not_true, Bool.false_eq_true, if_false]
  split_ifs with hexchanges hassets hmissing hlocked
  · exact iff_of_false (by simp) fun hpass => absurd hpass.1 (by omega)
  · exact iff_of_false (by simp) fun hpass => hpass.2.1 hassets
  · refine iff_of_false (by simp) fun hpass => hmissing ?_
    simp only [List.filter_eq_nil_iff, decide_eq_true_eq, not_not, List.mem_flatMap, List.mem_map]
    rintro - ⟨exchangeName, hexchange, asset, hasset, rfl⟩
    obtain ⟨balance, hmem, hkey⟩ := hpass.2.2.1 exchangeName hexchange asset hasset
    exact ⟨balance, List.mem_filter.mpr ⟨hmem, by simp [hkey, hexchange, hasset]⟩, hkey⟩
  · refine iff_of_false (by simp) fun hpass => hlocked ?_
    simp only [List.filter_eq_nil_iff, decide_eq_true_eq, not_lt]
    intro balance hmem
    obtain ⟨hmem, hrelevant⟩ := List.mem_filter.mp hmem
    simp only [Bool.and_eq_true, decide_eq_true_eq] at hrelevant
    exact hpass.2.2.2 balance hmem hrelevant.1 hrelevant.2
  · rw [not_ne_iff, List.filter_eq_nil_iff] at hmissing hlocked
    simp only [decide_eq_true_eq, not_not, not_lt] at hmissing hlocked
    refine iff_of_true rfl ⟨by omega, hassets, ?_, ?_⟩
    · intro exchangeName hexchange asset hasset
      obtain ⟨balance, hmem, hkey⟩ := List.mem_map.mp (hmissing (exchangeName, asset)
        (List.mem_flatMap.mpr ⟨exchangeName, hexchange, List.mem_map_of_mem hasset⟩))
      exact ⟨balance, (List.mem_filter.mp hmem).1, hkey⟩
    · intro balance hmem hexchange hasset
      exact hlocked balance (List.mem_filter.mpr ⟨hmem, by simp [hexchange, hasset]⟩)

/-- The balances pass when the intent's are all read and unlocked. -/
theorem balanceHandoffReason_eq_none_iff (hmatch : matchedWithoutResidual trace = true)
    (hread : OptionalEvidence observedBalance ObservedBalance.key
      (trace.get "reconciliation_observed_balances") fun _ => True) :
    balanceHandoffReason reads trace = none ↔
      ∃ balances intent, ReadsAs observedBalance ObservedBalance.key
          (trace.get "reconciliation_observed_balances") balances ∧
        traceIntent reads trace = some intent ∧ UnlockedIntent intent balances := by
  rw [balanceHandoffReason_eq_none hmatch rfl]
  constructor
  · rintro ⟨hexchanges, hassets, hpresent, hfree⟩
    obtain ⟨intent, hintent, hbuy, hsell, hdistinct⟩ := two_le_relevantExchanges.mp hexchanges
    obtain ⟨base, quote, hparts⟩ : ∃ base quote, MarketParts intent.market base quote :=
      exists_marketParts (by simpa [relevantAssets, hintent] using hassets)
    have hassetList : relevantAssets reads trace = [base, quote] := by
      simp [relevantAssets, hintent, hparts.assets]
    -- without a list of balances no pair is present
    have hvalue : trace.get "reconciliation_observed_balances" ≠ .null := by
      intro hnull
      have hbuyMem := (mem_relevantExchanges hintent hbuy hsell).mpr List.mem_cons_self
      obtain ⟨balance, hmem, -⟩ := hpresent _ hbuyMem base (by simp [hassetList])
      simp [hnull, observedBalances, observedList] at hmem
    obtain ⟨balances, hreads, -⟩ := hread hvalue
    rw [observedBalances, observedList_eq_some_iff.mpr hreads, Option.getD_some] at hpresent hfree
    refine ⟨balances, intent, hreads, hintent, hbuy, hsell, hdistinct, base, quote, hparts, ?_⟩
    intro exchangeName hexchange
    rw [← hassetList]
    exact (unlocked_iff hreads _ _).mp ⟨hpresent, hfree⟩ exchangeName
      ((mem_relevantExchanges hintent hbuy hsell).mpr hexchange)
  · rintro ⟨balances, intent, hreads, hintent, hbuy, hsell, hdistinct, base, quote, hparts,
      hunlocked⟩
    have hassetList : relevantAssets reads trace = [base, quote] := by
      simp [relevantAssets, hintent, hparts.assets]
    rw [observedBalances, observedList_eq_some_iff.mpr hreads, Option.getD_some]
    refine ⟨two_le_relevantExchanges.mpr ⟨intent, hintent, hbuy, hsell, hdistinct⟩,
      by simp [hassetList], (unlocked_iff hreads _ _).mpr ?_⟩
    intro exchangeName hexchange
    rw [hassetList]
    exact hunlocked exchangeName ((mem_relevantExchanges hintent hbuy hsell).mp hexchange)

end Balances

section Resolution

variable {c : TraceContext} {trace : Dict} {now : Int} {isoNow : Nat → String}

theorem reconciliationHandoff_eq_none : reconciliationHandoff c trace = none ↔
    invalidResultHandoffReason trace c.clock.resultChecked = none ∧
      staleHandoffReason trace c.settings c.clock.stalenessChecked = none ∧
      invalidEvidenceHandoffReason trace = none ∧ evidenceHandoffReason trace = none ∧
      statusHandoffReason trace = none ∧ balanceHandoffReason c.reads trace = none := by
  simp [reconciliationHandoff]

/-- A date outside the calendar is no date, so the check of the fields is concerned with it. -/
theorem observationOverflows_eq_false (hhandoff : reconciliationHandoff c trace = none) :
    observationOverflows trace = false := by
  have hvalid := (reconciliationHandoff_eq_none.mp hhandoff).1
  by_contra hoverflows
  obtain ⟨hresult, hdate⟩ : (reconciliationResult trace = "matched" ∨
      reconciliationResult trace = "mismatch") ∧
        isoOverflows (trace.get "reconciliation_observed_at") = true := by
    simpa [observationOverflows] using hoverflows
  have hchecked : ¬(reconciliationResult trace ≠ "matched" ∧
      reconciliationResult trace ≠ "mismatch") := fun hneither =>
    hresult.elim hneither.1 hneither.2
  simp only [invalidResultHandoffReason, if_neg hchecked] at hvalid
  split_ifs at hvalid with hfields
  rw [failedFields_eq_nil] at hfields
  have hpresent : isNull (trace.get "reconciliation_observed_at") = false := by
    cases hvalue : trace.get "reconciliation_observed_at" with
    | null => rw [hvalue] at hdate; cases hdate
    | _ => rfl
  have hobserved := hfields _
    (List.mem_cons_of_mem _ (List.mem_cons_of_mem _ List.mem_cons_self))
  simp [hpresent, parseIsoDatetime_of_isoOverflows hdate] at hobserved

/-- A verdict to resolve on the match needs the match and no reason to hand over. -/
theorem traceVerdict_eq_matched {orders : List Order} :
    traceVerdict c orders trace = .resolved "reconciliation_matched_zero_residual" ↔
      matchedWithoutResidual trace = true ∧ reconciliationHandoff c trace = none := by
  unfold traceVerdict
  cases hhandoff : reconciliationHandoff c trace with
  | some handoff => split_ifs <;> simp
  | none =>
      rw [if_neg (by simp [observationOverflows_eq_false hhandoff])]
      cases hmatch : matchedWithoutResidual trace with
      | true => simp [resolutionReason, hmatch]
      | false =>
          simp only [resolutionReason, hmatch, Bool.false_eq_true, if_false, false_and, iff_false]
          cases unwindFailureHandoff c trace with
          | some handoff => simp
          | none =>
              cases unwindStaleHandoff c.reads trace c.settings c.clock.unwindChecked with
              | some handoff => split_ifs <;> simp
              | none => split_ifs <;> simp

theorem traceIntent_eq_some_iff {reads : ReadStore} {intent : OrderIntent} :
    traceIntent reads trace = some intent ↔
      traceIntentId trace ≠ "" ∧ reads.getOrderIntent (traceIntentId trace) = some intent := by
  by_cases hid : traceIntentId trace = "" <;> simp [traceIntent, hid]

/-- Seen balances are evidence. -/
theorem evidenceHandoffReason_eq_none {balances : List ObservedBalance}
    (hreads : ReadsAs observedBalance ObservedBalance.key
      (trace.get "reconciliation_observed_balances") balances) (hsome : balances ≠ []) :
    evidenceHandoffReason trace = none := by
  have hitems : hasItems (observedBalances (trace.get "reconciliation_observed_balances")) = true :=
    hasItems_eq_true.mpr ⟨balances, observedList_eq_some_iff.mpr hreads, hsome⟩
  simp [evidenceHandoffReason, hitems]

/-- At one reading of the clock the checks pass exactly on full evidence. -/
theorem reconciled_iff_fullEvidence :
    matchedWithoutResidual trace = true ∧
        reconciliationHandoff { c with clock := .still now isoNow } trace = none ↔
      FullEvidence c.reads c.settings now trace := by
  rw [reconciliationHandoff_eq_none]
  constructor
  · rintro ⟨hmatch, hresult, hstale, hevidence, -, hstatus, hbalance⟩
    obtain ⟨hmatched, hcount, hresidual⟩ := matchedWithoutResidual_iff.mp hmatch
    -- each check that passes has read one part of the evidence
    obtain ⟨hbool, hinstant⟩ := (invalidResultHandoffReason_eq_none hmatch).mp hresult
    obtain ⟨observedAt, hobserved, hage⟩ := (staleHandoffReason_eq_none hmatch).mp hstale
    obtain ⟨horderIds, hfillIds, hstatuses, hbalances⟩ :=
      (invalidEvidenceHandoffReason_eq_none hmatch).mp hevidence
    obtain ⟨balances, intent, hreads, hintent, hunlocked⟩ :=
      (balanceHandoffReason_eq_none_iff hmatch hbalances).mp hbalance
    have hpresent : trace.get "reconciliation_observed_at" ≠ .null := by
      intro hnull
      simp [hnull, parseIsoDatetime] at hobserved
    obtain ⟨instant, hparsed, hpast⟩ := hinstant hpresent
    obtain rfl := Option.some.inj (hobserved.symm.trans hparsed)
    exact {
      isMatch := hmatched
      noBoolean := hbool
      noOpenOrder := hcount
      noResidual := hresidual
      observed := ⟨observedAt, hobserved, hpast, by
        simp only [ageSeconds] at hage
        exact (max_lt_iff.mp hage).2⟩
      orderIds := horderIds
      fillIds := hfillIds
      orderStatuses := hstatuses.and_imp ((statusHandoffReason_eq_none hmatch).mp hstatus)
      balances := ⟨balances, intent, hreads, (traceIntent_eq_some_iff.mp hintent).1,
        (traceIntent_eq_some_iff.mp hintent).2, hunlocked⟩ }
  · intro hfull
    have hmatch : matchedWithoutResidual trace = true :=
      matchedWithoutResidual_iff.mpr ⟨hfull.isMatch, hfull.noOpenOrder, hfull.noResidual⟩
    obtain ⟨observedAt, hobserved, hpast, hage⟩ := hfull.observed
    obtain ⟨balances, intent, hreads, hid, hintent, hunlocked⟩ := hfull.balances
    have hbalances : OptionalEvidence observedBalance ObservedBalance.key
        (trace.get "reconciliation_observed_balances") fun _ => True :=
      fun _ => ⟨balances, hreads, trivial⟩
    -- the balances that are reported free include one of the base currency
    have hsome : balances ≠ [] := by
      rintro rfl
      obtain ⟨base, quote, -, hpairs⟩ := hunlocked.unlocked
      obtain ⟨balance, hmem, -⟩ := hpairs _ List.mem_cons_self _ List.mem_cons_self
      exact absurd hmem List.not_mem_nil
    refine ⟨hmatch, ?_, ?_, ?_, ?_, ?_, ?_⟩
    · exact (invalidResultHandoffReason_eq_none hmatch).mpr
        ⟨hfull.noBoolean, fun _ => ⟨observedAt, hobserved, hpast⟩⟩
    · refine (staleHandoffReason_eq_none hmatch).mpr ⟨observedAt, hobserved, ?_⟩
      exact max_lt c.settings.staleAfter_pos hage
    · exact (invalidEvidenceHandoffReason_eq_none hmatch).mpr
        ⟨hfull.orderIds, hfull.fillIds, hfull.orderStatuses.weaken, hbalances⟩
    · exact evidenceHandoffReason_eq_none hreads hsome
    · exact (statusHandoffReason_eq_none hmatch).mpr fun statuses hstatuses =>
        hfull.orderStatuses.of_observed hstatuses
    · exact (balanceHandoffReason_eq_none_iff hmatch hbalances).mpr
        ⟨balances, intent, hreads, traceIntent_eq_some_iff.mpr ⟨hid, hintent⟩, hunlocked⟩

/-- The verdict on a trace is to resolve it on its match exactly when it has an
identifier and, once it is reconciled, full evidence. -/
theorem verdict_processTrace_eq_matched (c : TraceContext) (now : Int) (isoNow : Nat → String)
    (trace : Dict) (redis : Runtime.RedisRuntime) :
    (processTrace { c with clock := .still now isoNow } trace redis).verdict =
        .resolved "reconciliation_matched_zero_residual" ↔
      traceText trace "recovery_trace_id" ≠ "" ∧ ∃ reconciled synced,
        autoRecordReconciliation { c with clock := .still now isoNow } trace redis =
          .ok (reconciled, synced) ∧
        FullEvidence c.reads c.settings now reconciled := by
  unfold processTrace
  split_ifs with hid
  · exact iff_of_false (by simp) fun hfull => hfull.1 hid
  · split
    next text herror => simp [herror]
    next reconciled synced hok =>
      simp only [traceVerdict_eq_matched, reconciled_iff_fullEvidence, hid, hok, ne_eq,
        not_false_eq_true, true_and, Except.ok.injEq, Prod.mk.injEq, and_assoc,
        exists_and_left, exists_eq_left']

/-- A trace is resolved on its match, and kept as closed for it, exactly when it has an
identifier and, once it is reconciled, full evidence. Otherwise it is kept so only where
it was closed for it before the step. -/
theorem processTrace_resolves_match_iff (c : TraceContext) (now : Int) (isoNow : Nat → String)
    (trace : Dict) (redis : Runtime.RedisRuntime) :
    let atNow := { c with clock := .still now isoNow }
    let step := processTrace atNow trace redis
    let evident := traceText trace "recovery_trace_id" ≠ "" ∧ ∃ reconciled synced,
      autoRecordReconciliation atNow trace redis = .ok (reconciled, synced) ∧
        FullEvidence c.reads c.settings now reconciled
    (step.verdict = .resolved "reconciliation_matched_zero_residual" ∧
        KeptClosed step.redis trace "reconciliation_matched_zero_residual" ↔ evident) ∧
      (KeptClosed step.redis trace "reconciliation_matched_zero_residual" →
        evident ∨ ClosedAs "reconciliation_matched_zero_residual" trace ∨
          KeptClosed redis trace "reconciliation_matched_zero_residual") := by
  intro atNow step evident
  have hverdict := verdict_processTrace_eq_matched c now isoNow trace redis
  constructor
  · exact (and_iff_left_of_imp (keptClosed_processTrace atNow)).trans hverdict
  · exact fun hkept => hkept.of_processTrace.imp_left hverdict.mp

end Resolution

end TradingPlatform.Recovery

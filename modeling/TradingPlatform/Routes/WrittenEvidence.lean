import TradingPlatform.Recovery.PolledEvidence
import TradingPlatform.Recovery.StatusConnectors
import TradingPlatform.Routes.RecoveryWrite

/-! # Evidence as it is written and as it is read

Polling and operators write the evidence that the checks of a trace read. What is
written may name a status the checks do not know and, where operators write it, an
instant to come.
-/

namespace TradingPlatform.Routes

open Storage Exchange Recovery

section Reports

variable {setup : RecoverySetup} {body current : Dict} {reconciliation : Reconciliation}

theorem readIfPresent_eq_ok {α : Type} {field message : String} {read : Json → Option α}
    {found : Option α} (hnull : read .null = none)
    (hread : readIfPresent body field message read = .ok found) :
    found = read (body.get field) := by
  unfold readIfPresent at hread
  split at hread
  · split at hread
    · cases hread
    next a ha =>
      obtain rfl := Except.ok.inj hread
      exact ha.symm
  next habsent =>
    obtain rfl := Except.ok.inj hread
    have hnone : body.get? field = none := by
      simpa only [Dict.has, Option.isSome_iff_ne_none, not_not] using habsent
    rw [Dict.get, hnone, Option.getD_none, hnull]

/-- The evidence of an accepted request is what is read of its body. -/
structure ReadsEvidence (setup : RecoverySetup) (body : Dict) (reconciliation : Reconciliation) :
    Prop where
  observedAt : reconciliation.observedAt = jsonDatetimeText (body.get "observed_at")
  orderIds : reconciliation.orderIds = uniqueStringList (body.get "observed_order_ids")
  fillIds : reconciliation.fillIds = uniqueStringList (body.get "observed_fill_ids")
  orderStatuses :
    reconciliation.orderStatuses = reportedOrderStatuses (body.get "observed_order_statuses")
  balances : reconciliation.balances = reportedBalances setup (body.get "observed_balances")

theorem readsEvidence_of_reconciliationRequest
    (hrequest : reconciliationRequest setup body = .ok reconciliation) :
    ReadsEvidence setup body reconciliation := by
  unfold reconciliationRequest at hrequest
  dsimp only at hrequest
  split at hrequest
  · cases hrequest
  obtain ⟨_, -, hrequest⟩ := exists_of_bind_eq_ok hrequest
  split at hrequest
  · cases hrequest
  obtain ⟨_, -, hrequest⟩ := exists_of_bind_eq_ok hrequest
  split at hrequest
  · cases hrequest
  obtain ⟨_, -, hrequest⟩ := exists_of_bind_eq_ok hrequest
  obtain ⟨_, hobserved, hrequest⟩ := exists_of_bind_eq_ok hrequest
  obtain ⟨_, horders, hrequest⟩ := exists_of_bind_eq_ok hrequest
  obtain ⟨_, hfills, hrequest⟩ := exists_of_bind_eq_ok hrequest
  obtain ⟨_, hstatuses, hrequest⟩ := exists_of_bind_eq_ok hrequest
  obtain ⟨_, hbalances, hrequest⟩ := exists_of_bind_eq_ok hrequest
  obtain rfl := Except.ok.inj hrequest
  exact ⟨readIfPresent_eq_ok rfl hobserved, readIfPresent_eq_ok rfl horders,
    readIfPresent_eq_ok rfl hfills, readIfPresent_eq_ok rfl hstatuses,
    readIfPresent_eq_ok rfl hbalances⟩

/-- The evidence a recorded request adds to a trace. -/
theorem recorded_fields (body current : Dict) (reconciliation : Reconciliation)
    (updatedAt : String) :
    let stored := current.merge (recordedPatch body current reconciliation updatedAt)
    stored.get "reconciliation_observed_at" = textOrMissing reconciliation.observedAt ∧
      stored.get "reconciliation_observed_order_ids" =
        listOrMissing reconciliation.orderIds .str ∧
      stored.get "reconciliation_observed_fill_ids" = listOrMissing reconciliation.fillIds .str ∧
      stored.get "reconciliation_observed_order_statuses" =
        listOrMissing reconciliation.orderStatuses statusJson ∧
      stored.get "reconciliation_observed_balances" =
        listOrMissing reconciliation.balances fun balance =>
          BalanceRow.json ⟨balance.exchangeName, balance.asset, balance.free.text,
            balance.locked.text⟩ := by
  have hkeys : ((recordedPatch body current reconciliation updatedAt).map Prod.fst).Nodup := by
    simp only [recordedPatch, List.map_cons, List.map_nil]
    decide
  refine ⟨Dict.get_merge_of_mem hkeys ?_, Dict.get_merge_of_mem hkeys ?_,
    Dict.get_merge_of_mem hkeys ?_,
    Dict.get_merge_of_mem hkeys ?_, Dict.get_merge_of_mem hkeys ?_⟩
  all_goals simp [recordedPatch, BalanceRow.json]
  rfl

/-- What a request reports is known to the checks: each status, and the instant of
observation, which is not to come. -/
structure KnownReport (body : Dict) (now : Int) : Prop where
  statuses : ∀ statuses,
    reportedOrderStatuses (body.get "observed_order_statuses") = some statuses →
      ∀ status ∈ statuses, status.status ∈ knownOrderStatuses
  observedAt : ∀ instant, parseIsoDatetime (body.get "observed_at") = some instant → instant ≤ now

theorem uniqueStringList_plain {value : Json} {ids : List String}
    (hids : uniqueStringList value = some ids) :
    ids.Nodup ∧ ∀ text ∈ ids, Text.strip text = text ∧ text ≠ "" := by
  obtain ⟨⟨items, -, hread⟩, hunique⟩ := observedList_eq_some_iff.mp hids
  refine ⟨by rwa [List.map_id] at hunique, fun text htext => ?_⟩
  have hmem : some text ∈ items.map observedText := hread ▸ List.mem_map_of_mem htext
  obtain ⟨item, -, hitem⟩ := List.mem_map.mp hmem
  cases item with
  | str s =>
      rw [observedText] at hitem
      exact nonBlank_eq_some hitem
  | null | bool | int | float | arr | obj => cases hitem

theorem reportedOrderStatuses_plain {value : Json} {statuses : List ObservedOrderStatus}
    (hstatuses : reportedOrderStatuses value = some statuses) :
    (statuses.map ObservedOrderStatus.orderId).Nodup ∧
      ∀ status ∈ statuses, PlainStatus status := by
  obtain ⟨⟨items, -, hread⟩, hunique⟩ := observedList_eq_some_iff.mp hstatuses
  refine ⟨hunique, fun status hstatus => ?_⟩
  have hmem : some status ∈ items.map reportedOrderStatus := hread ▸ List.mem_map_of_mem hstatus
  obtain ⟨item, -, hitem⟩ := List.mem_map.mp hmem
  unfold reportedOrderStatus at hitem
  split at hitem
  next fields =>
    split at hitem
    next orderId text _ _ =>
      dsimp only at hitem
      split at hitem
      next => cases hitem
      next hblank =>
        obtain rfl := Option.some.inj hitem
        obtain ⟨horder, -⟩ := not_or.mp hblank
        refine ⟨Text.strip_strip _, horder, ?_⟩
        simp only [Text.strip_lower, Text.strip_strip, Text.lower_lower]
    next => cases hitem
  next => cases hitem

theorem reportedBalances_plain {value : Json} {balances : List ReportedBalance}
    (hbalances : reportedBalances setup value = some balances) :
    let rows := balances.map fun balance : ReportedBalance => BalanceRow.mk balance.exchangeName
      balance.asset balance.free.text balance.locked.text
    (rows.map BalanceRow.key).Nodup ∧ ∀ row ∈ rows, row.Plain ∧ row.asset ≠ "" := by
  obtain ⟨⟨items, -, hread⟩, hunique⟩ := observedList_eq_some_iff.mp hbalances
  dsimp only
  refine ⟨by rwa [List.map_map], fun row hrow => ?_⟩
  obtain ⟨balance, hbalance, rfl⟩ := List.mem_map.mp hrow
  have hmem : some balance ∈ items.map (reportedBalance setup) :=
    hread ▸ List.mem_map_of_mem hbalance
  obtain ⟨item, -, hitem⟩ := List.mem_map.mp hmem
  unfold reportedBalance at hitem
  split at hitem
  next fields =>
    split at hitem
    next exchangeName asset free locked _ _ _ _ =>
      split at hitem
      next => cases hitem
      next hkept =>
        obtain rfl := Option.some.inj hitem
        simp only [Bool.or_eq_true, Bool.not_eq_true', decide_eq_true_eq, not_or,
          Bool.not_eq_false, isNonnegativeNumberText] at hkept
        obtain ⟨⟨⟨hfree, hlocked⟩, hname⟩, hasset⟩ := hkept
        refine ⟨⟨Text.strip_strip _, hname, ?_, ?_, ?_⟩, hasset⟩
        · simp only [Text.strip_upper, Text.strip_strip, Text.upper_upper]
        · exact isAmount_text hfree
        · exact isAmount_text hlocked
    next => cases hitem
  next => cases hitem

/-- The evidence of an accepted request is accepted exactly when what it reports is known. -/
theorem report_accepted_iff {now : Int}
    (hrequest : reconciliationRequest setup body = .ok reconciliation) (current : Dict)
    (updatedAt : String) :
    AcceptedEvidence (current.merge (recordedPatch body current reconciliation updatedAt)) now ↔
      KnownReport body now := by
  have hreads := readsEvidence_of_reconciliationRequest hrequest
  obtain ⟨hobserved, hids, hfills, hstatuses, hrows⟩ :=
    recorded_fields body current reconciliation updatedAt
  rw [hreads.observedAt, jsonDatetimeText] at hobserved
  rw [hreads.orderIds] at hids
  rw [hreads.fillIds] at hfills
  rw [hreads.orderStatuses] at hstatuses
  rw [hreads.balances] at hrows
  -- lists of identifiers are read back as they were written
  have hidsRead : ∀ value field, (current.merge (recordedPatch body current reconciliation
      updatedAt)).get field = listOrMissing (uniqueStringList value) .str →
      evidenceUnread (current.merge (recordedPatch body current reconciliation updatedAt))
        observedStringIds field = false := by
    intro value field hfield
    cases hlist : uniqueStringList value with
    | none =>
        rw [hlist] at hfield
        exact evidenceUnread_null hfield
    | some ids =>
        rw [hlist] at hfield
        obtain ⟨hunique, hplain⟩ := uniqueStringList_plain hlist
        exact ids_read hfield hunique hplain
  constructor
  · intro haccepted
    refine ⟨fun statuses hreported => ?_, fun instant hinstant => ?_⟩
    · rw [hreported] at hstatuses
      obtain ⟨hunique, hplain⟩ := reportedOrderStatuses_plain hreported
      exact (statuses_read_iff hstatuses hunique hplain).mp haccepted.orderStatuses
    · obtain ⟨hlow, hhigh⟩ := parseIsoDatetime_range hinstant
      rw [hinstant, Option.map_some] at hobserved
      obtain ⟨read, hread, hparse⟩ := haccepted.observedAt (by rw [hobserved]; simp [textOrMissing])
      rw [hobserved, textOrMissing, Option.elim_some, parseIsoDatetime_isoText hlow hhigh] at hparse
      exact Option.some.inj hparse ▸ hread
  · intro hknown
    refine ⟨hidsRead _ _ hids, hidsRead _ _ hfills, ?_, ?_, fun hpresent => ?_⟩
    · cases hlist : reportedOrderStatuses (body.get "observed_order_statuses") with
      | none =>
          rw [hlist] at hstatuses
          exact evidenceUnread_null hstatuses
      | some statuses =>
          rw [hlist] at hstatuses
          obtain ⟨hunique, hplain⟩ := reportedOrderStatuses_plain hlist
          exact (statuses_read_iff hstatuses hunique hplain).mpr (hknown.statuses statuses hlist)
    · cases hlist : reportedBalances setup (body.get "observed_balances") with
      | none =>
          rw [hlist] at hrows
          exact evidenceUnread_null hrows
      | some balances =>
          rw [hlist] at hrows
          obtain ⟨hunique, hplain⟩ := reportedBalances_plain hlist
          refine (BalanceRow.read_iff ?_ hunique fun row hrow => (hplain row hrow).1).mpr
            fun row hrow => (hplain row hrow).2
          rw [hrows, List.map_map]
          rfl
    · cases hinstant : parseIsoDatetime (body.get "observed_at") with
      | none =>
          rw [hinstant] at hobserved
          exact absurd hobserved hpresent
      | some instant =>
          obtain ⟨hlow, hhigh⟩ := parseIsoDatetime_range hinstant
          rw [hinstant, Option.map_some] at hobserved
          rw [hobserved]
          exact ⟨instant, hknown.observedAt instant hinstant, parseIsoDatetime_isoText hlow hhigh⟩

end Reports

section Producers

/-- Evidence is written on a trace, by polling or by an operator: the trace that is
stored, and what the checks have to know of what was written. -/
inductive WritesEvidence (now : Int) : (stored : Dict) → (known : Prop) → Prop
  | polled {p : Platform} {ctx : DecimalContext} {connectors : List (String × StatusConnector)}
      {s later : MemoryStore} {trace patch : Dict} {observedAt : Int}
      (hconnectors : ∀ entry ∈ connectors, RepositoryConnector entry.2)
      (hreach : MemoryStore.Reachable p ctx s) (hlater : MemoryStore.Reachable p ctx later)
      (hlow : Datetime.microsPerDay ≤ observedAt)
      (hhigh : observedAt < (Datetime.maxOrdinal + 1) * Datetime.microsPerDay)
      (hnow : observedAt ≤ now)
      (hsnapshot : buildAutoReconciliationSnapshot ctx connectors (s.reads ctx) trace
        (relatedOrders (s.reads ctx) trace) (relatedFills (later.reads ctx) trace)
        (Datetime.isoText observedAt) = .ok (some patch)) (recordedAt : String) :
      WritesEvidence now (trace.merge (reconciliationPatch trace patch recordedAt))
        (KnownAnswers connectors (relatedOrders (s.reads ctx) trace))
  | recorded {setup : RecoverySetup} {body : Dict} {reconciliation : Reconciliation}
      (hrequest : reconciliationRequest setup body = .ok reconciliation) (current : Dict)
      (updatedAt : String) :
      WritesEvidence now (current.merge (recordedPatch body current reconciliation updatedAt))
        (KnownReport body now)

/-- Written evidence is accepted exactly when what was written is known. -/
theorem writtenEvidence_accepted_iff {now : Int} {stored : Dict} {known : Prop}
    (hwrites : WritesEvidence now stored known) : AcceptedEvidence stored now ↔ known := by
  cases hwrites with
  | polled _ hreach hlater hlow hhigh hnow hsnapshot recordedAt =>
      exact snapshot_accepted_iff hreach hlater hlow hhigh hnow hsnapshot recordedAt
  | recorded hrequest current updatedAt => exact report_accepted_iff hrequest current updatedAt

/-- An exchange that reports every order in one state, and no balances. -/
def stateWire (state : String) : StatusWire where
  orderStatus _ := .ok (.obj [("state", .str state)])
  balances := .ok (.arr [])

def stateConnectors (state : String) : List (String × StatusConnector) :=
  [("upbit", upbitStatusConnector (stateWire state))]

/-- An entry with one order, at the first exchange. -/
def oneLeg : MemoryStore :=
  (MemoryStore.createOrder .counting (openBuyOrder (Platform.counting.uuid 1))
    (MemoryStore.withIntent .counting (Execution.oneUnitIntent "upbit" "bithumb"))).2

def legTrace : Dict :=
  [("recovery_trace_id", .str "rt"), ("bot_id", .str "bot"),
    ("run_id", .str (Platform.counting.uuid 0)), ("intent_id", .str (Platform.counting.uuid 1)),
    ("residual_exposure_quote", .str "0")]

/-- An instant of the year 2024. -/
def sampleInstant : Int := 738886 * Datetime.microsPerDay

theorem reachable_oneLeg : MemoryStore.Reachable .counting .exact oneLeg :=
  .step (MemoryStore.reachable_withIntent _ _ _) (.createOrder _)

theorem repositoryConnector_stateConnectors (state : String) :
    ∀ entry ∈ stateConnectors state, RepositoryConnector entry.2 := by
  intro entry hentry
  obtain rfl := List.mem_singleton.mp hentry
  exact .upbit _

/-- What polling finds of the order in a state. -/
def polledLeg (state : String) : Except String (Option Dict) :=
  buildAutoReconciliationSnapshot .exact (stateConnectors state) (oneLeg.reads .exact) legTrace
    (relatedOrders (oneLeg.reads .exact) legTrace) (relatedFills (oneLeg.reads .exact) legTrace)
    (Datetime.isoText sampleInstant)

theorem exists_polledLeg (state : String)
    (hpolled : (polledLeg state).toOption.join.isSome = true) :
    ∃ patch, polledLeg state = .ok (some patch) := by
  obtain ⟨patch, hpatch⟩ := Option.isSome_iff_exists.mp hpolled
  exact ⟨patch, join_toOption_eq_some_iff.mp hpatch⟩

theorem writesEvidence_polledLeg {state : String} {patch : Dict}
    (hpolled : polledLeg state = .ok (some patch)) :
    WritesEvidence sampleInstant (legTrace.merge (reconciliationPatch legTrace patch ""))
      (KnownAnswers (stateConnectors state) (relatedOrders (oneLeg.reads .exact) legTrace)) :=
  .polled (repositoryConnector_stateConnectors state) reachable_oneLeg reachable_oneLeg (by decide)
    (by decide) le_rfl hpolled ""

/-- Where the market names its assets only the statuses matter. -/
theorem knownAnswers_iff_reports {connectors : List (String × StatusConnector)}
    {orders : List Order} (hassets : relevantAssetsFromMarket (relatedMarket orders) ≠ [])
    (hnamed : "" ∉ relevantAssetsFromMarket (relatedMarket orders)) :
    KnownAnswers connectors orders ↔
      ∀ report ∈ orderReports connectors (relatedMarket orders) orders,
        reportedStatus report ∈ knownOrderStatuses := by
  constructor
  · intro hknown report hreport
    obtain ⟨horder, hreported⟩ := mem_orderReports.mp hreport
    exact hknown.statuses report.1 horder report.2 hreported
  · intro hreports
    refine ⟨fun order horder payload hreported => ?_, fun exchangeName _ hlists => ?_⟩
    · have hmem : (order, payload) ∈ orderReports connectors (relatedMarket orders) orders :=
        mem_orderReports.mpr ⟨horder, hreported⟩
      exact hreports (order, payload) hmem
    · obtain ⟨_, _, _, item, -, -, -, -, hkeeps, hblank⟩ := hlists
      rcases hkeeps.1 with hempty | hmatters
      · exact hassets hempty
      · rw [hblank] at hmatters
        exact hnamed hmatters

theorem relevantAssets_oneLeg : relevantAssetsFromMarket
    (relatedMarket (relatedOrders (oneLeg.reads .exact) legTrace)) = ["XRP", "KRW"] := by
  decide +kernel

theorem knownAnswers_oneLeg_iff (state : String) :
    KnownAnswers (stateConnectors state) (relatedOrders (oneLeg.reads .exact) legTrace) ↔
      ∀ report ∈ orderReports (stateConnectors state)
        (relatedMarket (relatedOrders (oneLeg.reads .exact) legTrace))
        (relatedOrders (oneLeg.reads .exact) legTrace),
        reportedStatus report ∈ knownOrderStatuses := by
  apply knownAnswers_iff_reports
  · rw [relevantAssets_oneLeg]
    simp
  · rw [relevantAssets_oneLeg]
    decide

/-- A filled order is reported in a known status. -/
theorem writtenEvidence_accepted_filled :
    ∃ patch, polledLeg "done" = .ok (some patch) ∧
      AcceptedEvidence (legTrace.merge (reconciliationPatch legTrace patch "")) sampleInstant := by
  obtain ⟨patch, hpolled⟩ := exists_polledLeg "done" (by decide +kernel)
  refine ⟨patch, hpolled,
    (writtenEvidence_accepted_iff (writesEvidence_polledLeg hpolled)).mpr ?_⟩
  rw [knownAnswers_oneLeg_iff]
  decide +kernel

/-- A waiting order is open, a status the checks do not know. -/
theorem not_writtenEvidence_accepted : ¬ ∀ (now : Int) (stored : Dict) (known : Prop),
    WritesEvidence now stored known → AcceptedEvidence stored now := by
  intro hall
  obtain ⟨patch, hpolled⟩ := exists_polledLeg "wait" (by decide +kernel)
  have haccepted := hall _ _ _ (writesEvidence_polledLeg hpolled)
  have hknown := (snapshot_accepted_iff reachable_oneLeg reachable_oneLeg (by decide) (by decide)
    le_rfl hpolled "").mp haccepted
  rw [knownAnswers_oneLeg_iff] at hknown
  revert hknown
  decide +kernel

end Producers

end TradingPlatform.Routes

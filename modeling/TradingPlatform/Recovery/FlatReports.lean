import TradingPlatform.Foundation.Raises
import TradingPlatform.Foundation.Rounding
import TradingPlatform.Recovery.Closure

/-! # Flat reports

A snapshot says matched when the reports it gathered are flat. An order that is
passed over leaves no report, so the snapshot bears out the related orders
exactly when none was passed over and the totals of the two sides agree.
-/

namespace TradingPlatform.Recovery

open Storage Exchange

section Specification

/-- The market an order is asked about under. -/
def queryMarket (market : String) (order : Order) : String :=
  Text.upper (Text.strip (if order.market = "" then market else order.market))

variable (connectors : List (String × StatusConnector)) (market : String)

/-- An exchange, asked about an order, answers with an object that names a status. -/
structure ReportedAs (order : Order) (payload : Dict) : Prop where
  exchangeOrderId : Text.strip (order.exchangeOrderId.getD "") ≠ ""
  orderId : Text.strip order.orderId ≠ ""
  named : queryMarket market order ≠ ""
  answered : ∃ connector response,
    connectors.lookup (Text.strip order.exchangeName) = some connector ∧
      connector.getOrderStatus (Text.strip (order.exchangeOrderId.getD ""))
        (queryMarket market order) = .ok response ∧ responsePayload response = some payload
  status : normalizedText (payload.get "status") ≠ ""

/-- An order that reconciliation goes on without. -/
inductive PassedOver (order : Order) : Prop
  | unconnected (hnone : connectors.lookup (Text.strip order.exchangeName) = none)
  | unidentified (hblank : Text.strip (order.exchangeOrderId.getD "") = "" ∨
      Text.strip order.orderId = "" ∨ queryMarket market order = "")
  | refused {connector : StatusConnector} {response : PrivateExchangeResult}
      (hconnector : connectors.lookup (Text.strip order.exchangeName) = some connector)
      (hanswer : connector.getOrderStatus (Text.strip (order.exchangeOrderId.getD ""))
        (queryMarket market order) = .ok response)
      (hstatus : ∀ payload, responsePayload response = some payload →
        normalizedText (payload.get "status") = "")

/-- The status an exchange reports. -/
def reportedStatus (report : Order × Dict) : String := normalizedText (report.2.get "status")

/-- The side of a reported order, as the store or else the exchange names it. -/
def reportedSide (report : Order × Dict) : String := polledSide report.1 report.2

/-- The base quantity filled, as the exchange or else the store counts it. -/
def reportedQty (reads : ReadStore) (report : Order × Dict) : ℚ :=
  polledQty (reads.filledQty report.1.orderId) report.2

/-- The price a reported order is valued at. -/
def reportedPrice (report : Order × Dict) : Option ℚ :=
  firstAmount (decimalValue (report.2.get "avg_fill_price"))
    (decimalValue (report.2.get "requested_price")) (report.1.requestedPrice.map Numeral.value)

/-- The quantity filled on one side. -/
def sideTotal (reads : ReadStore) (side : String) (reports : List (Order × Dict)) : ℚ :=
  ((reports.filter fun report => reportedSide report = side).map (reportedQty reads)).sum

/-- Every order is reported in a terminal status, and as much was bought as sold. -/
def FlatReports (reads : ReadStore) (orders : List Order) : Prop :=
  ∃ reports : List (Order × Dict), reports.map Prod.fst = orders ∧
    (∀ report ∈ reports, ReportedAs connectors market report.1 report.2 ∧
      reportedStatus report ∈ terminalOrderStatuses) ∧
    sideTotal reads "buy" reports = sideTotal reads "sell" reports

end Specification

section Reports

variable {ctx : DecimalContext} {connectors : List (String × StatusConnector)} {market : String}
  {reads : ReadStore}

/-- What is reported of an order: nothing when it is passed over. -/
def orderReport (connectors : List (String × StatusConnector)) (market : String) (order : Order) :
    Except String (Option Dict) :=
  match connectors.lookup (Text.strip order.exchangeName) with
  | none => .ok none
  | some connector =>
      if Text.strip (order.exchangeOrderId.getD "") = "" ∨ Text.strip order.orderId = "" ∨
          queryMarket market order = "" then .ok none
      else
        (connector.getOrderStatus (Text.strip (order.exchangeOrderId.getD ""))
          (queryMarket market order)).map fun response =>
            (responsePayload response).filter fun payload =>
              normalizedText (payload.get "status") ≠ ""

/-- The reports of a list of orders. -/
def orderReports (connectors : List (String × StatusConnector)) (market : String)
    (orders : List Order) : List (Order × Dict) :=
  orders.filterMap fun order =>
    match orderReport connectors market order with
    | .ok (some payload) => some (order, payload)
    | _ => none

theorem orderReport_eq_some_iff {order : Order} {payload : Dict} :
    orderReport connectors market order = .ok (some payload) ↔
      ReportedAs connectors market order payload := by
  constructor
  · intro hreport
    unfold orderReport at hreport
    cases hconnector : connectors.lookup (Text.strip order.exchangeName) with
    | none => simp [hconnector] at hreport
    | some connector =>
        simp only [hconnector] at hreport
        split_ifs at hreport with hblank
        · exact absurd hreport (by simp)
        · obtain ⟨hexchangeId, horderId, hmarket⟩ :
              Text.strip (order.exchangeOrderId.getD "") ≠ "" ∧ Text.strip order.orderId ≠ "" ∧
                queryMarket market order ≠ "" := by simpa only [not_or] using hblank
          cases hanswer : connector.getOrderStatus (Text.strip (order.exchangeOrderId.getD ""))
              (queryMarket market order) with
          | error text => simp [hanswer, Except.map] at hreport
          | ok response =>
              simp only [hanswer, Except.map, Except.ok.injEq, Option.filter_eq_some_iff,
                decide_eq_true_eq] at hreport
              exact ⟨hexchangeId, horderId, hmarket,
                ⟨connector, response, hconnector, hanswer, hreport.1⟩, hreport.2⟩
  · intro hreported
    obtain ⟨connector, response, hconnector, hanswer, hpayload⟩ := hreported.answered
    simp [orderReport, hconnector, hreported.exchangeOrderId, hreported.orderId, hreported.named,
      hanswer, Except.map, hpayload, hreported.status]

theorem orderReport_eq_none_iff {order : Order} :
    orderReport connectors market order = .ok none ↔ PassedOver connectors market order := by
  unfold orderReport
  constructor
  · intro hreport
    cases hconnector : connectors.lookup (Text.strip order.exchangeName) with
    | none => exact .unconnected hconnector
    | some connector =>
        simp only [hconnector] at hreport
        split_ifs at hreport with hblank
        · exact .unidentified hblank
        · cases hanswer : connector.getOrderStatus (Text.strip (order.exchangeOrderId.getD ""))
              (queryMarket market order) with
          | error text => simp [hanswer, Except.map] at hreport
          | ok response =>
              refine .refused hconnector hanswer fun payload hpayload => ?_
              simpa [hanswer, Except.map, hpayload] using hreport
  · intro hpassed
    cases hpassed with
    | unconnected hnone => simp [hnone]
    | unidentified hblank =>
        cases connectors.lookup (Text.strip order.exchangeName) with
        | none => rfl
        | some connector => simp [hblank]
    | @refused connector response hconnector hanswer hstatus =>
        simp only [hconnector]
        split_ifs
        · rfl
        · cases hpayload : responsePayload response with
          | none => simp [hanswer, Except.map, hpayload]
          | some payload => simp [hanswer, Except.map, hpayload, hstatus payload hpayload]

/-- Count one report in. -/
def OrderPoll.recordReport (ctx : DecimalContext) (reads : ReadStore) (poll : OrderPoll)
    (report : Order × Dict) : OrderPoll :=
  poll.record ctx report.1 (reads.filledQty report.1.orderId) report.2

/-- Counting one report in overflows. -/
def OrderPoll.reportOverflows (ctx : DecimalContext) (reads : ReadStore) (poll : OrderPoll)
    (report : Order × Dict) : Bool :=
  poll.recordOverflows ctx report.1 (reads.filledQty report.1.orderId) report.2

theorem pollOrders_cons {order : Order} {rest : List Order} {poll : OrderPoll} :
    pollOrders ctx connectors reads market poll (order :: rest) =
      (orderReport connectors market order).bind fun report =>
        match report with
        | none => pollOrders ctx connectors reads market poll rest
        | some payload =>
            if poll.reportOverflows ctx reads (order, payload) then .error decimalOverflow
            else pollOrders ctx connectors reads market
              (poll.recordReport ctx reads (order, payload)) rest := by
  rw [pollOrders, orderReport]
  cases connectors.lookup (Text.strip order.exchangeName) with
  | none => rfl
  | some connector =>
      dsimp only
      rw [← queryMarket]
      split_ifs
      · rfl
      · cases connector.getOrderStatus (Text.strip (order.exchangeOrderId.getD ""))
          (queryMarket market order) with
        | error text => rfl
        | ok response =>
            cases hpayload : responsePayload response with
            | none => simp [Except.map, Except.bind, hpayload]
            | some payload =>
                by_cases hstatus : normalizedText (payload.get "status") = ""
                · simp [Except.map, Except.bind, hpayload, Option.filter, hstatus,
                    OrderPoll.record, OrderPoll.recordOverflows]
                · simp only [Except.map, Except.bind, hpayload, Option.filter, hstatus,
                    OrderPoll.recordReport, OrderPoll.reportOverflows, ne_eq, not_false_eq_true,
                    decide_true, if_true]
                  rfl

/-- Polling that ends has counted the reports in and nothing else. -/
theorem pollOrders_eq_ok {orders : List Order} {poll result : OrderPoll}
    (hpoll : pollOrders ctx connectors reads market poll orders = .ok result) :
    (∀ order ∈ orders, ∃ report, orderReport connectors market order = .ok report) ∧
      (orderReports connectors market orders).foldl (OrderPoll.recordReport ctx reads) poll =
        result := by
  induction orders generalizing poll with
  | nil => simpa [pollOrders, orderReports] using hpoll
  | cons order rest ih =>
      rw [pollOrders_cons] at hpoll
      cases horder : orderReport connectors market order with
      | error text => simp [horder, Except.bind] at hpoll
      | ok report =>
          cases report with
          | none =>
              simp only [horder, Except.bind] at hpoll
              simpa [horder, orderReports] using ih hpoll
          | some payload =>
              simp only [horder, Except.bind] at hpoll
              split_ifs at hpoll
              simpa [horder, orderReports] using ih hpoll

/-- Unless a query raises or a number overflows, polling ends. -/
theorem exists_pollOrders_eq_ok (hrange : ∀ q, ctx.overflows q = false) {orders : List Order}
    {poll : OrderPoll}
    (hanswered : ∀ order ∈ orders, ∃ report, orderReport connectors market order = .ok report) :
    ∃ result, pollOrders ctx connectors reads market poll orders = .ok result := by
  induction orders generalizing poll with
  | nil => exact ⟨poll, rfl⟩
  | cons order rest ih =>
      obtain ⟨⟨report, horder⟩, hrest⟩ := List.forall_mem_cons.mp hanswered
      rw [pollOrders_cons, horder]
      cases report with
      | none => exact ih hrest
      | some payload =>
          have hcounted : poll.reportOverflows ctx reads (order, payload) = false := by
            simp [OrderPoll.reportOverflows, OrderPoll.recordOverflows, hrange]
          simp only [Except.bind, hcounted, Bool.false_eq_true, if_false]
          exact ih hrest

/-- The net of a list of reports, one after the other. -/
def addReport (ctx : DecimalContext) (reads : ReadStore) (net : ℚ) (report : Order × Dict) : ℚ :=
  if reportedSide report = "buy" then ctx.add net (reportedQty reads report)
  else if reportedSide report = "sell" then ctx.sub net (reportedQty reads report)
  else net

theorem recordReport_eq (poll : OrderPoll) {report : Order × Dict}
    (hstatus : reportedStatus report ≠ "") :
    poll.recordReport ctx reads report =
      { orderIds := poll.orderIds ++ [Text.strip report.1.orderId]
        statuses := poll.statuses ++ [⟨Text.strip report.1.orderId, reportedStatus report⟩]
        openOrderCount := poll.openOrderCount +
          if reportedStatus report ∈ terminalOrderStatuses then 0 else 1
        netBaseQty := addReport ctx reads poll.netBaseQty report
        referencePrice := if (reportedPrice report).any (0 < ·) then reportedPrice report
          else poll.referencePrice } := by
  have hnamed : ¬normalizedText (report.2.get "status") = "" := hstatus
  simp only [OrderPoll.recordReport, OrderPoll.record, if_neg hnamed, reportedStatus, addReport,
    reportedSide, reportedQty, reportedPrice]
  congr 1

section Fold

variable {reports : List (Order × Dict)}

/-- A field that every report brings forward by itself. -/
theorem foldl_recordReport {α : Type} (field : OrderPoll → α) (step : α → Order × Dict → α)
    (hstep : ∀ (poll : OrderPoll) (report : Order × Dict), reportedStatus report ≠ "" →
      field (poll.recordReport ctx reads report) = step (field poll) report)
    (hstatus : ∀ report ∈ reports, reportedStatus report ≠ "") (poll : OrderPoll) :
    field (reports.foldl (OrderPoll.recordReport ctx reads) poll) =
      reports.foldl step (field poll) := by
  induction reports generalizing poll with
  | nil => rfl
  | cons report rest ih =>
      obtain ⟨hreport, hrest⟩ := List.forall_mem_cons.mp hstatus
      rw [List.foldl_cons, List.foldl_cons, ih hrest, hstep poll report hreport]

theorem foldl_recordReport_netBaseQty (hstatus : ∀ report ∈ reports, reportedStatus report ≠ "")
    (poll : OrderPoll) :
    (reports.foldl (OrderPoll.recordReport ctx reads) poll).netBaseQty =
      reports.foldl (addReport ctx reads) poll.netBaseQty :=
  foldl_recordReport OrderPoll.netBaseQty (addReport ctx reads)
    (fun poll _ hreport => by rw [recordReport_eq poll hreport]) hstatus poll

theorem foldl_recordReport_openOrderCount
    (hstatus : ∀ report ∈ reports, reportedStatus report ≠ "") (poll : OrderPoll) :
    (reports.foldl (OrderPoll.recordReport ctx reads) poll).openOrderCount = 0 ↔
      poll.openOrderCount = 0 ∧
        ∀ report ∈ reports, reportedStatus report ∈ terminalOrderStatuses := by
  rw [foldl_recordReport OrderPoll.openOrderCount
    (fun count report => count + if reportedStatus report ∈ terminalOrderStatuses then 0 else 1)
    (fun poll _ hreport => by rw [recordReport_eq poll hreport]) hstatus]
  generalize poll.openOrderCount = count
  induction reports generalizing count with
  | nil => simp
  | cons report rest ih =>
      rw [List.foldl_cons, ih (List.forall_mem_cons.mp hstatus).2]
      by_cases hterminal : reportedStatus report ∈ terminalOrderStatuses
      · simp [hterminal]
      · simp [hterminal]

theorem foldl_recordReport_orderIds (hstatus : ∀ report ∈ reports, reportedStatus report ≠ "")
    (poll : OrderPoll) :
    (reports.foldl (OrderPoll.recordReport ctx reads) poll).orderIds =
      poll.orderIds ++ reports.map (Text.strip ·.1.orderId) := by
  rw [foldl_recordReport OrderPoll.orderIds (fun ids report => ids ++ [Text.strip report.1.orderId])
    (fun poll _ hreport => by rw [recordReport_eq poll hreport]) hstatus]
  rw [List.foldl_append_eq_append, ← List.flatMap_def, ← List.map_eq_flatMap]

/-- The status of a report under the identifier of its order. -/
def reportStatus (report : Order × Dict) : ObservedOrderStatus :=
  ⟨Text.strip report.1.orderId, reportedStatus report⟩

theorem foldl_recordReport_statuses (hstatus : ∀ report ∈ reports, reportedStatus report ≠ "")
    (poll : OrderPoll) :
    (reports.foldl (OrderPoll.recordReport ctx reads) poll).statuses =
      poll.statuses ++ reports.map reportStatus := by
  rw [foldl_recordReport OrderPoll.statuses
    (fun statuses report => statuses ++ [reportStatus report]) (fun poll _ hreport => by
      rw [recordReport_eq poll hreport, reportStatus]) hstatus]
  rw [List.foldl_append_eq_append, ← List.flatMap_def, ← List.map_eq_flatMap]

/-- The price of a report when it is positive, else the one known before. -/
def latestPrice (price : Option ℚ) (report : Order × Dict) : Option ℚ :=
  if (reportedPrice report).any (0 < ·) then reportedPrice report else price

/-- The reference price stays positive, and is missing when no report names one. -/
theorem foldl_latestPrice (reports : List (Order × Dict)) (price : Option ℚ)
    (hprice : ∀ q ∈ price, 0 < q) :
    (∀ q ∈ reports.foldl latestPrice price, 0 < q) ∧
      (reports.foldl latestPrice price = none ↔
        price = none ∧ ∀ report ∈ reports, ∀ q ∈ reportedPrice report, ¬0 < q) := by
  induction reports generalizing price with
  | nil => simpa using hprice
  | cons report rest ih =>
      rw [List.foldl_cons]
      by_cases hpositive : (reportedPrice report).any (0 < ·) = true
      · -- The report sets the price, and no later one takes it away.
        obtain ⟨q, hq, hpos⟩ := Option.any_eq_true _ _ |>.mp hpositive
        have hset : latestPrice price report = some q := by
          rw [latestPrice, if_pos hpositive, hq]
        obtain ⟨hall, hnone⟩ := ih (latestPrice price report)
          (by rw [hset]; simpa using hpos)
        refine ⟨hall, hnone.trans (iff_of_false (by simp [hset]) fun hunpriced => ?_)⟩
        exact hunpriced.2 report List.mem_cons_self q hq (of_decide_eq_true hpos)
      · have hkept : latestPrice price report = price := by rw [latestPrice, if_neg hpositive]
        obtain ⟨hall, hnone⟩ := ih (latestPrice price report) (by rw [hkept]; exact hprice)
        refine ⟨hall, hnone.trans ?_⟩
        have hunpriced : ∀ q ∈ reportedPrice report, ¬0 < q := fun q hq hpos =>
          hpositive (Option.any_eq_true _ _ |>.mpr ⟨q, hq, decide_eq_true hpos⟩)
        rw [hkept, List.forall_mem_cons]
        exact ⟨fun h => ⟨h.1, hunpriced, h.2⟩, fun h => ⟨h.1, h.2.2⟩⟩

theorem foldl_recordReport_referencePrice
    (hstatus : ∀ report ∈ reports, reportedStatus report ≠ "") (poll : OrderPoll) :
    (reports.foldl (OrderPoll.recordReport ctx reads) poll).referencePrice =
      reports.foldl latestPrice poll.referencePrice :=
  foldl_recordReport OrderPoll.referencePrice latestPrice
    (fun poll _ hreport => by rw [recordReport_eq poll hreport, latestPrice]) hstatus poll

end Fold

theorem mem_orderReports {orders : List Order} {report : Order × Dict} :
    report ∈ orderReports connectors market orders ↔
      report.1 ∈ orders ∧ ReportedAs connectors market report.1 report.2 := by
  simp only [orderReports, List.mem_filterMap]
  constructor
  · intro hmem
    obtain ⟨order, horder, hreport⟩ := hmem
    split at hreport
    next payload hpayload =>
      obtain rfl := Option.some.inj hreport
      exact ⟨horder, orderReport_eq_some_iff.mp hpayload⟩
    next => exact absurd hreport (by simp)
  · intro hreported
    refine ⟨report.1, hreported.1, ?_⟩
    rw [orderReport_eq_some_iff.mpr hreported.2]

/-- Every order has a report when none raises and none is passed over. -/
theorem map_fst_orderReports {orders : List Order}
    (hreported : ∀ order ∈ orders, ∃ payload, ReportedAs connectors market order payload) :
    (orderReports connectors market orders).map Prod.fst = orders := by
  induction orders with
  | nil => rfl
  | cons order rest ih =>
      obtain ⟨⟨payload, hpayload⟩, hrest⟩ := List.forall_mem_cons.mp hreported
      have htail := ih hrest
      simp only [orderReports, List.filterMap_cons, orderReport_eq_some_iff.mpr hpayload,
        List.map_cons] at htail ⊢
      rw [htail]

/-- A list of reports of all the orders is the list that polling gathers. -/
theorem orderReports_of_reported {reports : List (Order × Dict)}
    (hreported : ∀ report ∈ reports, ReportedAs connectors market report.1 report.2) :
    orderReports connectors market (reports.map Prod.fst) = reports := by
  induction reports with
  | nil => rfl
  | cons report rest ih =>
      obtain ⟨hreport, hrest⟩ := List.forall_mem_cons.mp hreported
      have htail := ih hrest
      simp only [orderReports, List.map_cons, List.filterMap_cons,
        orderReport_eq_some_iff.mpr hreport] at htail ⊢
      rw [htail]

end Reports

section Snapshot

variable {connectors : List (String × StatusConnector)} {reads : ReadStore} {trace : Dict}
  {relatedOrders : List Order} {relatedFills : List Fill} {isoNow : String}

/-- The reports there are show no open order and nothing left over: they net to
zero, or to something no positive price values while the trace names no residual. -/
structure LooksFlat (connectors : List (String × StatusConnector)) (reads : ReadStore)
    (trace : Dict) (orders : List Order) : Prop where
  named : ∃ order ∈ orders, Text.strip order.exchangeName ≠ ""
  answered : ∀ order ∈ orders, ∃ report,
    orderReport connectors (relatedMarket orders) order = .ok report
  reported : orderReports connectors (relatedMarket orders) orders ≠ []
  terminal : ∀ report ∈ orderReports connectors (relatedMarket orders) orders,
    reportedStatus report ∈ terminalOrderStatuses
  even : (orderReports connectors (relatedMarket orders) orders).foldl
      (addReport .default reads) 0 = 0 ∨
    (∀ report ∈ orderReports connectors (relatedMarket orders) orders,
      ∀ q ∈ reportedPrice report, ¬0 < q) ∧
      decimalValue (trace.get "residual_exposure_quote") = some 0
  balances : ∃ balances, pollBalances .default connectors
    (relevantAssetsFromMarket (relatedMarket orders)) (relatedExchanges orders) = .ok balances

/-- Reports that look flat, of only some of the orders or with uneven sides. -/
inductive FalseMatch (connectors : List (String × StatusConnector)) (reads : ReadStore)
    (trace : Dict) (orders : List Order) : Prop
  | passedOver (hflat : LooksFlat connectors reads trace orders) {order : Order}
      (horder : order ∈ orders) (hpassed : PassedOver connectors (relatedMarket orders) order)
  | uneven (hflat : LooksFlat connectors reads trace orders)
      (htotals : sideTotal reads "buy" (orderReports connectors (relatedMarket orders) orders) ≠
        sideTotal reads "sell" (orderReports connectors (relatedMarket orders) orders))

/-- A residual of zero, in terms of what was polled. -/
theorem residualExposure_eq_zero_iff {poll : OrderPoll}
    (hprice : ∀ q ∈ poll.referencePrice, 0 < q) :
    residualExposure .default poll trace = .ok (some 0) ↔
      poll.netBaseQty = 0 ∨ poll.referencePrice = none ∧
        decimalValue (trace.get "residual_exposure_quote") = some 0 := by
  have hrange (q : ℚ) : DecimalContext.default.overflows q = false := rfl
  unfold residualExposure
  by_cases hnet : poll.netBaseQty = 0
  · simp [hnet]
  · cases hreference : poll.referencePrice with
    | none =>
        cases hresidual : decimalValue (trace.get "residual_exposure_quote") with
        | none => simp [hnet]
        | some residual => simp [hnet, hrange, DecimalContext.default_round_eq_zero]
    | some q =>
        have hpositive := hprice q hreference
        simp [hnet, hrange, DecimalContext.mul, DecimalContext.default_round_eq_zero,
          hpositive.ne']

/-- Polling, put in terms of the reports. -/
theorem pollOrders_start {orders : List Order} {poll : OrderPoll} {market : String}
    (hpoll : pollOrders .default connectors reads market {} orders = .ok poll) :
    (∀ order ∈ orders, ∃ report, orderReport connectors market order = .ok report) ∧
      (poll.statuses = [] ↔ orderReports connectors market orders = []) ∧
      (poll.openOrderCount = 0 ↔ ∀ report ∈ orderReports connectors market orders,
        reportedStatus report ∈ terminalOrderStatuses) ∧
      poll.netBaseQty =
        (orderReports connectors market orders).foldl (addReport .default reads) 0 ∧
      (∀ q ∈ poll.referencePrice, 0 < q) ∧
      (poll.referencePrice = none ↔ ∀ report ∈ orderReports connectors market orders,
        ∀ q ∈ reportedPrice report, ¬0 < q) := by
  obtain ⟨hanswered, rfl⟩ := pollOrders_eq_ok hpoll
  have hstatus : ∀ report ∈ orderReports connectors market orders, reportedStatus report ≠ "" :=
    fun report hmem => (mem_orderReports.mp hmem).2.status
  have hprice := foldl_latestPrice (orderReports connectors market orders)
    ({} : OrderPoll).referencePrice (by simp)
  rw [← @foldl_recordReport_referencePrice .default reads _ hstatus] at hprice
  refine ⟨hanswered, ?_, ?_, foldl_recordReport_netBaseQty hstatus {}, hprice.1, ?_⟩
  · rw [foldl_recordReport_statuses hstatus]
    simp
  · rw [foldl_recordReport_openOrderCount hstatus]
    simp
  · rw [hprice.2]
    simp

theorem exists_decimalText_zero : ∃ text, decimalText .default 0 = .ok text := by
  have hzero : DecimalContext.default.round 0 = 0 := by
    rw [DecimalContext.default_round_eq_zero]
  have hsmall : ¬((0 : ℚ).den = 1 ∧ (10 : ℚ) ^ maxDecimalDigits ≤ |0|) := by
    norm_num [maxDecimalDigits]
  have hrange : DecimalContext.default.overflows 0 = false := rfl
  simp only [decimalText, hzero, hrange, Bool.false_eq_true, if_false, if_neg hsmall]
  exact ⟨_, rfl⟩

/-- A snapshot says matched exactly when the reports look flat. -/
theorem snapshot_matched_iff :
    (∃ patch, buildAutoReconciliationSnapshot .default connectors reads trace relatedOrders
        relatedFills isoNow = .ok (some patch) ∧
      patch.get "reconciliation_result" = .str "matched") ↔
      LooksFlat connectors reads trace relatedOrders := by
  constructor
  · intro hmatched
    obtain ⟨patch, hbuild, hresult⟩ := hmatched
    obtain ⟨poll, balances, residual, residualText, hexchanges, hpoll, hstatuses, hbalances,
      hresidual, -, rfl⟩ := exists_of_snapshot hbuild
    obtain ⟨hanswered, hreported, hterminal, hnet, hpositive, hunpriced⟩ := pollOrders_start hpoll
    have hboth : poll.openOrderCount = 0 ∧ residual = 0 := by
      simpa [reconciliationSnapshot, Dict.get, Dict.get?_cons] using hresult
    rw [hboth.2] at hresidual
    have heven := (residualExposure_eq_zero_iff hpositive).mp hresidual
    rw [hnet, hunpriced] at heven
    refine ⟨?_, hanswered, fun hnil => hstatuses (hreported.mpr hnil), hterminal.mp hboth.1, heven,
      balances, hbalances⟩
    by_contra hunnamed
    apply hexchanges
    rw [relatedExchanges, sortedTexts_eq_nil]
    simpa using hunnamed
  · intro hflat
    obtain ⟨balances, hbalances⟩ := hflat.balances
    obtain ⟨poll, hpoll⟩ : ∃ poll, pollOrders .default connectors reads
        (relatedMarket relatedOrders) {} relatedOrders = .ok poll :=
      exists_pollOrders_eq_ok (fun _ => rfl) hflat.answered
    obtain ⟨-, hreported, hterminal, hnet, hpositive, hunpriced⟩ := pollOrders_start hpoll
    have hresidual : residualExposure .default poll trace = .ok (some 0) := by
      rw [residualExposure_eq_zero_iff hpositive, hnet, hunpriced]
      exact hflat.even
    obtain ⟨text, htext⟩ := exists_decimalText_zero
    obtain ⟨order, horder, hnamed⟩ := hflat.named
    have hexchanges : relatedExchanges relatedOrders ≠ [] := by
      rw [relatedExchanges, Ne, sortedTexts_eq_nil]
      simpa using ⟨order, horder, hnamed⟩
    have hconnectors : connectors ≠ [] := by
      intro hnil
      obtain ⟨report, hmem⟩ := List.exists_mem_of_ne_nil _ hflat.reported
      obtain ⟨connector, -, hlookup, -⟩ := (mem_orderReports.mp hmem).2.answered
      simp [hnil] at hlookup
    have hstatuses : poll.statuses ≠ [] := fun hnil => hflat.reported (hreported.mp hnil)
    simp only [buildAutoReconciliationSnapshot, List.ne_nil_of_mem horder, hconnectors, hexchanges,
      hpoll, hstatuses, hbalances, hresidual, htext, Except.map, or_self, if_false]
    exact ⟨_, rfl, by simp [reconciliationSnapshot, Dict.get, Dict.get?_cons,
      hterminal.mpr hflat.terminal]⟩

end Snapshot

section Unsound

/-- A buy order at one exchange and a sell order at another. -/
def bothLegs : MemoryStore :=
  let entry := openBuyOrder (Platform.counting.uuid 1)
  let bought := (MemoryStore.createOrder .counting entry
    (MemoryStore.withIntent .counting (Execution.oneUnitIntent "upbit" "bithumb"))).2
  (MemoryStore.createOrder .counting
    { entry with exchangeName := "bithumb", exchangeOrderId := some "hedge", side := "sell" }
    bought).2

/-- One exchange reports a cancelled order, the other one cannot be reached. -/
def halfConnected : List (String × StatusConnector) :=
  [("upbit",
      { getOrderStatus := fun _ _ => .ok
          { outcome := "ok", data := .obj [("status", .str "cancelled"), ("filled_qty", .str "0")] }
        getBalances := .ok { outcome := "ok", data := .obj [] } }),
    ("bithumb",
      { getOrderStatus := fun _ _ => .ok { outcome := "error", reason := some "network error" }
        getBalances := .ok { outcome := "error", reason := some "network error" } })]

/-- The value is this very text. -/
def isText (text : String) : Json → Bool
  | .str s => s == text
  | _ => false

theorem eq_str_of_isText {text : String} {value : Json} (htext : isText text value) :
    value = .str text := by
  cases value with
  | str s => exact congrArg Json.str (eq_of_beq htext)
  | null | bool | int | float | arr | obj => exact absurd htext (by simp [isText])

end Unsound

end TradingPlatform.Recovery

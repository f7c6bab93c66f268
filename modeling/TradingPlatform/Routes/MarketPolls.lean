import TradingPlatform.Foundation.Custody
import TradingPlatform.MarketData.CachedOrderbook
import TradingPlatform.MarketData.Targets
import TradingPlatform.Routes.OrderWrite

/-! # Polls of market data

The collector fetches the books of its targets, and so do requests that name an exchange and
its markets, all of them at the same time. A target is marked while it is fetched; who comes
upon a marked one reports that and goes on with the next market.
-/

namespace TradingPlatform.Routes

open Programs MarketData

section Collector

/-- What the connector raises, with the status it is reported with. -/
structure FetchError extends MarketDataError where
  status : Nat

/-- A market that was not fetched, and why. -/
structure RefreshError where
  market : String
  code : String
  message : String
  status : Nat

/-- What comes of one market. -/
inductive MarketOutcome where
  | snapshot (snapshot : Dict)
  | error (error : RefreshError)

/-- What a request is answered with. -/
structure MarketPoll where
  exchange : String
  requestedMarkets : List String
  items : List Dict
  errors : List RefreshError

def MarketPoll.status (poll : MarketPoll) : Nat := if poll.errors.isEmpty then 200 else 207

inductive FetchAnswer where
  | snapshot (snapshot : Dict)
  | marketDataError (exc : FetchError)
  | exception (text : String)

/-- What all refreshes share. -/
structure Collector where
  inflightTargets : List (String × String) := []
  inflightSkipCount : Nat := 0
  successCount : Nat := 0
  failureCount : Nat := 0
  lastErrorMessage : Option String := none
  stopEvent : Bool := false

inductive CollectorOp where
  | isStopped
  | acquireInflightTarget (exchange market : String)
  | getOrderbookTop (exchange market : String)
  | recordSnapshot (snapshot : Dict)
  | recordFailure (exc : FetchError)
  | releaseInflightTarget (exchange market : String)

@[reducible] def CollectorOp.Reply : CollectorOp → Type
  | isStopped | acquireInflightTarget _ _ => Bool
  | getOrderbookTop _ _ => FetchAnswer
  | recordSnapshot _ => Except String Unit
  | recordFailure _ | releaseInflightTarget _ _ => Unit

abbrev CollectorProgram := Program CollectorOp CollectorOp.Reply

/-- What the outside makes of an operation: what a fetch answers, and whether the metrics and
Redis take a snapshot. -/
structure Upstream where
  answer : FetchAnswer
  recording : Except String Unit

/-- What an operation answers and leaves behind. -/
def CollectorOp.exec (upstream : Upstream) : (op : CollectorOp) → Collector → op.Reply × Collector
  | .isStopped, s => (s.stopEvent, s)
  | .acquireInflightTarget exchange market, s =>
      if connectorKey (exchange, market) ∈ s.inflightTargets then
        (false, { s with inflightSkipCount := s.inflightSkipCount + 1 })
      else
        (true, { s with
          inflightTargets := connectorKey (exchange, market) :: s.inflightTargets })
  | .getOrderbookTop _ _, s => (upstream.answer, s)
  | .recordSnapshot _, s =>
      match upstream.recording with
      | .ok () =>
          (.ok (), { s with successCount := s.successCount + 1, lastErrorMessage := none })
      | .error text => (.error text, s)
  | .recordFailure exc, s =>
      ((), { s with failureCount := s.failureCount + 1, lastErrorMessage := some exc.message })
  | .releaseInflightTarget exchange market, s =>
      ((), { s with
        inflightTargets := s.inflightTargets.filter (· ≠ connectorKey (exchange, market)) })

end Collector

namespace CollectorProgram

def ask (op : CollectorOp) : CollectorProgram op.Reply := Program.operation op

section Refresh

/-- What is made of the answer of the connector, before the target is released. -/
def recordAnswer (market : String) : FetchAnswer → CollectorProgram (Except String MarketOutcome)
  | .snapshot snapshot => do
      let recorded ← ask (.recordSnapshot snapshot)
      return recorded.map fun _ => .snapshot snapshot
  | .marketDataError exc => do
      ask (.recordFailure exc)
      return .ok (.error ⟨market, exc.code, exc.message, exc.status⟩)
  | .exception text => return .error text

/-- The target is released, whatever comes of the fetch. -/
def refreshMarket (exchange market : String) :
    CollectorProgram (Except String MarketOutcome) := do
  if ← ask (.acquireInflightTarget exchange market) then
    let answer ← ask (.getOrderbookTop exchange market)
    let outcome ← recordAnswer market answer
    ask (.releaseInflightTarget exchange market)
    return outcome
  else
    return .ok (.error ⟨market, "FETCH_INFLIGHT", "market fetch already in progress", 409⟩)

def enter : MarketOutcome → List Dict × List RefreshError → List Dict × List RefreshError
  | .snapshot snapshot, (snapshots, errors) => (snapshot :: snapshots, errors)
  | .error error, (snapshots, errors) => (snapshots, error :: errors)

/-- The markets are fetched one by one, up to an exception or the end of the collector. -/
def refreshMarkets (exchange : String) :
    List String → CollectorProgram (Except String (List Dict × List RefreshError))
  | [] => return .ok ([], [])
  | market :: rest => do
      if ← ask .isStopped then return .ok ([], [])
      else
        match ← refreshMarket exchange market with
        | .error text => return .error text
        | .ok outcome => return (← refreshMarkets exchange rest).map (enter outcome)

def refresh (exchange : String) (markets : List String) :
    CollectorProgram (Except String (List Dict × List RefreshError)) :=
  refreshMarkets (Text.lower (Text.strip exchange))
    ((markets.filter (Text.strip · ≠ "")).map fun market => Text.upper (Text.strip market))

/-- The collector's own poll of its target groups. -/
def pollOnce : List (String × List String) → CollectorProgram (Except String Unit)
  | [] => return .ok ()
  | (exchange, markets) :: rest => do
      if ← ask .isStopped then return .ok ()
      else
        match ← refresh exchange markets with
        | .error text => return .error text
        | .ok _ => pollOnce rest

end Refresh

section Requests

def maxMarketPollItems : Nat := 20

def pollMarket (item : Json) : Option String :=
  (jsonString item).bind fun market =>
    let normalized := Text.upper (Text.strip market)
    if normalized = "" then none else some normalized

def pollMarkets : Json → Option (List String)
  | .arr items => items.mapM pollMarket
  | _ => none

def pollRequest (body : Dict) : Except RouteError (String × List String) := do
  let exchange := jsonString (body.get "exchange")
  let markets := pollMarkets (body.get "markets")
  checkInvalid (unread body "exchange" exchange ++ if markets.isNone then ["markets"] else [])
  check (textOr exchange "" ≠ "" && !(markets.getD []).isEmpty) "exchange and markets are required"
  check ((markets.getD []).length ≤ maxMarketPollItems)
    ("markets may contain at most " ++ toString maxMarketPollItems ++ " items")
  return (exchange.getD "", markets.getD [])

def marketDataPollResponse (body : Dict) :
    CollectorProgram (Except String (Except RouteError MarketPoll)) :=
  match pollRequest body with
  | .error error => return .ok (.error error)
  | .ok (exchange, markets) => do
      let refreshed ← refresh exchange markets
      return refreshed.map fun (snapshots, errors) =>
        .ok ⟨Text.lower (Text.strip exchange), markets, snapshots, errors⟩

end Requests

end CollectorProgram

section Tasks

/-- What a client of the collector is at. -/
inductive CollectorTask where
  | poll (groups : List (String × List String))
  | request (body : Dict)

inductive CollectorResult where
  | polled (result : Except String Unit)
  | answered (result : Except String (Except RouteError MarketPoll))

open CollectorProgram in
def CollectorTask.program : CollectorTask → CollectorProgram CollectorResult
  | poll groups => return .polled (← pollOnce groups)
  | request body => return .answered (← marketDataPollResponse body)

abbrev CollectorPool := Pool Collector CollectorOp CollectorOp.Reply CollectorResult

inductive CollectorEvent where
  | perform (client : Nat) (upstream : Upstream)
  | stop
  | restart

def CollectorEvent.apply (pool : CollectorPool) : CollectorEvent → CollectorPool
  | perform client upstream => pool.perform (CollectorOp.exec upstream) client
  | stop => { pool with state := { pool.state with stopEvent := true } }
  | restart => { pool with state := { pool.state with stopEvent := false } }

/-- All tasks, in any order of their operations. -/
def runTasks (tasks : Nat → CollectorTask) (events : List CollectorEvent) : CollectorPool :=
  events.foldl CollectorEvent.apply ⟨{}, fun i => (tasks i).program⟩

end Tasks

section Custody

/-- Targets in the custody of refreshes. -/
def inflight (mayStop : Prop) : Custodian CollectorOp CollectorOp.Reply (String × String) where
  custody
    | .acquireInflightTarget exchange market => .takes (connectorKey (exchange, market))
    | .getOrderbookTop exchange market => .needs (connectorKey (exchange, market))
    | .releaseInflightTarget exchange market => .gives (connectorKey (exchange, market))
    | .isStopped | .recordSnapshot _ | .recordFailure _ => .free
  granted
    | .acquireInflightTarget _ _, reply => reply = true
    | _, _ => False
  answers
    | .isStopped, reply => reply = true → mayStop
    | _, _ => True

/-- An outcome is about a market that it names. -/
def MarketOutcome.About (market : String) : MarketOutcome → Prop
  | .snapshot _ => True
  | .error failure => failure.market = market

/-- One outcome for each of the markets, in their order, up to where the collector may have
been stopped. -/
def AnswersEach (mayStop : Prop) (markets : List String) (snapshots : List Dict)
    (errors : List RefreshError) : Prop :=
  ∃ outcomes : List (String × MarketOutcome), outcomes.map Prod.fst <+: markets ∧
    (¬ mayStop → outcomes.map Prod.fst = markets) ∧
      (∀ outcome ∈ outcomes, outcome.2.About outcome.1) ∧
        (outcomes.map Prod.snd).foldr CollectorProgram.enter ([], []) = (snapshots, errors)

/-- What a task ends with. -/
def CollectorTask.Promises (mayStop : Prop) : CollectorTask → CollectorResult → Prop
  | .request body, .answered (.ok answer) =>
      match CollectorProgram.pollRequest body with
      | .error error => answer = .error error
      | .ok (exchange, markets) => ∃ poll, answer = .ok poll ∧
          poll.exchange = Text.lower (Text.strip exchange) ∧ poll.requestedMarkets = markets ∧
            AnswersEach mayStop markets poll.items poll.errors
  | _, _ => True

variable {mayStop : Prop} {held : Set (String × String)} {exchange market : String}

theorem exists_answers (op : CollectorOp) : ∃ reply, (inflight mayStop).answers op reply := by
  cases op with
  | isStopped => exact ⟨false, by simp [inflight]⟩
  | acquireInflightTarget exchange market => exact ⟨true, trivial⟩
  | getOrderbookTop exchange market => exact ⟨.exception "", trivial⟩
  | recordSnapshot snapshot => exact ⟨.ok (), trivial⟩
  | recordFailure exc => exact ⟨(), trivial⟩
  | releaseInflightTarget exchange market => exact ⟨(), trivial⟩

section Promises

open CollectorProgram Program

theorem keeps_askCollector {α : Type} (op : CollectorOp) {next : op.Reply → CollectorProgram α}
    {promise : α → Set (String × String) → Prop} :
    (ask op >>= next).Keeps (inflight mayStop).contract promise held ↔
      (inflight mayStop).contract.permits held op ∧
        ∀ reply, (inflight mayStop).answers op reply →
          (next reply).Keeps (inflight mayStop).contract promise
            ((inflight mayStop).contract.advance held op reply) :=
  keeps_bind.trans keeps_operation

theorem keeps_recordAnswer (answer : FetchAnswer) :
    (recordAnswer market answer).Keeps (inflight mayStop).contract
      (fun outcome after => (∀ found, outcome = .ok found → found.About market) ∧ after = held)
      held := by
  cases answer with
  | snapshot snapshot =>
      refine (keeps_askCollector (.recordSnapshot snapshot)).mpr ⟨trivial, fun recorded _ => ?_⟩
      refine keeps_pure.mpr ⟨fun found hfound => ?_, rfl⟩
      cases recorded with
      | ok _ =>
          obtain rfl := Except.ok.inj hfound
          trivial
      | error text => cases hfound
  | marketDataError exc =>
      refine (keeps_askCollector (.recordFailure exc)).mpr ⟨trivial, fun _ _ => ?_⟩
      refine keeps_pure.mpr ⟨fun found hfound => ?_, rfl⟩
      obtain rfl := Except.ok.inj hfound
      rfl
  | exception text =>
      refine keeps_pure.mpr ⟨fun found hfound => ?_, rfl⟩
      cases hfound

/-- A target is needed only between taking and giving it. -/
theorem keeps_refreshMarket (exchange market : String) :
    (refreshMarket exchange market).Keeps (inflight mayStop).contract
      (fun outcome after => (∀ found, outcome = .ok found → found.About market) ∧ after = ∅) ∅ := by
  refine (keeps_askCollector (.acquireInflightTarget exchange market)).mpr ⟨?_, fun granted _ => ?_⟩
  · simp [Custodian.contract, inflight]
  · cases granted with
    | false =>
        refine keeps_pure.mpr ⟨fun found hfound => ?_, ?_⟩
        · obtain rfl := Except.ok.inj hfound
          rfl
        · simp [Custodian.contract, inflight]
    | true =>
        have hheld : (inflight mayStop).contract.advance ∅
            (.acquireInflightTarget exchange market) true = {connectorKey (exchange, market)} := by
          simp [Custodian.contract, inflight]
        rw [hheld]
        refine (keeps_askCollector (.getOrderbookTop exchange market)).mpr ⟨?_, fun answer _ => ?_⟩
        · simp [Custodian.contract, inflight]
        · refine Keeps.bind (keeps_recordAnswer answer) ?_
          rintro outcome after ⟨habout, rfl⟩
          refine (keeps_askCollector (.releaseInflightTarget exchange market)).mpr
            ⟨?_, fun _ _ => keeps_pure.mpr ⟨habout, ?_⟩⟩
          · simp [Custodian.contract, inflight]
          · ext other
            simp [Custodian.contract, inflight]

theorem answersEach_nil {markets : List String} (hmarkets : ¬ mayStop → markets = []) :
    AnswersEach mayStop markets [] [] :=
  ⟨[], List.nil_prefix, fun hnever => (hmarkets hnever).symm, by simp, rfl⟩

theorem AnswersEach.cons {outcome : MarketOutcome} {markets : List String}
    {snapshots : List Dict} {errors : List RefreshError}
    (hrest : AnswersEach mayStop markets snapshots errors) (habout : outcome.About market) :
    AnswersEach mayStop (market :: markets) (enter outcome (snapshots, errors)).1
      (enter outcome (snapshots, errors)).2 := by
  obtain ⟨outcomes, hmarkets, hall, habouts, hresult⟩ := hrest
  refine ⟨(market, outcome) :: outcomes, ?_, fun hnever => ?_, ?_, ?_⟩
  · exact (List.prefix_cons_inj market).mpr hmarkets
  · rw [List.map_cons, hall hnever]
  · intro other hother
    rcases List.mem_cons.mp hother with rfl | hmem
    · exact habout
    · exact habouts other hmem
  · rw [List.map_cons, List.foldr_cons, hresult]

/-- The induction is on the markets that are left. -/
theorem keeps_refreshMarkets (exchange : String) (markets : List String) :
    (refreshMarkets exchange markets).Keeps (inflight mayStop).contract
      (fun result after => (∀ snapshots errors, result = .ok (snapshots, errors) →
        AnswersEach mayStop markets snapshots errors) ∧ after = ∅) ∅ := by
  induction markets with
  | nil =>
      refine keeps_pure.mpr ⟨fun snapshots errors hresult => ?_, rfl⟩
      obtain ⟨rfl, rfl⟩ := Prod.mk.inj (Except.ok.inj hresult)
      exact answersEach_nil fun _ => rfl
  | cons market rest ih =>
      refine (keeps_askCollector .isStopped).mpr ⟨trivial, fun stopped hstopped => ?_⟩
      cases stopped with
      | true =>
          refine keeps_pure.mpr ⟨fun snapshots errors hresult => ?_, rfl⟩
          obtain ⟨rfl, rfl⟩ := Prod.mk.inj (Except.ok.inj hresult)
          exact answersEach_nil fun hnever => absurd (hstopped rfl) hnever
      | false =>
          refine Keeps.bind (keeps_refreshMarket exchange market) ?_
          rintro outcome after ⟨habout, rfl⟩
          cases outcome with
          | error text =>
              refine keeps_pure.mpr ⟨fun snapshots errors hresult => ?_, rfl⟩
              cases hresult
          | ok outcome =>
              refine Keeps.bind ih ?_
              rintro result after ⟨hanswers, rfl⟩
              refine keeps_pure.mpr ⟨fun snapshots errors hresult => ?_, rfl⟩
              cases result with
              | error text => cases hresult
              | ok found =>
                  have hentered := (hanswers found.1 found.2 rfl).cons (habout outcome rfl)
                  have hsame : enter outcome found = (snapshots, errors) := Except.ok.inj hresult
                  rwa [hsame] at hentered

theorem keeps_pollOnce (groups : List (String × List String)) :
    (pollOnce groups).Keeps (inflight mayStop).contract (fun _ after => after = ∅) ∅ := by
  induction groups with
  | nil => exact keeps_pure.mpr rfl
  | cons group rest ih =>
      refine (keeps_askCollector .isStopped).mpr ⟨trivial, fun stopped _ => ?_⟩
      cases stopped with
      | true => exact keeps_pure.mpr rfl
      | false =>
          refine Keeps.bind (keeps_refreshMarkets _ _) ?_
          rintro result after ⟨-, rfl⟩
          cases result with
          | error text => exact keeps_pure.mpr rfl
          | ok _ => exact ih

theorem pollMarket_eq_some {item : Json} (hitem : pollMarket item = some market) :
    Text.strip market ≠ "" ∧ Text.upper (Text.strip market) = market := by
  obtain ⟨text, -, hmarket⟩ := Option.bind_eq_some_iff.mp hitem
  dsimp only at hmarket
  split_ifs at hmarket with hempty
  obtain rfl := Option.some.inj hmarket
  rw [Text.strip_upper, Text.strip_strip, Text.upper_upper]
  exact ⟨hempty, rfl⟩

/-- The markets of a request are in the form in which they are fetched. -/
theorem normalized_of_mapM {items : List Json} {markets : List String}
    (hitems : items.mapM pollMarket = some markets) :
    ((markets.filter (Text.strip · ≠ "")).map fun market => Text.upper (Text.strip market)) =
      markets := by
  induction items generalizing markets with
  | nil =>
      obtain rfl := Option.some.inj hitems
      rfl
  | cons item rest ih =>
      rw [List.mapM_cons] at hitems
      obtain ⟨market, hmarket, hbound⟩ := Option.bind_eq_some_iff.mp hitems
      obtain ⟨others, hothers, hcons⟩ := Option.bind_eq_some_iff.mp hbound
      obtain rfl := Option.some.inj hcons
      obtain ⟨hne, hsame⟩ := pollMarket_eq_some hmarket
      rw [List.filter_cons_of_pos (by simpa using hne), List.map_cons, hsame, ih hothers]

theorem normalized_of_pollRequest {body : Dict} {markets : List String}
    (hrequest : pollRequest body = .ok (exchange, markets)) :
    ((markets.filter (Text.strip · ≠ "")).map fun market => Text.upper (Text.strip market)) =
      markets := by
  unfold pollRequest at hrequest
  dsimp only at hrequest
  rw [checkInvalid_bind_eq_ok, check_bind_eq_ok, check_bind_eq_ok] at hrequest
  obtain ⟨hinvalid, -, -, hresult⟩ := hrequest
  obtain ⟨-, rfl⟩ := Prod.mk.inj (Except.ok.inj hresult)
  cases hmarkets : pollMarkets (body.get "markets") with
  | none => simp [hmarkets] at hinvalid
  | some found =>
      cases hvalue : body.get "markets" with
      | arr items =>
          rw [hvalue] at hmarkets
          exact normalized_of_mapM hmarkets
      | null | bool | int | float | str | obj =>
          rw [hvalue] at hmarkets
          cases hmarkets

/-- A request is answered with an entry for each of its markets. -/
theorem keeps_program (task : CollectorTask) :
    task.program.Keeps (inflight mayStop).contract
      (fun result after => task.Promises mayStop result ∧ after = ∅) ∅ := by
  cases task with
  | poll groups =>
      refine Keeps.bind (keeps_pollOnce groups) ?_
      rintro result after rfl
      exact keeps_pure.mpr ⟨trivial, rfl⟩
  | request body =>
      have hresponse : (marketDataPollResponse body).Keeps (inflight mayStop).contract
          (fun result after => CollectorTask.Promises mayStop (.request body) (.answered result) ∧
            after = ∅) ∅ := by
        unfold marketDataPollResponse
        cases hrequest : pollRequest body with
        | error failure =>
            refine keeps_pure.mpr ⟨?_, rfl⟩
            simp only [CollectorTask.Promises, hrequest]
        | ok request =>
            refine Keeps.bind (keeps_refreshMarkets _ _) ?_
            rintro result after ⟨hanswers, rfl⟩
            refine keeps_pure.mpr ⟨?_, rfl⟩
            cases result with
            | error text => trivial
            | ok found =>
                have heach := hanswers found.1 found.2 rfl
                rw [normalized_of_pollRequest hrequest] at heach
                simp only [CollectorTask.Promises, hrequest, Except.map]
                exact ⟨_, rfl, rfl, rfl, heach⟩
      refine Keeps.bind hresponse ?_
      rintro result after ⟨hpromise, rfl⟩
      exact keeps_pure.mpr ⟨hpromise, rfl⟩

end Promises

section Exceptions

open CollectorProgram Program

theorem neverRaises_recordAnswer (answer : FetchAnswer) :
    (recordAnswer market answer).NeverRaises := by
  cases answer with
  | snapshot snapshot => exact fun _ => trivial
  | marketDataError exc => exact fun _ => trivial
  | exception text => trivial

theorem neverRaises_refreshMarket (exchange market : String) :
    (refreshMarket exchange market).NeverRaises := by
  refine NeverRaises.bind neverRaises_operation fun granted => ?_
  cases granted with
  | false => trivial
  | true =>
      refine NeverRaises.bind neverRaises_operation fun answer => ?_
      exact NeverRaises.bind (neverRaises_recordAnswer answer) fun _ _ => trivial

theorem neverRaises_refreshMarkets (exchange : String) (markets : List String) :
    (refreshMarkets exchange markets).NeverRaises := by
  induction markets with
  | nil => trivial
  | cons market rest ih =>
      refine NeverRaises.bind neverRaises_operation fun stopped => ?_
      cases stopped with
      | true => trivial
      | false =>
          refine NeverRaises.bind (neverRaises_refreshMarket exchange market) fun outcome => ?_
          cases outcome with
          | error text => trivial
          | ok outcome => exact NeverRaises.bind ih fun _ => trivial

theorem neverRaises_pollOnce (groups : List (String × List String)) :
    (pollOnce groups).NeverRaises := by
  induction groups with
  | nil => trivial
  | cons group rest ih =>
      refine NeverRaises.bind neverRaises_operation fun stopped => ?_
      cases stopped with
      | true => trivial
      | false =>
          refine NeverRaises.bind (neverRaises_refreshMarkets _ _) fun result => ?_
          cases result with
          | error text => trivial
          | ok _ => exact ih

/-- Exceptions are results here, so that a target is released before they go on. -/
theorem neverRaises_program (task : CollectorTask) : task.program.NeverRaises := by
  cases task with
  | poll groups => exact NeverRaises.bind (neverRaises_pollOnce groups) fun _ => trivial
  | request body =>
      refine NeverRaises.bind ?_ fun _ => trivial
      unfold marketDataPollResponse
      cases pollRequest body with
      | error failure => trivial
      | ok request => exact NeverRaises.bind (neverRaises_refreshMarkets _ _) fun _ => trivial

end Exceptions

end Custody

section Runs

/-- The targets that are marked. -/
def markedTargets (s : Collector) : Set (String × String) := {target | target ∈ s.inflightTargets}

variable {mayStop : Prop} {tasks : Nat → CollectorTask} {pool : CollectorPool}
  {held : Nat → Set (String × String)}

section Acquiring

variable {upstream : Upstream} {s : Collector} {exchange market : String}

theorem exec_acquire_of_mem (hmarked : connectorKey (exchange, market) ∈ s.inflightTargets) :
    CollectorOp.exec upstream (.acquireInflightTarget exchange market) s =
      (false, { s with inflightSkipCount := s.inflightSkipCount + 1 }) :=
  if_pos hmarked

theorem exec_acquire_of_notMem (hfree : connectorKey (exchange, market) ∉ s.inflightTargets) :
    CollectorOp.exec upstream (.acquireInflightTarget exchange market) s =
      (true, { s with
        inflightTargets := connectorKey (exchange, market) :: s.inflightTargets }) :=
  if_neg hfree

end Acquiring

theorem marks_exec (upstream : Upstream) {s : Collector} (hstop : s.stopEvent = true → mayStop) :
    (inflight mayStop).Marks markedTargets (CollectorOp.exec upstream) s where
  answers op := by
    cases op with
    | isStopped => exact hstop
    | acquireInflightTarget | getOrderbookTop | recordSnapshot | recordFailure
    | releaseInflightTarget => trivial
  free op hfree := by
    cases op with
    | isStopped | recordFailure => rfl
    | recordSnapshot snapshot =>
        unfold CollectorOp.exec
        cases upstream.recording <;> rfl
    | acquireInflightTarget | getOrderbookTop | releaseInflightTarget => cases hfree
  needs op key hneeds := by
    cases op with
    | getOrderbookTop => rfl
    | isStopped | recordFailure | recordSnapshot | acquireInflightTarget
    | releaseInflightTarget => cases hneeds
  takes op key htakes := by
    cases op with
    | acquireInflightTarget exchange market =>
        obtain rfl : connectorKey (exchange, market) = key := Custody.takes.inj htakes
        by_cases hmarked : connectorKey (exchange, market) ∈ s.inflightTargets
        · rw [exec_acquire_of_mem hmarked]
          have hsame : insert (connectorKey (exchange, market)) (markedTargets s) =
              markedTargets s := Set.insert_eq_of_mem hmarked
          exact ⟨iff_of_false Bool.false_ne_true (not_not_intro hmarked), hsame.symm⟩
        · rw [exec_acquire_of_notMem hmarked]
          refine ⟨iff_of_true rfl hmarked, ?_⟩
          ext target
          simp [markedTargets]
    | isStopped | recordFailure | recordSnapshot | getOrderbookTop
    | releaseInflightTarget => cases htakes
  gives op key hgives := by
    cases op with
    | releaseInflightTarget exchange market =>
        obtain rfl : connectorKey (exchange, market) = key := Custody.gives.inj hgives
        ext target
        simp [markedTargets, CollectorOp.exec]
    | isStopped | recordFailure | recordSnapshot | getOrderbookTop
    | acquireInflightTarget => cases hgives

/-- What all events keep, when none stops the collector that may not. -/
structure CollectorPool.Kept (mayStop : Prop) (tasks : Nat → CollectorTask)
    (pool : CollectorPool) : Prop where
  accounted : ∃ held, pool.Accounted (inflight mayStop) markedTargets
    (fun i => (tasks i).Promises mayStop) held
  stopped : pool.state.stopEvent = true → mayStop

theorem CollectorPool.Kept.apply (hpool : CollectorPool.Kept mayStop tasks pool)
    {event : CollectorEvent} (hevent : event = .stop → mayStop) :
    CollectorPool.Kept mayStop tasks (event.apply pool) := by
  obtain ⟨⟨held, haccounted⟩, hstopped⟩ := hpool
  cases event with
  | perform client upstream =>
      refine ⟨haccounted.perform (marks_exec upstream hstopped) client, ?_⟩
      have hsame : (pool.perform (CollectorOp.exec upstream) client).state.stopEvent =
          pool.state.stopEvent := by
        cases hclient : pool.client client with
        | done value => rw [Pool.perform_eq_self (by simp [hclient])]
        | raised text => rw [Pool.perform_eq_self (by simp [hclient])]
        | perform op next =>
            rw [Pool.perform_eq hclient]
            cases op with
            | acquireInflightTarget =>
                simp only [CollectorOp.exec]
                split_ifs <;> rfl
            | recordSnapshot =>
                simp only [CollectorOp.exec]
                cases upstream.recording <;> rfl
            | isStopped | getOrderbookTop | recordFailure | releaseInflightTarget => rfl
      intro hstop
      exact hstopped (hsame ▸ hstop)
  | stop =>
      exact ⟨⟨held, haccounted.never, haccounted.keeps, haccounted.alone, haccounted.marked⟩,
        fun _ => hevent rfl⟩
  | restart =>
      exact ⟨⟨held, haccounted.never, haccounted.keeps, haccounted.alone, haccounted.marked⟩,
        fun hstop => absurd hstop Bool.false_ne_true⟩

theorem kept_runTasks (tasks : Nat → CollectorTask) (events : List CollectorEvent) :
    CollectorPool.Kept (.stop ∈ events) tasks (runTasks tasks events) := by
  have hrun : ∀ (rest : List CollectorEvent) (pool : CollectorPool),
      CollectorPool.Kept (.stop ∈ events) tasks pool → (∀ event ∈ rest, event ∈ events) →
        CollectorPool.Kept (.stop ∈ events) tasks (rest.foldl CollectorEvent.apply pool) := by
    intro rest
    induction rest with
    | nil => exact fun _ hpool _ => hpool
    | cons event rest ih =>
        intro pool hpool hrest
        apply ih _ (hpool.apply ?_) fun other hother => hrest other (List.mem_cons_of_mem _ hother)
        rintro rfl
        exact hrest _ List.mem_cons_self
  apply hrun events _ ?_ fun _ hevent => hevent
  refine ⟨⟨fun _ => ∅, fun i => neverRaises_program (tasks i), fun i => keeps_program (tasks i),
    fun _ _ _ hmem => absurd hmem (Set.notMem_empty _), fun key => ?_⟩, nofun⟩
  simp [markedTargets]

/-- A task that is waiting for the book of a target. -/
def Fetches (p : CollectorProgram CollectorResult) (target : String × String) : Prop :=
  ∃ exchange market next, p = .perform (.getOrderbookTop exchange market) next ∧
    connectorKey (exchange, market) = target

/-- Tasks that share a collector. -/
structure Collecting (mayStop : Prop) (tasks : Nat → CollectorTask) (pool : CollectorPool) :
    Prop where
  /-- No book is fetched by two tasks at once. -/
  alone : ∀ i j target, Fetches (pool.client i) target → Fetches (pool.client j) target → i = j
  fetched : ∀ i target, Fetches (pool.client i) target → target ∈ pool.state.inflightTargets
  /-- A target is marked exactly as long as a task has yet to release it. -/
  marked : ∀ target, target ∈ pool.state.inflightTargets ↔
    ∃ i, (pool.client i).Owes (inflight mayStop) target
  /-- A task is only refused a target that another one has yet to release. -/
  refused : ∀ i exchange market next,
    pool.client i = .perform (.acquireInflightTarget exchange market) next →
      connectorKey (exchange, market) ∈ pool.state.inflightTargets →
        ∃ j ≠ i, (pool.client j).Owes (inflight mayStop) (connectorKey (exchange, market))
  answered : ∀ i result, pool.client i = .done result → (tasks i).Promises mayStop result

/-- **Fetches in flight.** However polls of the collector and requests take turns, whatever the
exchanges answer and wherever an exception is raised, no book is fetched twice at once and what
is marked is released; a request gets an entry for each of its markets, unless an exception ends
it. -/
theorem collecting_runTasks (tasks : Nat → CollectorTask) (events : List CollectorEvent) :
    Collecting (.stop ∈ events) tasks (runTasks tasks events) := by
  obtain ⟨⟨held, haccounted⟩, -⟩ := kept_runTasks tasks events
  have howes : ∀ i target, Fetches ((runTasks tasks events).client i) target →
      ((runTasks tasks events).client i).Owes (inflight (.stop ∈ events)) target := by
    rintro i target ⟨exchange, market, next, hclient, rfl⟩
    exact haccounted.owes_of_needs exists_answers hclient rfl
  have hmarked : ∀ target, target ∈ (runTasks tasks events).state.inflightTargets ↔
      ∃ i, ((runTasks tasks events).client i).Owes (inflight (.stop ∈ events)) target :=
    fun target => haccounted.mem_marks_iff exists_answers
  refine ⟨fun i j target hi hj => ?_, fun i target hi => ?_, hmarked, ?_, fun i result => ?_⟩
  · exact haccounted.eq_of_owes exists_answers (howes i target hi) (howes j target hj)
  · exact (hmarked target).mpr ⟨i, howes i target hi⟩
  · intro i exchange market next hclient hmem
    obtain ⟨j, hj⟩ := (hmarked _).mp hmem
    refine ⟨j, ?_, hj⟩
    rintro rfl
    exact haccounted.not_owes_of_takes exists_answers hclient rfl hj
  · exact haccounted.promised

end Runs

end TradingPlatform.Routes

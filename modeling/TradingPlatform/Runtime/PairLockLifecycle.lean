import TradingPlatform.Execution.SubmitSoundness
import TradingPlatform.Runtime.ExposedLegs
import TradingPlatform.Strategy.Decisions

/-! # The pair lock follows the lifecycle

An execution keeps up the pair lock of its run twice: after the submit, from the
evaluation it has just cached, and after a failed submit once more, from the
evaluation read back with the recovery trace carried over. Both times the lock
and the evaluation say the same, because every lifecycle an adapter reports is
written without outer blanks.
-/

namespace TradingPlatform.Runtime

open Storage Exchange Execution Strategy

section Holding

variable (market quotePairId ownerId : String) (r : RedisRuntime)

/-- The lock of a market and a quote pair is held by an owner. -/
def HoldsPairLock : Prop :=
  ∃ lock, r.pairLocks.lookup (market, quotePairId) = some lock ∧
    RedisRuntime.lockText lock "owner_id" = ownerId

/-- Nobody else holds the lock. -/
def PairLockOpenTo : Prop :=
  ∀ lock, r.pairLocks.lookup (market, quotePairId) = some lock →
    RedisRuntime.lockText lock "owner_id" = ownerId

variable {market quotePairId ownerId r}

theorem HoldsPairLock.openTo (hheld : HoldsPairLock market quotePairId ownerId r) :
    PairLockOpenTo market quotePairId ownerId r := by
  obtain ⟨lock, hlookup, howner⟩ := hheld
  intro other hother
  rw [hlookup, Option.some.injEq] at hother
  rw [← hother, howner]

/-- An owner is compared without outer blanks. -/
theorem HoldsPairLock.strip_owner (hheld : HoldsPairLock market quotePairId ownerId r) :
    Text.strip ownerId = ownerId := by
  obtain ⟨lock, -, howner⟩ := hheld
  rw [← howner, RedisRuntime.lockText, Text.strip_strip]

theorem lockText_storedPairLock (payload : Dict) (isoNow : String)
    (howner : payload.get "owner_id" = .str ownerId) :
    RedisRuntime.lockText (RedisRuntime.storedPairLock market quotePairId payload isoNow)
      "owner_id" = Text.strip ownerId := by
  have hstamped : ∀ stamps : Dict, "owner_id" ∉ stamps.map Prod.fst →
      (payload.merge stamps).get "owner_id" = .str ownerId := by
    intro stamps hnot
    rw [Dict.get_merge_of_notMem _ _ hnot, howner]
  unfold RedisRuntime.lockText RedisRuntime.storedPairLock
  dsimp only
  split_ifs
  · rw [hstamped _ (by simp), Json.textOrEmpty_str]
  · rw [Dict.get_set_of_ne _ _ (by decide), hstamped _ (by simp), Json.textOrEmpty_str]

/-- A lock that is free or held by the owner is held by it once acquired. -/
theorem acquirePairLock_holds (hopen : PairLockOpenTo market quotePairId ownerId r)
    (hnonempty : ownerId ≠ "") (hstrip : Text.strip ownerId = ownerId) {payload : Dict}
    (howner : payload.get "owner_id" = .str ownerId) (isoNow : String) :
    HoldsPairLock market quotePairId ownerId
      (r.acquirePairLock market quotePairId payload isoNow).2 := by
  have htext : RedisRuntime.lockText
      (RedisRuntime.storedPairLock market quotePairId payload isoNow) "owner_id" = ownerId :=
    (lockText_storedPairLock payload isoNow howner).trans hstrip
  let lock := RedisRuntime.storedPairLock market quotePairId payload isoNow
  have hheld : HoldsPairLock market quotePairId ownerId
      { r with pairLocks := AList.insert (market, quotePairId) lock r.pairLocks } :=
    ⟨lock, AList.lookup_insert _, htext⟩
  unfold RedisRuntime.acquirePairLock
  dsimp only
  split
  · exact hheld
  · next existing hexisting =>
      rw [htext, if_pos (Or.inl ⟨hnonempty, hopen existing hexisting⟩)]
      exact hheld

/-- A lock that is free or held by the owner is free once the owner released it. -/
theorem releasePairLock_lookup (hopen : PairLockOpenTo market quotePairId ownerId r)
    (hnonempty : ownerId ≠ "") :
    (r.releasePairLock market quotePairId ownerId).2.pairLocks.lookup (market, quotePairId) =
      none := by
  unfold RedisRuntime.releasePairLock
  split
  · next hfree => exact hfree
  · next existing hexisting =>
      rw [if_pos ⟨hnonempty, hopen existing hexisting⟩]
      exact AList.lookup_erase _ _

theorem pairLockOwnerId_ne_empty (botId runId : String) : pairLockOwnerId botId runId ≠ "" := by
  intro hempty
  have hlength := congrArg String.length hempty
  simp [pairLockOwnerId] at hlength

end Holding

section Syncing

variable {botId runId market quotePairId : String} {selectedPair : Option Dict} {context : Dict}
  {r : RedisRuntime}

/-- Keeping up a lock nobody else holds leaves it held exactly for an active lifecycle. -/
theorem syncPairLock_spec
    (hidentity : pairLockIdentity context = some (market, quotePairId, selectedPair))
    (hopen : PairLockOpenTo market quotePairId (pairLockOwnerId botId runId) r)
    (hstrip : Text.strip (pairLockOwnerId botId runId) = pairLockOwnerId botId runId)
    {payload : Dict} (hcontext : payload.get "decision_context" = .obj context)
    (lifecycleState : String) (intentId recoveryTraceId : Option String) (isoNow : String) :
    let synced := syncPairLock botId runId lifecycleState intentId recoveryTraceId isoNow payload r
    PairLockOpenTo market quotePairId (pairLockOwnerId botId runId) synced ∧
      (HoldsPairLock market quotePairId (pairLockOwnerId botId runId) synced ↔
        Text.strip lifecycleState ∈ activePairLockLifecycleStates) := by
  intro synced
  have hread : (dictOrNone (payload.get "decision_context")).getD [] = context := by
    rw [hcontext]
    rfl
  have hnonempty := pairLockOwnerId_ne_empty botId runId
  by_cases hactive : Text.strip lifecycleState ∈ activePairLockLifecycleStates
  · have hheld : HoldsPairLock market quotePairId (pairLockOwnerId botId runId) synced := by
      simp only [synced, syncPairLock, hread, hidentity, if_pos hactive]
      exact acquirePairLock_holds hopen hnonempty hstrip rfl isoNow
    exact ⟨hheld.openTo, iff_of_true hheld hactive⟩
  · have hfree : synced.pairLocks.lookup (market, quotePairId) = none := by
      simp only [synced, syncPairLock, hread, hidentity, if_neg hactive]
      exact releasePairLock_lookup hopen hnonempty
    refine ⟨fun lock hlock => ?_, iff_of_false ?_ hactive⟩
    · rw [hfree] at hlock
      cases hlock
    · rintro ⟨lock, hlock, -⟩
      rw [hfree] at hlock
      cases hlock

theorem syncArbitrageEvaluationRecoveryState_pairLocks_eq (trace : Dict) (isoNow : String) :
    (r.syncArbitrageEvaluationRecoveryState runId trace isoNow).pairLocks = r.pairLocks := by
  unfold RedisRuntime.syncArbitrageEvaluationRecoveryState
  split <;> rfl

end Syncing

section Reported

/-- The lifecycles a submit is reported with. -/
def reportedLifecycles : List String :=
  ["entry_submitting", "entry_open", "hedge_balanced", "closed", "recovery_required",
    "unwind_in_progress"]

theorem reportedLifecycles_written :
    ∀ state ∈ reportedLifecycles, Text.strip state = state ∧ state ≠ "" := by
  decide +kernel

def Reported (result : ArbitrageSubmitResult) : Prop :=
  result.lifecyclePreview ∈ reportedLifecycles

theorem reported_failure (auto : Bool) (details : Dict) (orders : List Order) (fills : List Fill) :
    Reported (submitFailureResult auto details orders fills) := by
  cases auto <;> simp [Reported, reportedLifecycles, submitFailureResult,
    classifySubmitFailureTransition]

theorem reported_failureResult (auto : Bool) (mode reason : String) (details : Dict)
    (orders : List Order) (fills : List Fill) :
    Reported (failureResult auto mode reason details orders fills) :=
  reported_failure _ _ _ _

variable {σ : Type} {P : StoreProtocol σ} {ctx : DecimalContext} {decision : SubmitDecision}
  {intent : OrderIntent} {auto : Bool} {s : σ}

theorem reported_simulated (token filledAt : Nat → String) (mode : String) :
    Reported (submitArbitrageOrders P token filledAt decision intent mode auto s).1 := by
  unfold submitArbitrageOrders
  dsimp only
  split
  · exact reported_failure _ _ _ _
  · split
    · exact reported_failure _ _ _ _
    · split
      · split
        · exact reported_failure _ _ _ _
        · split
          · exact reported_failure _ _ _ _
          · simp [Reported, reportedLifecycles]
      · simp [Reported, reportedLifecycles]

theorem reported_failedResponse (isoNow : Nat → String) (payload : Dict) :
    Reported (submitFailedResponse P ctx isoNow intent auto payload s).1 := by
  unfold submitFailedResponse
  dsimp only
  split
  · exact reported_failureResult _ _ _ _ _ _
  · split
    · split
      · exact reported_failureResult _ _ _ _ _ _
      · split <;> exact reported_failureResult _ _ _ _ _ _
    · exact reported_failureResult _ _ _ _ _ _

theorem reported_acceptedResponse (isoNow : Nat → String) {outcome : SubmitOutcome}
    {preview : Option String} (payload : Dict)
    (hpreview : preview.getD (if outcome = .filled then "hedge_balanced" else "entry_submitting") ∈
      reportedLifecycles) :
    Reported (submitAcceptedResponse P ctx isoNow outcome preview intent auto payload s).1 := by
  unfold submitAcceptedResponse
  dsimp only
  split
  · exact reported_failureResult _ _ _ _ _ _
  · split
    · exact reported_failureResult _ _ _ _ _ _
    · split
      · exact reported_failureResult _ _ _ _ _ _
      · split
        · exact reported_failureResult _ _ _ _ _ _
        · split
          · exact reported_failureResult _ _ _ _ _ _
          · split
            · exact reported_failureResult _ _ _ _ _ _
            · exact hpreview

/-- A response that reports success may name one of two lifecycles only. -/
theorem preview_of_validate {outcomeText : String} {outcome : SubmitOutcome}
    {preview : Option String} (houtcome : SubmitOutcome.ofText? outcomeText = some outcome)
    (haccepted : outcome ≠ .submitFailed)
    (hvalid : validateLifecyclePreview outcomeText preview = none) :
    preview.getD (if outcome = .filled then "hedge_balanced" else "entry_submitting") ∈
      reportedLifecycles := by
  unfold SubmitOutcome.ofText? at houtcome
  split at houtcome
  · cases houtcome
    have hmem : preview.getD "entry_submitting" ∈ ["entry_submitting", "entry_open"] :=
      lifecycle_of_validate rfl (by simp) hvalid
    simp only [List.mem_cons, List.not_mem_nil, or_false] at hmem
    rcases hmem with hstate | hstate <;> simp [hstate, reportedLifecycles]
  · cases houtcome
    have hmem : preview.getD "hedge_balanced" ∈ ["hedge_balanced", "closed"] :=
      lifecycle_of_validate rfl (by simp) hvalid
    simp only [List.mem_cons, List.not_mem_nil, or_false] at hmem
    rcases hmem with hstate | hstate <;> simp [hstate, reportedLifecycles]
  · cases houtcome
    exact absurd rfl haccepted
  · cases houtcome

theorem reported_privateHttp (isoNow : Nat → String) (url : Option String)
    (response : Except String Dict) :
    Reported (submitPrivateHttp P ctx isoNow url response intent auto s).1 := by
  unfold submitPrivateHttp
  split_ifs
  · exact reported_failureResult _ _ _ _ _ _
  · cases response with
    | error reason => exact reported_failureResult _ _ _ _ _ _
    | ok payload =>
        unfold submitResponse
        dsimp only
        split
        · exact reported_failureResult _ _ _ _ _ _
        · next outcome houtcome =>
            split
            · exact reported_failureResult _ _ _ _ _ _
            · next hvalid =>
                cases outcome with
                | submitFailed => exact reported_failedResponse isoNow payload
                | submitted =>
                    exact reported_acceptedResponse isoNow payload
                      (preview_of_validate houtcome (by decide) hvalid)
                | filled =>
                    exact reported_acceptedResponse isoNow payload
                      (preview_of_validate houtcome (by decide) hvalid)

/-- Legs that could not all be placed are reported as failed. -/
theorem reported_submitLegs {connectors : List (String × PrivateExchangeConnector)}
    {legs : List ConnectorLeg} {created : List Order} {result : ArbitrageSubmitResult}
    (hfailed : (submitLegs P ctx connectors intent auto legs created s).outcome = .failed result) :
    Reported result := by
  induction legs generalizing created s with
  | nil => cases hfailed
  | cons leg rest ih =>
      unfold submitLegs at hfailed
      dsimp only at hfailed
      split at hfailed
      · cases hfailed
        exact reported_failureResult _ _ _ _ _ _
      · split at hfailed
        · cases hfailed
        · split at hfailed
          · cases hfailed
            exact reported_failureResult _ _ _ _ _ _
          · split at hfailed
            · cases hfailed
            · split at hfailed
              · cases hfailed
                exact reported_failureResult _ _ _ _ _ _
              · exact ih hfailed

theorem reported_privateConnectors {connectors : List (String × PrivateExchangeConnector)}
    {result : ArbitrageSubmitResult}
    (hresult : (submitPrivateConnectors P ctx connectors decision intent auto s).result =
      .ok result) : Reported result := by
  unfold submitPrivateConnectors at hresult
  dsimp only at hresult
  split at hresult
  · cases hresult
    exact reported_failureResult _ _ _ _ _ _
  · split at hresult
    · cases hresult
    · next hfailed =>
        cases hresult
        exact reported_submitLegs hfailed
    · split at hresult
      · cases hresult
        exact reported_failureResult _ _ _ _ _ _
      · cases hresult
        simp [Reported, reportedLifecycles]

/-- Every adapter reports one of the known lifecycles. -/
theorem reported_submit {adapter : SubmitAdapter} {result : ArbitrageSubmitResult}
    (hresult : (adapter.submit P ctx decision intent auto s).result = .ok result) :
    Reported result := by
  cases adapter with
  | simulated mode token filledAt =>
      rw [← Except.ok.inj hresult]
      exact reported_simulated token filledAt mode
  | privateHttp url response isoNow =>
      rw [← Except.ok.inj hresult]
      exact reported_privateHttp isoNow url response
  | privateConnectors connectors => exact reported_privateConnectors hresult
  | privateStub =>
      rw [← Except.ok.inj hresult]
      exact reported_failure _ _ _ _

end Reported

section Execution

/-- An intent is executed for the decision it was persisted for. -/
def persistedExecution (print : ℚ → Numeral) (decision : ReportedDecision) (intent : OrderIntent)
    (runId botId : String) (adapter : SubmitAdapter) (autoUnwindOnFailure : Bool) :
    IntentExecution where
  decision := ⟨decision.evaluated.executableEdge.map fun edge =>
    ⟨print edge.buyVwap, print edge.sellVwap⟩⟩
  reasonCode := decision.reasonCode
  intent := intent
  runId := runId
  botId := botId
  adapter := adapter
  autoUnwindOnFailure := autoUnwindOnFailure
  payloadBuilder := fun lifecyclePreviewOverride submitResult =>
    buildArbitrageEvaluationPayload print decision botId runId (some intent)
      (some lifecyclePreviewOverride) (some submitResult)

/-- An evaluation with a decision context and a lifecycle without outer blanks. -/
structure Evaluates (context : Dict) (state : String) (evaluation : Dict) : Prop where
  context : evaluation.get "decision_context" = .obj context
  lifecycle : evaluation.get "lifecycle_preview" = .str state
  written : Text.strip state = state
  nonempty : state ≠ ""

variable {context : Dict} {state : String} {evaluation : Dict}

theorem Evaluates.set (heval : Evaluates context state evaluation) {next : String}
    (hwritten : Text.strip next = next) (hnonempty : next ≠ "") :
    Evaluates context next (evaluation.set "lifecycle_preview" (.str next)) where
  context := by rw [Dict.get_set_of_ne _ _ (by decide), heval.context]
  lifecycle := Dict.get_set_self _ _ _
  written := hwritten
  nonempty := hnonempty

/-- Stamps for other keys leave an evaluation what it is. -/
theorem Evaluates.merge (heval : Evaluates context state evaluation) {patch : Dict}
    (hcontext : "decision_context" ∉ patch.map Prod.fst)
    (hlifecycle : "lifecycle_preview" ∉ patch.map Prod.fst) :
    Evaluates context state (evaluation.merge patch) where
  context := by rw [Dict.get_merge_of_notMem _ _ hcontext, heval.context]
  lifecycle := by rw [Dict.get_merge_of_notMem _ _ hlifecycle, heval.lifecycle]
  written := heval.written
  nonempty := heval.nonempty

theorem Evaluates.cached (heval : Evaluates context state evaluation) (runId isoNow : String) :
    Evaluates context state
      (evaluation.merge [("strategy_run_id", .str runId), ("cached_at", .str isoNow)]) :=
  heval.merge (by simp) (by simp)

theorem evaluates_buildPayload (print : ℚ → Numeral) (decision : ReportedDecision)
    (botId runId : String) (intent : OrderIntent) {preview : String}
    (hreported : preview ∈ reportedLifecycles) (submitResult : Dict) :
    Evaluates decision.context preview (buildArbitrageEvaluationPayload print decision botId runId
      (some intent) (some preview) (some submitResult)) := by
  obtain ⟨hwritten, hnonempty⟩ := reportedLifecycles_written preview hreported
  refine ⟨rfl, ?_, hwritten, hnonempty⟩
  change Json.str (if preview = "" then _ else preview) = _
  rw [if_neg hnonempty]

theorem Evaluates.maybeClose (heval : Evaluates context state evaluation) (reads : ReadStore)
    (intent : OrderIntent) :
    ∃ next, Evaluates context next (maybeCloseAfterTerminalFill reads intent evaluation) := by
  have hclosed : Evaluates context "closed" (evaluation.set "lifecycle_preview" (.str "closed")) :=
    heval.set (by decide +kernel) (by decide)
  unfold maybeCloseAfterTerminalFill
  split
  · exact ⟨state, heval⟩
  · split
    · exact ⟨state, heval⟩
    · dsimp only
      split
      · exact ⟨"closed", hclosed⟩
      · exact ⟨state, heval⟩

variable {runId botId market quotePairId : String} {selectedPair : Option Dict}
  {r : RedisRuntime}

/-- The lock is open to a run, and held by it exactly when an evaluation is active. -/
structure LockFollows (market quotePairId ownerId state : String) (r : RedisRuntime) : Prop where
  openTo : PairLockOpenTo market quotePairId ownerId r
  holds_iff : HoldsPairLock market quotePairId ownerId r ↔ state ∈ activePairLockLifecycleStates

theorem Evaluates.syncPairLock (heval : Evaluates context state evaluation)
    (hidentity : pairLockIdentity context = some (market, quotePairId, selectedPair))
    (hopen : PairLockOpenTo market quotePairId (pairLockOwnerId botId runId) r)
    (hstrip : Text.strip (pairLockOwnerId botId runId) = pairLockOwnerId botId runId)
    {lifecycleState : String} (hstate : lifecycleState = state)
    (intentId recoveryTraceId : Option String) (isoNow : String) :
    LockFollows market quotePairId (pairLockOwnerId botId runId) state
      (syncPairLock botId runId lifecycleState intentId recoveryTraceId isoNow evaluation r) := by
  obtain ⟨hnext, hholds⟩ := syncPairLock_spec hidentity hopen hstrip heval.context lifecycleState
    intentId recoveryTraceId isoNow
  rw [hstate, heval.written] at hholds
  rw [hstate] at hnext ⊢
  exact ⟨hnext, hholds⟩

/-- The payloads of an execution carry a decision context and the lifecycle they are given. -/
def BuildsEvaluations (context : Dict) (e : IntentExecution) : Prop :=
  ∀ preview ∈ reportedLifecycles, ∀ submitResult,
    Evaluates context preview (e.payloadBuilder preview submitResult)

variable {e : IntentExecution} {stamps : ExecutionStamps}

variable (stamps) in
/-- After a submit the lock follows the evaluation that is cached. -/
theorem reportSubmit_follows (hbuilds : BuildsEvaluations context e)
    (hidentity : pairLockIdentity context = some (market, quotePairId, selectedPair))
    (hheld : HoldsPairLock market quotePairId (pairLockOwnerId e.botId e.runId) r)
    {result : ArbitrageSubmitResult} (hreported : Reported result) (reads : ReadStore) :
    ∃ state, Evaluates context state (reportSubmit e stamps reads result r).1 ∧
      LockFollows market quotePairId (pairLockOwnerId e.botId e.runId) state
        (reportSubmit e stamps reads result r).2 ∧
      ∃ stored, (reportSubmit e stamps reads result r).2.getArbitrageEvaluation e.runId =
        some stored ∧ Evaluates context state stored := by
  obtain ⟨state, heval⟩ :=
    (hbuilds _ hreported (submitResultPayload result)).maybeClose reads e.intent
  simp only [reportSubmit]
  refine ⟨state, heval, ?_, _, ?_, heval.cached e.runId (stamps.isoNow 0)⟩
  · refine heval.syncPairLock hidentity ?_ hheld.strip_owner ?_ _ _ _
    · exact hheld.openTo
    · rw [heval.lifecycle, Json.textOrEmpty_str]
  · rw [RedisRuntime.getArbitrageEvaluation, syncPairLock_latestEvaluations]
    exact AList.lookup_insert _

/-- The evaluation a trace is carried over to takes the lifecycle of the trace. -/
theorem Evaluates.carryOver (heval : Evaluates context state evaluation)
    (hstored : r.getArbitrageEvaluation runId = some evaluation) (trace : Dict) {next : String}
    (hstatus : trace.get "status" = .str "active")
    (hlifecycle : trace.get "lifecycle_state" = .str next) (hwritten : Text.strip next = next)
    (hnonempty : next ≠ "") (isoNow : String) :
    ∃ carried, (r.syncArbitrageEvaluationRecoveryState runId trace
        isoNow).getArbitrageEvaluation runId = some carried ∧
      Evaluates context next carried := by
  have hactive : normalizedText (trace.get "status") = "active" := by
    rw [hstatus]
    decide +kernel
  unfold RedisRuntime.syncArbitrageEvaluationRecoveryState
  rw [hstored]
  simp only [RedisRuntime.carriedOver, hactive, hlifecycle, Json.textOrEmpty_str, hwritten,
    hnonempty, if_false, String.reduceEq, or_self]
  refine ⟨_, AList.lookup_insert _, ?_⟩
  rw [Dict.merge_cons]
  have hnext : Evaluates context next ((evaluation.set "lifecycle_preview" (.str next)).merge
      [("recovery_trace_id", trace.get "recovery_trace_id"),
        ("recovery_status", trace.get "status"), ("recovery_lifecycle_state", .str next),
        ("recovery_updated_at", trace.get "updated_at")]) :=
    (heval.set hwritten hnonempty).merge (by simp) (by simp)
  exact hnext.cached runId isoNow

/-- After a recovery trace is opened the lock follows the evaluation read back. -/
theorem openRecoveryTrace_follows
    (hidentity : pairLockIdentity context = some (market, quotePairId, selectedPair))
    (hstrip : Text.strip (pairLockOwnerId e.botId e.runId) = pairLockOwnerId e.botId e.runId)
    (hfollows : LockFollows market quotePairId (pairLockOwnerId e.botId e.runId) state r)
    (hstored : r.getArbitrageEvaluation e.runId = some evaluation)
    (heval : Evaluates context state evaluation) {result : ArbitrageSubmitResult}
    (hreported : Reported result) (payload : Dict) :
    ∃ next, Evaluates context next (openRecoveryTrace e stamps result payload r).1 ∧
      LockFollows market quotePairId (pairLockOwnerId e.botId e.runId) next
        (openRecoveryTrace e stamps result payload r).2 := by
  obtain ⟨hwritten, hnonempty⟩ := reportedLifecycles_written _ hreported
  obtain ⟨carried, hcarried, hnext⟩ := heval.carryOver
    (r := r.syncRecoveryTrace (recoveryTraceId stamps) (submitFailureTrace e stamps result)
      (stamps.isoNow 3)) hstored
    ((submitFailureTrace e stamps result).merge
      [("recovery_trace_id", .str (recoveryTraceId stamps)),
      ("updated_at", .str (stamps.isoNow 3))])
    rfl rfl hwritten hnonempty (stamps.isoNow 4)
  refine ⟨result.lifecyclePreview, ?_⟩
  simp only [openRecoveryTrace, RedisRuntime.getRecoveryTrace_syncRecoveryTrace, hcarried,
    Option.isSome_some, if_true, Option.getD_some]
  refine ⟨hnext, hnext.syncPairLock hidentity ?_ hstrip ?_ _ _ _⟩
  · unfold PairLockOpenTo
    rw [syncArbitrageEvaluationRecoveryState_pairLocks_eq]
    exact hfollows.openTo
  · simp [hnext.lifecycle, Json.orElse, Json.truthy, hnonempty]

variable {σ : Type} {P : StoreProtocol σ} {ctx : DecimalContext} {s : σ}

/-- What an execution leaves once its submit has returned a result. -/
theorem execute_of_ok (reads : σ → ReadStore) {result : ArbitrageSubmitResult}
    (hresult : (e.adapter.submit P ctx e.decision e.intent e.autoUnwindOnFailure s).result =
      .ok result) {outcome : ExecutionOutcome}
    (houtcome : (executePersistedArbitrageIntent e stamps P reads ctx r s).outcome = .ok outcome) :
    ∃ store, ∀ report, reportSubmit e stamps (reads store) result r = report →
      if result.outcome = .submitFailed then
        outcome.latestPayload = (openRecoveryTrace e stamps result report.1 report.2).1 ∧
          (executePersistedArbitrageIntent e stamps P reads ctx r s).redis =
            (openRecoveryTrace e stamps result report.1 report.2).2
      else outcome.latestPayload = report.1 ∧
        (executePersistedArbitrageIntent e stamps P reads ctx r s).redis = report.2 := by
  refine ⟨(e.adapter.submit P ctx e.decision e.intent e.autoUnwindOnFailure s).store, ?_⟩
  rintro report rfl
  unfold executePersistedArbitrageIntent at houtcome ⊢
  simp only [hresult] at houtcome ⊢
  by_cases hfailed : result.outcome = .submitFailed
  · simp only [hfailed, if_true] at houtcome ⊢
    rw [← Except.ok.inj houtcome]
    exact ⟨rfl, trivial⟩
  · simp only [hfailed, if_false] at houtcome ⊢
    rw [← Except.ok.inj houtcome]
    exact ⟨rfl, trivial⟩

theorem execution_follows (hbuilds : BuildsEvaluations context e)
    (hidentity : pairLockIdentity context = some (market, quotePairId, selectedPair))
    (hheld : HoldsPairLock market quotePairId (pairLockOwnerId e.botId e.runId) r)
    (reads : σ → ReadStore) {outcome : ExecutionOutcome}
    (houtcome : (executePersistedArbitrageIntent e stamps P reads ctx r s).outcome = .ok outcome) :
    ∃ state, Evaluates context state outcome.latestPayload ∧
      LockFollows market quotePairId (pairLockOwnerId e.botId e.runId) state
        (executePersistedArbitrageIntent e stamps P reads ctx r s).redis := by
  cases hresult : (e.adapter.submit P ctx e.decision e.intent e.autoUnwindOnFailure s).result with
  | error text =>
      simp only [executePersistedArbitrageIntent, hresult, reduceCtorEq] at houtcome
  | ok result =>
      have hreported := reported_submit hresult
      obtain ⟨store, hleft⟩ := execute_of_ok reads hresult houtcome
      obtain ⟨state, heval, hfollows, stored, hstored, hcached⟩ :=
        reportSubmit_follows stamps hbuilds hidentity hheld hreported (reads store)
      specialize hleft _ rfl
      split at hleft
      · obtain ⟨hpayload, hredis⟩ := hleft
        rw [hpayload, hredis]
        exact openRecoveryTrace_follows hidentity hheld.strip_owner hfollows hstored hcached
          hreported _
      · obtain ⟨hpayload, hredis⟩ := hleft
        rw [hpayload, hredis]
        exact ⟨state, heval, hfollows⟩

variable {print : ℚ → Numeral} {decision : ReportedDecision} {intent : OrderIntent}
  {adapter : SubmitAdapter} {auto : Bool}

/-- Once an execution returns, its run holds the pair lock exactly when the
lifecycle of the payload it returns is an active one. -/
theorem executePersistedArbitrageIntent_holds_iff
    (hidentity : pairLockIdentity decision.context = some (market, quotePairId, selectedPair))
    (hheld : HoldsPairLock market quotePairId (pairLockOwnerId botId runId) r)
    (reads : σ → ReadStore) {outcome : ExecutionOutcome} :
    let run := executePersistedArbitrageIntent
      (persistedExecution print decision intent runId botId adapter auto) stamps P reads ctx r s
    run.outcome = .ok outcome →
      (HoldsPairLock market quotePairId (pairLockOwnerId botId runId) run.redis ↔
        ∃ state ∈ activePairLockLifecycleStates,
          outcome.latestPayload.get "lifecycle_preview" = .str state) := by
  intro run houtcome
  have hbuilds : BuildsEvaluations decision.context
      (persistedExecution print decision intent runId botId adapter auto) :=
    fun _ hpreview result =>
      evaluates_buildPayload print decision botId runId intent hpreview result
  obtain ⟨state, heval, hfollows⟩ := execution_follows hbuilds hidentity hheld reads houtcome
  refine hfollows.holds_iff.trans ⟨fun hactive => ⟨state, hactive, heval.lifecycle⟩, ?_⟩
  rintro ⟨other, hactive, hother⟩
  rw [heval.lifecycle, Json.str.injEq] at hother
  rw [hother]
  exact hactive

/-- A decision for ripple bought on upbit and sold on bithumb. -/
def rippleDecision : ReportedDecision where
  accepted := true
  reasonCode := "ARBITRAGE_OPPORTUNITY_FOUND"
  evaluated :=
    { accepted := true
      reasonCode := .arbitrageOpportunityFound
      gateChecks := []
      candidateSize := none
      executableEdge := none
      reservationPlan := none
      orderIntentPlan := none
      decisionContext := ⟨"run", 0, "upbit:bithumb:XRP-KRW", 0, [], none, none, true, none, true,
        .arbitrageOpportunityFound⟩ }
  plan := none
  context :=
    [("quote_pair_id", .str "upbit:bithumb:XRP-KRW"),
      ("selected_pair", .obj [("market", .str "XRP-KRW"), ("buy_exchange", .str "upbit"),
        ("sell_exchange", .str "bithumb")])]

/-- Redis with the lock of the ripple pair held by a run of a bot. -/
def rippleLocked (botId runId : String) : RedisRuntime :=
  (RedisRuntime.empty.acquirePairLock "XRP-KRW" "upbit:bithumb:XRP-KRW"
    (buildPairLockPayload botId runId (pairLockOwnerId botId runId) "XRP-KRW"
      "upbit:bithumb:XRP-KRW" "intent_created" none "2024-01-01T00:00:00Z" none none)
    "2024-01-01T00:00:00Z").2

theorem execute_holds_simulated :
    ∃ intent,
      (MemoryStore.withIntent .counting (oneUnitIntent "upbit" "bithumb")).orderIntents.head? =
        some intent ∧
      let run := executePersistedArbitrageIntent
        (persistedExecution (fun _ => .one) rippleDecision intent "run" "bot"
          (.simulated "simulate_success" (fun n => toString n) (fun _ => "")) false)
        ⟨fun _ => "2024-01-01T00:00:00Z", "0", "alert-1"⟩ (memoryStore .counting .default)
        (MemoryStore.reads .default) .default (rippleLocked "bot" "run")
        (MemoryStore.withIntent .counting (oneUnitIntent "upbit" "bithumb"))
      ∃ outcome, run.outcome = .ok outcome ∧
        (HoldsPairLock "XRP-KRW" "upbit:bithumb:XRP-KRW" (pairLockOwnerId "bot" "run") run.redis ↔
          ∃ state ∈ activePairLockLifecycleStates,
            outcome.latestPayload.get "lifecycle_preview" = .str state) := by
  have hheld : HoldsPairLock "XRP-KRW" "upbit:bithumb:XRP-KRW" (pairLockOwnerId "bot" "run")
      (rippleLocked "bot" "run") := by
    refine acquirePairLock_holds (fun lock hlock => ?_) (pairLockOwnerId_ne_empty _ _)
      (by decide +kernel) rfl _
    simp [RedisRuntime.empty] at hlock
  have hidentity : pairLockIdentity rippleDecision.context = some ("XRP-KRW",
      "upbit:bithumb:XRP-KRW", some [("market", .str "XRP-KRW"), ("buy_exchange", .str "upbit"),
        ("sell_exchange", .str "bithumb")]) := by
    have hpair : Text.strip "upbit:bithumb:XRP-KRW" = "upbit:bithumb:XRP-KRW" := by decide +kernel
    have hmarket : Text.strip "XRP-KRW" = "XRP-KRW" := by decide +kernel
    simp [pairLockIdentity, rippleDecision, Dict.get, Dict.get?_cons, dictOrNone, hpair, hmarket]
  refine ⟨_, rfl, ?_⟩
  intro run
  have hreturns : run.outcome.toOption.isSome = true := by decide +kernel
  cases houtcome : run.outcome with
  | error text =>
      rw [houtcome] at hreturns
      cases hreturns
  | ok outcome =>
      exact ⟨outcome, rfl, executePersistedArbitrageIntent_holds_iff hidentity hheld _ houtcome⟩

/-- The same decision with an edge to fill both orders at. -/
def rippleFillable : ReportedDecision :=
  let edge : ExecutableEdgeResult :=
    { executableBuyCostQuote := 100, executableSellProceedsQuote := 110, grossProfitQuote := 10
      executableProfitQuote := 10, executableProfitBps := 1000, buyVwap := 100, sellVwap := 110
      feeBuyQuote := 0, feeSellQuote := 0, buySlippageBufferQuote := 0
      sellSlippageBufferQuote := 0, unwindBufferQuote := 0, rebalanceBufferQuote := 0
      totalFeeQuote := 0, totalCostAdjustmentQuote := 0, passed := true }
  { rippleDecision with
    evaluated := { rippleDecision.evaluated with executableEdge := some edge } }

/-- Filled at once, the trade is closed and the run lets go of the lock. -/
example :
    let s := MemoryStore.withIntent .counting (oneUnitIntent "upbit" "bithumb")
    s.orderIntents.map (fun intent =>
      let run := executePersistedArbitrageIntent
        (persistedExecution (fun _ => .one) rippleFillable intent "run" "bot"
          (.simulated "simulate_fill" (fun n => toString n) (fun _ => "")) false)
        ⟨fun _ => "2024-01-01T00:00:00Z", "0", "alert-1"⟩ (memoryStore .counting .default)
        (MemoryStore.reads .default) .default (rippleLocked "bot" "run") s
      (run.outcome.toOption.map fun outcome =>
          (outcome.latestPayload.get "lifecycle_preview").textOrEmpty,
        (run.redis.pairLocks.lookup ("XRP-KRW", "upbit:bithumb:XRP-KRW")).isSome)) =
      [(some "closed", false)] := by
  decide +kernel

end Execution

end TradingPlatform.Runtime

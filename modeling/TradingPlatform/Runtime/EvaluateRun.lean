import TradingPlatform.Strategy.CandidateSets
import TradingPlatform.Strategy.RuntimeLoader

/-! # Evaluating one running strategy

A run goes through its phases in order: its pair lock is reconciled with its
latest evaluation, an open recovery trace blocks it, its inputs are loaded and
evaluated, and what came of it is reported, persisted and executed. Two phases
have a handler: a runtime error of the trace lookup is a skip, and an error of
the evaluation a recorded failure. What else is raised leaves the run.
-/

namespace TradingPlatform.Runtime

open Storage Strategy RedisRuntime

structure StrategySettings where
  ctx : DecimalContext
  print : ℚ → Numeral
  /-- The host's equality of decoded values. -/
  same : Json → Json → Bool
  redisEnabled : Bool
  /-- Intents are to be persisted, and the store takes mutations. -/
  persistIntent : Bool
  executionEnabled : Bool

/-- A pair lock as it is asked for. -/
structure PairLockPayload where
  market : String
  quotePairId : String
  document : Dict

/-- What the store, the caches, the connectors and Redis answer while one run is
evaluated, in the order they are asked. -/
structure RunAnswers where
  isoNow : String
  latestEvaluation : Except HostError (Option Dict)
  holdPairLock : PairLockPayload → Except HostError PairLockOutcome
  dropPairLock : (market quotePairId ownerId : String) → Except HostError PairLockOutcome
  blockingTrace : Except HostError (Option Dict)
  sources : LoaderSources
  acquirePairLock : PairLockPayload → Except HostError (PairLockOutcome × Option Dict)
  previousEvaluation : Except HostError (Option Dict)
  syncEvaluation : (payload : Dict) → (publishEvent : Bool) → Except HostError Unit
  appendEvent : (eventType : String) → (payload : Dict) → Except HostError Unit
  createOrderIntent : NewOrderIntent → Except HostError (StoreOutcome × Option OrderIntent)
  releasePairLock : (market quotePairId ownerId : String) → Except HostError PairLockOutcome
  refreshPairLock : PairLockPayload → Except HostError PairLockOutcome
  publishOrderEvent : (payload : Dict) → Except HostError Unit
  execute : ReportedDecision → OrderIntent → Except HostError ExecutionOutcome

/-- How the evaluation of a run is recorded. -/
inductive RunReport where
  | skipped (skip : Skip)
  | failed (text : String)
  | evaluated (accepted : Bool)
  | notPersisted
  | persisted (intentId : String)
  | executed (status : String)

section PairLocks

/-- A value that makes a pair for a dictionary: two elements, the first one hashable. -/
def pairOf : Json → Option (Json × Json)
  | .arr [.arr _, _] | .arr [.obj _, _] => none
  | .arr [key, value] => some (key, value)
  | .obj [(first, _), (second, _)] => some (.str first, .str second)
  | .str text =>
      match text.toList with
      | [first, second] => some (.str (String.ofList [first]), .str (String.ofList [second]))
      | _ => none
  | _ => none

/-- The last value that pairs give a key. -/
def lookupPair (pairs : List (Json × Json)) (key : String) : Json :=
  ((pairs.filterMap fun pair =>
    match pair.1 with
    | .str name => if name = key then some pair.2 else none
    | _ => none).getLast?).getD .null

/-- Make a dictionary of a value and read a key of it. -/
def dictValue (value : Json) (key : String) : Except HostError Json :=
  match value with
  | .obj fields => .ok (Dict.get fields key)
  | .arr items =>
      match items.mapM pairOf with
      | some pairs => .ok (lookupPair pairs key)
      | none => .error (.other "cannot convert dictionary update sequence")
  | _ => .error (.other "object is not iterable")

def nonEmpty (text : String) : Option String := if text = "" then none else some text

/-- Market, which may be blank, and quote pair that an evaluation names. -/
def pairLockIdentityFromPayload (payload : Dict) : Option (String × String) :=
  match payload.get "decision_context" with
  | .obj context =>
      let quotePairId := Text.strip (Dict.get context "quote_pair_id").textOrEmpty
      let market := Text.strip (payload.get "market").textOrEmpty
      let selectedMarket := ((dictOrNone (Dict.get context "selected_pair")).map fun pair =>
        Text.strip (pair.get "market").textOrEmpty).getD ""
      if quotePairId = "" then none
      else some (if market = "" then selectedMarket else market, quotePairId)
  | _ => none

def shouldHoldPairLock (payload : Dict) : Bool :=
  Text.strip (payload.get "lifecycle_preview").textOrEmpty ∈ activePairLockLifecycleStates &&
    (pairLockIdentityFromPayload payload).isSome

def pairLockPayload (isoNow : String) (run : StrategyRun) (context : Dict)
    (lifecycleState : String) (intentId recoveryTraceId : Option String) :
    Option PairLockPayload :=
  (pairLockIdentity context).map fun (market, quotePairId, selectedPair) =>
    ⟨market, quotePairId, buildPairLockPayload run.botId run.runId
      (pairLockOwnerId run.botId run.runId) market quotePairId lifecycleState selectedPair
      ((pairLockAcquiredAt context).getD isoNow) intentId recoveryTraceId⟩

/-- The pair lock that the latest evaluation of a run is to hold. -/
def heldPairLock (isoNow : String) (run : StrategyRun) (latest : Dict) (intentId : Json) :
    Option PairLockPayload :=
  pairLockPayload isoNow run ((dictOrNone (latest.get "decision_context")).getD [])
    (latest.get "lifecycle_preview").textOrEmpty (nonEmpty intentId.textOrEmpty)
    (nonEmpty (latest.get "recovery_trace_id").textOrEmpty)

end PairLocks

section Phases

variable (settings : StrategySettings) (answers : RunAnswers) (run : StrategyRun)

/-- Hold or drop the pair lock as the latest evaluation says. -/
def reconcileHeld (latest : Dict) (market quotePairId : String) : Except HostError Unit :=
  if shouldHoldPairLock latest then do
    let intentId ← dictValue ((latest.get "persisted_intent").orElse (.obj [])) "intent_id"
    match heldPairLock answers.isoNow run latest intentId with
    | none => return
    | some lock => discard (answers.holdPairLock lock)
  else discard (answers.dropPairLock market quotePairId (pairLockOwnerId run.botId run.runId))

def reconcilePairLock : Except HostError Unit :=
  if settings.redisEnabled then do
    match ← answers.latestEvaluation with
    | none => return
    | some latest =>
      match pairLockIdentityFromPayload latest with
      | none => return
      | some (market, quotePairId) =>
          if market = "" then return else reconcileHeld answers run latest market quotePairId
  else .ok ()

/-- Why a recovery trace blocks the run. -/
def traceSkip (trace : Dict) : Skip where
  reason :=
    if Text.lower (Text.strip (trace.get "status").textOrEmpty) = "handoff_required" then
      "MANUAL_HANDOFF_ACTIVE"
    else "RECOVERY_TRACE_ACTIVE"
  detail := "recovery_trace_id=" ++ (trace.get "recovery_trace_id").textOrEmpty

def blockingSkip : Except HostError (Option Skip) :=
  if settings.redisEnabled then
    match answers.blockingTrace with
    | .error e =>
        if e.isRuntimeError then
          .ok (some ⟨"RECOVERY_TRACE_READ_FAILED", "failed to read blocking recovery trace"⟩)
        else .error e
    | .ok none | .ok (some []) => .ok none
    | .ok (some trace) => .ok (some (traceSkip trace))
  else .ok none

/-- Why the state that was loaded keeps the run from being evaluated. -/
def stateSkip (payload : Dict) : Except HostError (Option Skip) :=
  match payload.get "runtime_state" with
  | .obj state =>
      if (Dict.get state "unwind_in_progress").truthy then
        .ok (some ⟨"UNWIND_IN_PROGRESS", "existing recovery flow is active"⟩)
      else do
        let count ← HostError.ofText
          (loadInt ((optionalField state "open_order_count" (.int 0)).orElse (.int 0)))
        if (Dict.get state "duplicate_intent_active").truthy ∨ 0 < count then
          return some ⟨"ACTIVE_ENTRY_PRESENT",
            "existing intent or open orders block new evaluation"⟩
        else return none
  | _ => .ok none

def evaluateDecision (payload : Dict) : Except String ReportedDecision := do
  evaluateArbitrageCandidateSet settings.ctx settings.print (← loadCandidateStrategyInputs payload)

/-- What asking for the pair lock makes of a decision, and whether it was acquired. -/
def claimedDecision (decision : ReportedDecision) (lock : PairLockPayload) :
    PairLockOutcome × Option Dict → ReportedDecision × Bool
  | (.acquired, _) | (.refreshed, _) => (attachPairLockContext decision lock.document, true)
  | (.conflict, existing) | (.failed, existing) =>
      (buildPairLockBlockedDecision decision (existing.getD [("market", .str lock.market),
        ("quote_pair_id", .str lock.quotePairId), ("state", .str "acquire_failed")]), false)
  | (.missing, _) | (.released, _) => (decision, false)

/-- The pair lock an accepted decision asks for. -/
def decisionLock (decision : ReportedDecision) : Option PairLockPayload :=
  if settings.persistIntent ∧ decision.accepted ∧ settings.redisEnabled then
    pairLockPayload answers.isoNow run decision.context "decision_accepted" none none
  else none

def acquirePairLockForDecision (decision : ReportedDecision) :
    Except HostError (ReportedDecision × Bool) :=
  match decisionLock settings answers run decision with
  | none => .ok (decision, false)
  | some lock => do return claimedDecision decision lock (← answers.acquirePairLock lock)

/-- What two evaluations are compared by. -/
def semanticProjection (payload : Dict) : List Json :=
  let part (key field : String) : Json :=
    ((dictOrNone (payload.get key)).map fun fields => fields.get field).getD .null
  [payload.get "accepted", payload.get "reason_code", payload.get "lifecycle_preview",
    part "persisted_intent" "intent_id", part "candidate_size" "target_qty",
    part "executable_edge" "executable_profit_quote",
    part "reservation_plan" "reservation_passed", part "submit_result" "outcome"]

def evaluationChanged (previous : Option Dict) (payload : Dict) : Bool :=
  match previous with
  | none => true
  | some previous =>
      !((semanticProjection previous).zip (semanticProjection payload)).all fun both =>
        settings.same both.1 both.2

/-- The evaluation of a decision as it is cached. -/
def evaluationPayload (decision : ReportedDecision) (persistedIntent : Option OrderIntent) : Dict :=
  buildArbitrageEvaluationPayload settings.print decision run.botId run.runId persistedIntent none
    none

def evaluatedEvent (decision : ReportedDecision) : Dict :=
  [("run_id", .str run.runId), ("bot_id", .str run.botId), ("accepted", .bool decision.accepted),
    ("reason_code", .str decision.reasonCode),
    ("lifecycle_preview",
      (evaluationPayload settings run decision none).get "lifecycle_preview"),
    ("persist_intent", .bool settings.persistIntent), ("source", .str "runtime_loop")]

/-- Cache the evaluation, and publish it when it says something new. -/
def reportEvaluation (decision : ReportedDecision) : Except HostError Unit := do
  let payload := evaluationPayload settings run decision none
  let previous ← answers.previousEvaluation
  let publishUpdate := evaluationChanged settings previous payload
  answers.syncEvaluation payload publishUpdate
  if publishUpdate then
    answers.appendEvent "strategy.arbitrage_evaluated" (evaluatedEvent settings run decision)
  else return

/-- The intent that was created for a decision. -/
def persistOrderIntentPlan (decision : ReportedDecision) : Except HostError (Option OrderIntent) :=
  match orderIntentOfPlan decision run.runId with
  | none => .ok none
  | some new => do
      let (outcome, intent) ← answers.createOrderIntent new
      return if outcome = .created then intent else none

def releasePairLockForDecision (decision : ReportedDecision) (acquired : Bool) :
    Except HostError Unit :=
  match pairLockPayload answers.isoNow run decision.context "closed" none none with
  | none => .ok ()
  | some lock =>
      if acquired ∧ settings.redisEnabled then
        discard (answers.releasePairLock lock.market lock.quotePairId
          (pairLockOwnerId run.botId run.runId))
      else .ok ()

def refreshPairLockAfterPersist (decision : ReportedDecision) (acquired : Bool)
    (intent : OrderIntent) : Except HostError Unit :=
  match pairLockPayload answers.isoNow run decision.context "intent_created"
      (some intent.intentId) none with
  | none => .ok ()
  | some lock =>
      if acquired ∧ settings.redisEnabled then discard (answers.refreshPairLock lock) else .ok ()

def createdEvent (intent : OrderIntent) : Dict :=
  [("intent_id", .str intent.intentId), ("bot_id", .str intent.botId),
    ("strategy_run_id", .str intent.strategyRunId), ("market", .str intent.market)]

def persistedEvent (intent : OrderIntent) : Dict :=
  [("run_id", .str run.runId), ("bot_id", .str run.botId), ("intent_id", .str intent.intentId),
    ("market", .str intent.market), ("source", .str "runtime_loop")]

/-- What follows once an intent is created: the lock is refreshed, the events are
published and the intent is executed. -/
def afterPersist (decision : ReportedDecision) (acquired : Bool) (intent : OrderIntent) :
    Except HostError RunReport := do
  refreshPairLockAfterPersist settings answers run decision acquired intent
  answers.syncEvaluation (evaluationPayload settings run decision (some intent)) true
  answers.publishOrderEvent (createdEvent intent)
  answers.appendEvent "strategy.arbitrage_intent_persisted" (persistedEvent run intent)
  if settings.executionEnabled then
    return .executed (← answers.execute decision intent).status
  else return .persisted intent.intentId

def persistDecision (decision : ReportedDecision) (acquired : Bool) :
    Except HostError RunReport := do
  match ← persistOrderIntentPlan answers run decision with
  | none => do
      releasePairLockForDecision settings answers run decision acquired
      return .notPersisted
  | some intent => afterPersist settings answers run decision acquired intent

/-- What follows once a run is evaluated. -/
def settleDecision (decision : ReportedDecision) : Except HostError RunReport := do
  let (claimed, acquired) ← acquirePairLockForDecision settings answers run decision
  reportEvaluation settings answers run claimed
  if settings.persistIntent ∧ claimed.accepted then
    persistDecision settings answers run claimed acquired
  else return .evaluated claimed.accepted

/-- What follows once the inputs of a run are loaded. -/
def evaluateLoaded (payload : Dict) : Except HostError RunReport := do
  match ← stateSkip payload with
  | some skip => return .skipped skip
  | none =>
    match evaluateDecision settings payload with
    | .error text => return .failed text
    | .ok decision => settleDecision settings answers run decision

def loadAndEvaluate : Except HostError RunReport := do
  match ← loadArbitrageRuntimePayload answers.sources run with
  | .skipped skip => return .skipped skip
  | .payload payload => evaluateLoaded settings answers run payload

def evaluateRun : Except HostError RunReport := do
  reconcilePairLock settings answers run
  match ← blockingSkip settings answers with
  | some skip => return .skipped skip
  | none => loadAndEvaluate settings answers run

end Phases

section Raising

variable {settings : StrategySettings} {answers : RunAnswers} {run : StrategyRun}

/-- A value that no dictionary can be made of. -/
def NoDictionary : Json → Prop
  | .obj _ => False
  | .arr items => ∃ item ∈ items, pairOf item = none
  | _ => True

theorem mapM_eq_none_iff {α β : Type} {f : α → Option β} {xs : List α} :
    xs.mapM f = none ↔ ∃ x ∈ xs, f x = none := by
  induction xs with
  | nil => simp
  | cons x rest ih =>
      rw [List.mapM_cons, List.exists_mem_cons_iff, ← ih]
      cases f x with
      | none => simp
      | some y => cases rest.mapM f <;> simp

theorem raises_dictValue_iff {value : Json} {key : String} :
    Raises (dictValue value key) ↔ NoDictionary value := by
  cases value with
  | obj fields => exact iff_of_false (not_raises_ok _) id
  | arr items =>
      change _ ↔ ∃ item ∈ items, pairOf item = none
      rw [← mapM_eq_none_iff]
      cases hpairs : items.mapM pairOf with
      | none => simp [dictValue, hpairs]
      | some pairs => simp [dictValue, hpairs]
  | null | bool | int | float | str => exact iff_of_true (raises_error _) trivial

/-- The stored intent of an evaluation that is to hold its lock cannot be read, or Redis
raises when the lock is held or dropped. -/
def HeldRaises (answers : RunAnswers) (run : StrategyRun) (latest : Dict)
    (market quotePairId : String) : Prop :=
  if shouldHoldPairLock latest then
    NoDictionary ((latest.get "persisted_intent").orElse (.obj [])) ∨
      ∃ intentId, dictValue ((latest.get "persisted_intent").orElse (.obj [])) "intent_id" =
          .ok intentId ∧
        ∃ lock ∈ heldPairLock answers.isoNow run latest intentId,
          Raises (answers.holdPairLock lock)
  else Raises (answers.dropPairLock market quotePairId (pairLockOwnerId run.botId run.runId))

theorem raises_reconcileHeld_iff {latest : Dict} {market quotePairId : String} :
    Raises (reconcileHeld answers run latest market quotePairId) ↔
      HeldRaises answers run latest market quotePairId := by
  unfold reconcileHeld HeldRaises
  split_ifs with hhold
  · rw [raises_bind_iff, raises_dictValue_iff]
    refine or_congr_right (exists_congr fun intentId => and_congr_right fun _ => ?_)
    cases heldPairLock answers.isoNow run latest intentId with
    | none => simp
    | some lock => simp
  · exact raises_discard_iff

/-- The latest evaluation cannot be read, or its pair lock not be reconciled. -/
def ReconcileRaises (settings : StrategySettings) (answers : RunAnswers) (run : StrategyRun) :
    Prop :=
  settings.redisEnabled ∧
    (Raises answers.latestEvaluation ∨
      ∃ latest, answers.latestEvaluation = .ok (some latest) ∧
        ∃ named ∈ pairLockIdentityFromPayload latest, named.1 ≠ "" ∧
          HeldRaises answers run latest named.1 named.2)

theorem raises_reconcilePairLock_iff :
    Raises (reconcilePairLock settings answers run) ↔ ReconcileRaises settings answers run := by
  unfold reconcilePairLock ReconcileRaises
  split_ifs with hredis
  · rw [raises_bind_iff, and_iff_right hredis]
    refine or_congr_right ⟨?_, ?_⟩
    · rintro ⟨found, hfound, hraises⟩
      cases found with
      | none => exact absurd hraises (not_raises_pure _)
      | some latest =>
          refine ⟨latest, hfound, ?_⟩
          cases hnamed : pairLockIdentityFromPayload latest with
          | none =>
              simp only [hnamed] at hraises
              exact absurd hraises (not_raises_pure _)
          | some named =>
              simp only [hnamed] at hraises
              split_ifs at hraises with hmarket
              · exact absurd hraises (not_raises_pure _)
              · rw [raises_reconcileHeld_iff] at hraises
                refine ⟨named, rfl, hmarket, ?_⟩
                assumption
    · rintro ⟨latest, hlatest, named, hnamed, hmarket, hraises⟩
      refine ⟨some latest, hlatest, ?_⟩
      simp only [Option.mem_def.mp hnamed, if_neg hmarket]
      rw [raises_reconcileHeld_iff]
      assumption
  · simp [hredis]

/-- The trace lookup raises what its handler does not take. -/
def LookupRaises (settings : StrategySettings) (answers : RunAnswers) : Prop :=
  settings.redisEnabled ∧ ∃ e, answers.blockingTrace = .error e ∧ e.isRuntimeError = false

theorem raises_blockingSkip_iff :
    Raises (blockingSkip settings answers) ↔ LookupRaises settings answers := by
  unfold blockingSkip LookupRaises
  split_ifs with hredis
  · rw [and_iff_right hredis]
    cases answers.blockingTrace with
    | error e => cases hruntime : e.isRuntimeError <;> simp [hruntime]
    | ok found =>
        refine iff_of_false ?_ nofun
        rcases found with _ | (_ | _) <;> exact not_raises_ok _
  · simp [hredis]

/-- The state of a loaded run can be read. -/
theorem not_raises_stateSkip {payload : Dict}
    (hload : loadArbitrageRuntimePayload answers.sources run = .ok (.payload payload)) :
    ¬ Raises (stateSkip payload) := by
  obtain ⟨bot, spec, orderbooks, balances, hpayload⟩ := exists_runtimePayload_of_load hload
  obtain ⟨state, count, hstate, hcount⟩ := openOrderCount_of_runtimePayload hpayload
  obtain ⟨read, hread⟩ : ∃ read, loadInt ((Json.int count).orElse (.int 0)) = .ok read := by
    unfold Json.orElse
    split_ifs
    · exact ⟨count, rfl⟩
    · exact ⟨0, rfl⟩
  unfold stateSkip
  rw [hstate]
  dsimp only
  rw [hcount, hread]
  split_ifs
  · exact not_raises_ok _
  · rw [HostError.ofText, raises_bind_iff]
    rintro (hraises | ⟨count, -, hraises⟩)
    · exact not_raises_ok _ hraises
    · split_ifs at hraises <;> exact not_raises_pure _ hraises

/-- Redis raises when an accepted decision asks for its pair lock. -/
def ClaimRaises (settings : StrategySettings) (answers : RunAnswers) (run : StrategyRun)
    (decision : ReportedDecision) : Prop :=
  ∃ lock ∈ decisionLock settings answers run decision, Raises (answers.acquirePairLock lock)

theorem raises_acquirePairLockForDecision_iff {decision : ReportedDecision} :
    Raises (acquirePairLockForDecision settings answers run decision) ↔
      ClaimRaises settings answers run decision := by
  unfold acquirePairLockForDecision ClaimRaises
  cases decisionLock settings answers run decision with
  | none => simp
  | some lock =>
      rw [raises_bind_pure_iff]
      simp

/-- Redis raises when an evaluation is compared, cached or published. -/
def ReportRaises (settings : StrategySettings) (answers : RunAnswers) (run : StrategyRun)
    (decision : ReportedDecision) : Prop :=
  Raises answers.previousEvaluation ∨
    ∃ previous, answers.previousEvaluation = .ok previous ∧
      (Raises (answers.syncEvaluation (evaluationPayload settings run decision none)
          (evaluationChanged settings previous (evaluationPayload settings run decision none))) ∨
        evaluationChanged settings previous (evaluationPayload settings run decision none) ∧
          Raises (answers.appendEvent "strategy.arbitrage_evaluated"
            (evaluatedEvent settings run decision)))

theorem raises_reportEvaluation_iff {decision : ReportedDecision} :
    Raises (reportEvaluation settings answers run decision) ↔
      ReportRaises settings answers run decision := by
  unfold reportEvaluation ReportRaises
  dsimp only
  rw [raises_bind_iff]
  refine or_congr_right (exists_congr fun previous => and_congr_right fun _ => ?_)
  rw [raises_seq_iff]
  refine or_congr_right ?_
  split_ifs with hchanged <;> simp [hchanged]

/-- The store raises when it is asked for the intent of a decision. -/
def CreateRaises (answers : RunAnswers) (run : StrategyRun) (decision : ReportedDecision) : Prop :=
  ∃ new ∈ orderIntentOfPlan decision run.runId, Raises (answers.createOrderIntent new)

theorem raises_persistOrderIntentPlan_iff {decision : ReportedDecision} :
    Raises (persistOrderIntentPlan answers run decision) ↔ CreateRaises answers run decision := by
  unfold persistOrderIntentPlan CreateRaises
  cases orderIntentOfPlan decision run.runId with
  | none => simp
  | some new =>
      rw [raises_bind_pure_iff]
      simp

/-- Redis raises when an acquired pair lock is refreshed for an intent. -/
def RefreshRaises (settings : StrategySettings) (answers : RunAnswers) (run : StrategyRun)
    (decision : ReportedDecision) (acquired : Bool) (intent : OrderIntent) : Prop :=
  ∃ lock ∈ pairLockPayload answers.isoNow run decision.context "intent_created"
      (some intent.intentId) none,
    (acquired ∧ settings.redisEnabled) ∧ Raises (answers.refreshPairLock lock)

theorem raises_refreshPairLockAfterPersist_iff {decision : ReportedDecision} {acquired : Bool}
    {intent : OrderIntent} :
    Raises (refreshPairLockAfterPersist settings answers run decision acquired intent) ↔
      RefreshRaises settings answers run decision acquired intent := by
  unfold refreshPairLockAfterPersist RefreshRaises
  cases pairLockPayload answers.isoNow run decision.context "intent_created"
      (some intent.intentId) none with
  | none => simp
  | some lock =>
      dsimp only
      split_ifs with hacquired <;> simp [hacquired]

/-- Redis raises when an acquired pair lock is released for want of an intent. -/
def ReleaseRaises (settings : StrategySettings) (answers : RunAnswers) (run : StrategyRun)
    (decision : ReportedDecision) (acquired : Bool) : Prop :=
  ∃ lock ∈ pairLockPayload answers.isoNow run decision.context "closed" none none,
    (acquired ∧ settings.redisEnabled) ∧ Raises (answers.releasePairLock lock.market
      lock.quotePairId (pairLockOwnerId run.botId run.runId))

theorem raises_releasePairLockForDecision_iff {decision : ReportedDecision} {acquired : Bool} :
    Raises (releasePairLockForDecision settings answers run decision acquired) ↔
      ReleaseRaises settings answers run decision acquired := by
  unfold releasePairLockForDecision ReleaseRaises
  cases pairLockPayload answers.isoNow run decision.context "closed" none none with
  | none => simp
  | some lock =>
      dsimp only
      split_ifs with hacquired <;> simp [hacquired]

/-- Redis raises after an intent was created, or executing the intent does. -/
def SettleRaises (settings : StrategySettings) (answers : RunAnswers) (run : StrategyRun)
    (decision : ReportedDecision) (acquired : Bool) (intent : OrderIntent) : Prop :=
  RefreshRaises settings answers run decision acquired intent ∨
    Raises (answers.syncEvaluation (evaluationPayload settings run decision (some intent)) true) ∨
    Raises (answers.publishOrderEvent (createdEvent intent)) ∨
    Raises (answers.appendEvent "strategy.arbitrage_intent_persisted"
      (persistedEvent run intent)) ∨
    settings.executionEnabled ∧ Raises (answers.execute decision intent)

theorem raises_afterPersist_iff {decision : ReportedDecision} {acquired : Bool}
    {intent : OrderIntent} :
    Raises (afterPersist settings answers run decision acquired intent) ↔
      SettleRaises settings answers run decision acquired intent := by
  unfold afterPersist SettleRaises
  rw [raises_seq_iff, raises_seq_iff, raises_seq_iff, raises_seq_iff,
    raises_refreshPairLockAfterPersist_iff]
  refine or_congr_right (or_congr_right (or_congr_right (or_congr_right ?_)))
  split_ifs with hexecution
  · rw [raises_bind_pure_iff, and_iff_right hexecution]
  · simp [hexecution]

/-- Persisting a decision raises: the store does, or Redis or the execution after it. -/
def PersistRaises (settings : StrategySettings) (answers : RunAnswers) (run : StrategyRun)
    (decision : ReportedDecision) (acquired : Bool) : Prop :=
  CreateRaises answers run decision ∨
    (persistOrderIntentPlan answers run decision = .ok none ∧
      ReleaseRaises settings answers run decision acquired) ∨
    ∃ intent, persistOrderIntentPlan answers run decision = .ok (some intent) ∧
      SettleRaises settings answers run decision acquired intent

theorem raises_persistDecision_iff {decision : ReportedDecision} {acquired : Bool} :
    Raises (persistDecision settings answers run decision acquired) ↔
      PersistRaises settings answers run decision acquired := by
  unfold persistDecision PersistRaises
  rw [raises_bind_iff, raises_persistOrderIntentPlan_iff, Option.exists]
  simp only [raises_bind_pure_iff, raises_releasePairLockForDecision_iff, raises_afterPersist_iff]

/-- Settling a decision raises: its pair lock cannot be asked for, it cannot be
reported, or an accepted one cannot be persisted. -/
def DecisionRaises (settings : StrategySettings) (answers : RunAnswers) (run : StrategyRun)
    (decision : ReportedDecision) : Prop :=
  ClaimRaises settings answers run decision ∨
    ∃ claimed acquired,
      acquirePairLockForDecision settings answers run decision = .ok (claimed, acquired) ∧
        (ReportRaises settings answers run claimed ∨
          (settings.persistIntent ∧ claimed.accepted) ∧
            PersistRaises settings answers run claimed acquired)

theorem raises_settleDecision_iff {decision : ReportedDecision} :
    Raises (settleDecision settings answers run decision) ↔
      DecisionRaises settings answers run decision := by
  unfold settleDecision DecisionRaises
  rw [raises_bind_iff, raises_acquirePairLockForDecision_iff, Prod.exists]
  refine or_congr_right (exists_congr fun claimed => exists_congr fun acquired =>
    and_congr_right fun _ => ?_)
  dsimp only
  rw [raises_seq_iff, raises_reportEvaluation_iff]
  refine or_congr_right ?_
  split_ifs with haccepted
  · rw [raises_persistDecision_iff, and_iff_right haccepted]
  · simp [haccepted]

/-- The run is loaded, free to be evaluated and evaluated to a decision. -/
def Decides (settings : StrategySettings) (answers : RunAnswers) (run : StrategyRun)
    (decision : ReportedDecision) : Prop :=
  ∃ payload, loadArbitrageRuntimePayload answers.sources run = .ok (.payload payload) ∧
    stateSkip payload = .ok none ∧ evaluateDecision settings payload = .ok decision

theorem raises_evaluateLoaded_iff {payload : Dict}
    (hload : loadArbitrageRuntimePayload answers.sources run = .ok (.payload payload)) :
    Raises (evaluateLoaded settings answers run payload) ↔
      ∃ decision, Decides settings answers run decision ∧
        DecisionRaises settings answers run decision := by
  have hdecides : ∀ decision, Decides settings answers run decision ↔
      stateSkip payload = .ok none ∧ evaluateDecision settings payload = .ok decision := by
    intro decision
    unfold Decides
    rw [hload]
    simp
  unfold evaluateLoaded
  rw [raises_bind_iff, or_iff_right (not_raises_stateSkip hload)]
  simp only [hdecides]
  constructor
  · rintro ⟨found, hfound, hraises⟩
    cases found with
    | some skip => exact absurd hraises (not_raises_pure _)
    | none =>
        cases hdecision : evaluateDecision settings payload with
        | error text =>
            simp only [hdecision] at hraises
            exact absurd hraises (not_raises_pure _)
        | ok decision =>
            simp only [hdecision] at hraises
            exact ⟨decision, ⟨hfound, rfl⟩, raises_settleDecision_iff.mp hraises⟩
  · rintro ⟨decision, ⟨hstate, hdecision⟩, hraises⟩
    refine ⟨none, hstate, ?_⟩
    simp only [hdecision]
    exact raises_settleDecision_iff.mpr hraises

/-- No recovery trace keeps the run from being loaded. -/
def Unblocked (settings : StrategySettings) (answers : RunAnswers) : Prop :=
  settings.redisEnabled → answers.blockingTrace = .ok none ∨ answers.blockingTrace = .ok (some [])

theorem blockingSkip_eq_none_iff :
    blockingSkip settings answers = .ok none ↔ Unblocked settings answers := by
  unfold blockingSkip Unblocked
  split_ifs with hredis
  · cases answers.blockingTrace with
    | error e => cases hruntime : e.isRuntimeError <;> simp [hruntime, hredis]
    | ok found => rcases found with _ | (_ | _) <;> simp [hredis]
  · simp [hredis]

/-- An exception leaves the evaluation of a run: its pair lock cannot be reconciled, the
trace lookup raises what its handler does not take, or, where no trace blocks the run,
its inputs cannot be loaded or its decision cannot be settled. -/
def Escapes (settings : StrategySettings) (answers : RunAnswers) (run : StrategyRun) : Prop :=
  ReconcileRaises settings answers run ∨ LookupRaises settings answers ∨
    Unblocked settings answers ∧
      (LoadRaises answers.sources run ∨
        ∃ decision, Decides settings answers run decision ∧
          DecisionRaises settings answers run decision)

theorem raises_loadAndEvaluate_iff :
    Raises (loadAndEvaluate settings answers run) ↔ LoadRaises answers.sources run ∨
      ∃ decision, Decides settings answers run decision ∧
        DecisionRaises settings answers run decision := by
  unfold loadAndEvaluate
  rw [raises_bind_iff, raises_loadArbitrageRuntimePayload_iff]
  refine or_congr_right ⟨?_, ?_⟩
  · rintro ⟨result, hload, hraises⟩
    cases result with
    | skipped skip => exact absurd hraises (not_raises_pure _)
    | payload payload => exact (raises_evaluateLoaded_iff hload).mp hraises
  · rintro ⟨decision, hdecides, hraises⟩
    obtain ⟨payload, hload, -⟩ := id hdecides
    exact ⟨_, hload, (raises_evaluateLoaded_iff hload).mpr ⟨decision, hdecides, hraises⟩⟩

theorem raises_evaluateRun_iff :
    Raises (evaluateRun settings answers run) ↔ Escapes settings answers run := by
  unfold evaluateRun Escapes
  rw [raises_seq_iff, raises_reconcilePairLock_iff, raises_bind_iff, raises_blockingSkip_iff,
    Option.exists]
  simp [blockingSkip_eq_none_iff, raises_loadAndEvaluate_iff]

end Raising

end TradingPlatform.Runtime

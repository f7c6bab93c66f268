import TradingPlatform.Recovery.Handoff
import TradingPlatform.Runtime.Redis
import TradingPlatform.Runtime.StrategyTick
import TradingPlatform.Storage.Listings
import TradingPlatform.Strategy.LoadResults
import TradingPlatform.Strategy.ReleasedIntents

/-! # The entry guard

A run with an active intent or an open order is not evaluated again. What closes
the evaluation of a run looks at its orders and traces; the guard looks at the
statuses of its intents as well, and these follow from its fills alone.
-/

namespace TradingPlatform.Runtime

open Storage Strategy

section Cycles

/-- The store and Redis as they stand. -/
structure CycleState where
  store : MemoryStore
  redis : RedisRuntime

/-- What ticks, executions and operators write. -/
inductive CycleWrite where
  | store (call : Call)
  | evaluation (runId : String) (payload : Dict) (isoNow : String)
  | trace (recoveryTraceId : String) (payload : Dict) (isoNow : String)
  | recoveryState (runId : String) (recoveryTrace : Dict) (isoNow : String)

def CycleState.empty (botIds : List String) : CycleState :=
  ⟨MemoryStore.empty botIds, RedisRuntime.empty⟩

def CycleWrite.apply (p : Platform) (ctx : DecimalContext) (s : CycleState) :
    CycleWrite → CycleState
  | .store call => { s with store := call.apply p ctx s.store }
  | .evaluation runId payload isoNow =>
      { s with redis := s.redis.syncArbitrageEvaluation runId payload isoNow }
  | .trace recoveryTraceId payload isoNow =>
      { s with redis := s.redis.syncRecoveryTrace recoveryTraceId payload isoNow }
  | .recoveryState runId recoveryTrace isoNow =>
      { s with redis := s.redis.syncArbitrageEvaluationRecoveryState runId recoveryTrace isoNow }

/-- The answers while a run is evaluated: the rows of the store and the documents of Redis
are as they stand, the rest is answered from outside. -/
def CycleState.answers (s : CycleState) (run : StrategyRun) (outside : RunAnswers) : RunAnswers :=
  { outside with
    latestEvaluation := .ok (s.redis.getArbitrageEvaluation run.runId)
    blockingTrace := .ok (s.redis.getBlockingRecoveryTrace run.botId "")
    previousEvaluation := .ok (s.redis.getArbitrageEvaluation run.runId)
    sources := { outside.sources with
      listOrderIntents := fun runId =>
        .ok (s.store.queryOrderIntents { unboundedQuery with strategyRunId := runId })
      listOrders := fun runId => .ok (s.store.listRunOrders "" runId) } }

/-- The cycle of a running strategy is closed: its latest evaluation is, all orders of its
intents have ended or failed, and no open trace of its bot is kept. -/
structure CycleClosed (s : CycleState) (run : StrategyRun) : Prop where
  known : run ∈ s.store.strategyRuns
  running : run.status = "running"
  evaluation : ∃ latest, s.redis.getArbitrageEvaluation run.runId = some latest ∧
    (latest.get "lifecycle_preview").textOrEmpty = "closed"
  terminal : ∀ intent ∈ s.store.orderIntents, intent.strategyRunId = run.runId →
    ∀ order ∈ s.store.orders, intent.Owns order →
      Text.lower (Text.strip order.status) ∈ Recovery.terminalOrderStatuses
  untraced : ¬ s.redis.HasOpenTrace run.botId

end Cycles

section Guard

variable (settings : StrategySettings) (answers : RunAnswers) (run : StrategyRun)

/-- The run is skipped for an active entry. -/
def SkippedForEntry : Prop :=
  ∃ skip, evaluateRun settings answers run = .ok (.skipped skip) ∧
    skip.reason = "ACTIVE_ENTRY_PRESENT"

def RunReport.skip? : RunReport → Option Skip
  | .skipped skip => some skip
  | _ => none

/-- The guard is looked at: the pair lock is reconciled, the run is loaded and its
configuration says of no unwind that it is in progress. -/
structure ReachesGuard : Prop where
  reconciled : reconcilePairLock settings answers run = .ok ()
  loaded : ∃ payload state, loadArbitrageRuntimePayload answers.sources run =
    .ok (.payload payload) ∧
    payload.get "runtime_state" = .obj state ∧ (Dict.get state "unwind_in_progress").truthy = false

end Guard

section Evaluating

variable {settings : StrategySettings} {answers : RunAnswers} {run : StrategyRun}
  {intents : List OrderIntent} {orders : List Order}

theorem skippedForEntry_iff_reason : SkippedForEntry settings answers run ↔
    ((evaluateRun settings answers run).toOption.bind RunReport.skip?).map Skip.reason =
      some "ACTIVE_ENTRY_PRESENT" := by
  unfold SkippedForEntry
  cases evaluateRun settings answers run with
  | error e => simp [Except.toOption]
  | ok report => cases report <;> simp [Except.toOption, RunReport.skip?]

/-- Settling a decision skips no run. -/
theorem settleDecision_ne_skipped {decision : ReportedDecision} {skip : Skip} :
    settleDecision settings answers run decision ≠ .ok (.skipped skip) := by
  intro hsettled
  obtain ⟨⟨claimed, acquired⟩, -, hsettled⟩ := bind_eq_ok_iff.mp hsettled
  obtain ⟨reported, -, hsettled⟩ := bind_eq_ok_iff.mp hsettled
  split_ifs at hsettled
  · obtain ⟨intent, -, hpersisted⟩ := bind_eq_ok_iff.mp hsettled
    cases intent with
    | none =>
        obtain ⟨released, -, hreport⟩ := bind_eq_ok_iff.mp hpersisted
        cases hreport
    | some intent =>
        obtain ⟨refreshed, -, hafter⟩ := bind_eq_ok_iff.mp hpersisted
        obtain ⟨synced, -, hafter⟩ := bind_eq_ok_iff.mp hafter
        obtain ⟨published, -, hafter⟩ := bind_eq_ok_iff.mp hafter
        obtain ⟨appended, -, hafter⟩ := bind_eq_ok_iff.mp hafter
        split_ifs at hafter
        · obtain ⟨outcome, -, hreport⟩ := bind_eq_ok_iff.mp hafter
          cases hreport
        · cases hafter
  · cases hsettled

/-- A loaded run that is skipped is skipped for its state. -/
theorem skipped_of_evaluateLoaded {payload : Dict} {skip : Skip}
    (hrun : evaluateLoaded settings answers run payload = .ok (.skipped skip)) :
    stateSkip payload = .ok (some skip) := by
  obtain ⟨found, hfound, hrun⟩ := bind_eq_ok_iff.mp hrun
  cases found with
  | some other =>
      obtain rfl := RunReport.skipped.inj (Except.ok.inj hrun)
      exact hfound
  | none =>
      dsimp only at hrun
      cases hdecision : evaluateDecision settings payload with
      | error text =>
          rw [hdecision] at hrun
          cases hrun
      | ok decision =>
          rw [hdecision] at hrun
          exact absurd hrun settleDecision_ne_skipped

/-- The loaded state skips a run for an active entry where it says of no unwind that it is in
progress and the store has an active intent or an open order. -/
theorem stateSkip_activeEntry_iff {payload state : Dict}
    (hstate : StateOf intents orders payload state) :
    (∃ skip, stateSkip payload = .ok (some skip) ∧ skip.reason = "ACTIVE_ENTRY_PRESENT") ↔
      (Dict.get state "unwind_in_progress").truthy = false ∧
        ((∃ intent ∈ intents, intent.status ∈ activeIntentStatuses) ∨
          ∃ order ∈ orders, order.status ∈ activeOrderStatuses) := by
  have hduplicate : (Dict.get state "duplicate_intent_active").truthy = true ↔
      ∃ intent ∈ intents, intent.status ∈ activeIntentStatuses := by
    rw [← truthy_optionalField_false, hstate.duplicate]
    simp [Json.truthy]
  set count := ((orders.filter (·.status ∈ activeOrderStatuses)).length : Int) with hcount
  have hopen : 0 < count ↔ ∃ order ∈ orders, order.status ∈ activeOrderStatuses := by
    rw [hcount, Int.natCast_pos, List.length_pos_iff_exists_mem]
    simp
  have hread : loadInt ((Json.int count).orElse (.int 0)) = .ok count := by
    unfold Json.orElse
    split_ifs with hzero
    · rfl
    · have hnone : count = 0 := by simpa [Json.truthy] using hzero
      rw [hnone]
      rfl
  unfold stateSkip
  rw [hstate.found]
  dsimp only
  rw [hstate.openOrders, hread]
  split_ifs with hunwind
  · simp [hunwind]
  · rw [← hduplicate, ← hopen]
    simp only [HostError.ofText, Bool.not_eq_true] at hunwind ⊢
    rw [and_iff_right hunwind]
    constructor
    · rintro ⟨skip, hskip, hreason⟩
      obtain ⟨read, hok, hskip⟩ := bind_eq_ok_iff.mp hskip
      obtain rfl := Except.ok.inj hok
      split_ifs at hskip with hactive
      · exact hactive
      · cases hskip
    · intro hactive
      refine ⟨_, bind_eq_ok_iff.mpr ⟨count, rfl, if_pos hactive⟩, rfl⟩

/-- A run that is loaded names its bot. -/
theorem botId_ne_empty_of_load {sources : LoaderSources} {payload : Dict}
    (hload : loadArbitrageRuntimePayload sources run = .ok (.payload payload)) :
    run.botId ≠ "" := by
  intro hempty
  obtain ⟨loaded, hspec, hload⟩ := bind_eq_ok_iff.mp hload
  unfold loadRuntimeSpec at hspec
  rw [hempty, if_pos (by decide)] at hspec
  rw [← Except.ok.inj hspec] at hload
  cases hload

/-- An open trace does not skip a run for an active entry. -/
theorem reason_of_blockingSkip {skip : Skip}
    (hblocking : blockingSkip settings answers = .ok (some skip)) :
    skip.reason ≠ "ACTIVE_ENTRY_PRESENT" := by
  unfold blockingSkip at hblocking
  split_ifs at hblocking
  · cases hanswer : answers.blockingTrace with
    | error e =>
        rw [hanswer] at hblocking
        dsimp only at hblocking
        split_ifs at hblocking
        rw [← Option.some.inj (Except.ok.inj hblocking)]
        decide
    | ok found =>
        rw [hanswer] at hblocking
        rcases found with _ | (_ | ⟨field, fields⟩)
        · cases hblocking
        · cases hblocking
        · rw [← Option.some.inj (Except.ok.inj hblocking), traceSkip]
          dsimp only
          split_ifs <;> decide
  · cases hblocking

/-- Where no trace blocks it, a run is skipped for an active entry exactly when the guard is
looked at and finds one. -/
theorem skippedForEntry_iff
    (hunblocked : ReachesGuard settings answers run → blockingSkip settings answers = .ok none)
    (hintents : answers.sources.listOrderIntents run.runId = .ok intents)
    (horders : answers.sources.listOrders run.runId = .ok orders) :
    SkippedForEntry settings answers run ↔ ReachesGuard settings answers run ∧
      ((∃ intent ∈ intents, intent.status ∈ activeIntentStatuses) ∨
        ∃ order ∈ orders, order.status ∈ activeOrderStatuses) := by
  constructor
  · rintro ⟨skip, hrun, hreason⟩
    obtain ⟨reconciled, hreconciled, hrun⟩ := bind_eq_ok_iff.mp hrun
    obtain ⟨blocking, hblocking, hrun⟩ := bind_eq_ok_iff.mp hrun
    cases blocking with
    | some other =>
        obtain rfl := RunReport.skipped.inj (Except.ok.inj hrun)
        exact absurd hreason (reason_of_blockingSkip hblocking)
    | none =>
        obtain ⟨loaded, hloaded, hrun⟩ := bind_eq_ok_iff.mp hrun
        cases loaded with
        | skipped other =>
            obtain rfl := RunReport.skipped.inj (Except.ok.inj hrun)
            have hload := reason_of_load hloaded
            rw [hreason] at hload
            exact absurd hload (by decide)
        | payload payload =>
            obtain ⟨state, hstate⟩ := exists_stateOf_of_load hintents horders hloaded
            have hskip := skipped_of_evaluateLoaded hrun
            obtain ⟨hunwind, hactive⟩ :=
              (stateSkip_activeEntry_iff hstate).mp ⟨skip, hskip, hreason⟩
            exact ⟨⟨hreconciled, payload, state, hloaded, hstate.found, hunwind⟩, hactive⟩
  · rintro ⟨hreaches, hactive⟩
    obtain ⟨hreconciled, payload, state, hloaded, hfound, hunwind⟩ := id hreaches
    obtain ⟨other, hstate⟩ := exists_stateOf_of_load hintents horders hloaded
    obtain rfl := Json.obj.inj (hfound.symm.trans hstate.found)
    obtain ⟨skip, hskip, hreason⟩ := (stateSkip_activeEntry_iff hstate).mpr ⟨hunwind, hactive⟩
    refine ⟨skip, ?_, hreason⟩
    refine bind_eq_ok_iff.mpr ⟨(), hreconciled, ?_⟩
    refine bind_eq_ok_iff.mpr ⟨none, hunblocked hreaches, ?_⟩
    refine bind_eq_ok_iff.mpr ⟨.payload payload, hloaded, ?_⟩
    exact bind_eq_ok_iff.mpr ⟨some skip, hskip, rfl⟩

end Evaluating

section Histories

variable {p : Platform} {ctx : DecimalContext} {s : CycleState} {run : StrategyRun}
  {intentId : String}

/-- The write is a call of the store that lets go of the intent. -/
def CycleWrite.LetsGo (p : Platform) (ctx : DecimalContext) (intentId : String) (s : CycleState) :
    CycleWrite → Prop
  | .store call => Strategy.LetsGo p ctx intentId s.store call
  | _ => False

/-- In the course of the writes every intent of the run is let go of. -/
def AllLetGo (p : Platform) (ctx : DecimalContext) (botIds : List String)
    (writes : List CycleWrite) (run : StrategyRun) : Prop :=
  ∀ intent ∈ (Runs.after (CycleWrite.apply p ctx) (.empty botIds) writes).store.orderIntents,
    intent.strategyRunId = run.runId →
      Runs.Meets (CycleWrite.apply p ctx) (CycleWrite.LetsGo p ctx intent.intentId)
        (.empty botIds) writes

/-- The store of the cycle is one that calls lead to. -/
structure Kept (p : Platform) (ctx : DecimalContext) (s : CycleState) : Prop where
  reachable : MemoryStore.Reachable p ctx s.store
  intents : ∀ order ∈ s.store.orders, s.store.KeepsToIntent order

theorem Kept.apply (hkept : Kept p ctx s) (write : CycleWrite) :
    Kept p ctx (write.apply p ctx s) := by
  cases write with
  | store call =>
      exact ⟨hkept.reachable.step (call.step p ctx s.store),
        (call.effect p ctx s.store).keepsToIntent hkept.intents⟩
  | evaluation | trace | recoveryState => exact ⟨hkept.reachable, hkept.intents⟩

theorem kept_empty (p : Platform) (ctx : DecimalContext) (botIds : List String) :
    Kept p ctx (.empty botIds) :=
  ⟨.empty botIds, by simp [CycleState.empty, MemoryStore.empty]⟩

theorem kept_after (p : Platform) (ctx : DecimalContext) (botIds : List String)
    (writes : List CycleWrite) :
    Kept p ctx (Runs.after (CycleWrite.apply p ctx) (.empty botIds) writes) :=
  (Runs.throughout_of_step (kept_empty p ctx botIds) (fun _ write hkept => hkept.apply write)
    writes).last

/-- An intent is let go after the writes exactly when one of them lets go of it. -/
theorem letGo_after_iff (p : Platform) (ctx : DecimalContext) (botIds : List String)
    (writes : List CycleWrite) (intentId : String) :
    LetGo (Runs.after (CycleWrite.apply p ctx) (.empty botIds) writes).store intentId ↔
      Runs.Meets (CycleWrite.apply p ctx) (CycleWrite.LetsGo p ctx intentId)
        (.empty botIds) writes := by
  have hnone : ¬ LetGo (CycleState.empty botIds).store intentId := by
    rintro ⟨intent, hintent, -⟩
    cases hintent
  rw [Runs.after_iff_meets (fun s : CycleState => LetGo s.store intentId)
    (kept_empty p ctx botIds) (fun s write hkept => hkept.apply write)
    fun s write hkept => ?_, or_iff_right hnone]
  cases write with
  | store call => exact letGo_apply_iff hkept.intents call
  | evaluation | trace | recoveryState => exact (or_iff_left id).symm

theorem mem_runIntents {runId : String} {intent : OrderIntent} (hnamed : runId ≠ "") :
    intent ∈ s.store.queryOrderIntents { unboundedQuery with strategyRunId := runId } ↔
      intent ∈ s.store.orderIntents ∧ intent.strategyRunId = runId := by
  simp [MemoryStore.queryOrderIntents, listRows, keepTo, keepFrom, MemoryStore.matchingOrderIntents,
    MemoryStore.mem_latestFirst, MemoryStore.filterRows, unboundedQuery, hnamed]

/-- An order that has ended or failed is not open. -/
theorem not_active_of_terminal {status : String}
    (hterminal : Text.lower (Text.strip status) ∈ Recovery.terminalOrderStatuses) :
    status ∉ activeOrderStatuses := by
  intro hactive
  simp only [activeOrderStatuses, List.mem_cons, List.not_mem_nil, or_false] at hactive
  rcases hactive with rfl | rfl | rfl | rfl | rfl <;> exact absurd hterminal (by decide +kernel)

/-- A closed cycle has no open order. -/
theorem CycleClosed.no_open_order (hclosed : CycleClosed s run) (hkept : Kept p ctx s) :
    ∀ order ∈ s.store.listRunOrders "" run.runId, order.status ∉ activeOrderStatuses := by
  intro order hlisted
  have hnamed := runId_ne_empty hkept.reachable run hclosed.known
  obtain ⟨hmem, -, hrun⟩ := MemoryStore.mem_listRunOrders.mp hlisted
  obtain ⟨intent, hintent, -, hsame, -⟩ := hkept.intents order hmem
  have hid : intent.intentId = order.orderIntentId := by simpa using List.find?_some hintent
  exact not_active_of_terminal (hclosed.terminal intent (List.mem_of_find?_eq_some hintent)
    (hsame.symm.trans (hrun.resolve_left hnamed)) order hmem hid.symm)

/-- No open trace blocks the run of a closed cycle. -/
theorem CycleClosed.unblocked (hclosed : CycleClosed s run) {settings : StrategySettings}
    {outside : RunAnswers} (hbot : run.botId ≠ "") :
    blockingSkip settings (s.answers run outside) = .ok none := by
  refine blockingSkip_eq_none_iff.mpr fun _ => Or.inl ?_
  have hnone := mt (RedisRuntime.getBlockingRecoveryTrace_isSome_iff hbot).mp hclosed.untraced
  exact congrArg Except.ok (Option.not_isSome_iff_eq_none.mp hnone)

/-- After a closed cycle a run is not skipped for an active entry exactly when the guard is not
looked at, or every intent of the run was created inactive or completed by a fill. -/
theorem not_skippedForEntry_iff (p : Platform) (ctx : DecimalContext) (botIds : List String)
    (writes : List CycleWrite) (settings : StrategySettings) (outside : RunAnswers)
    (run : StrategyRun)
    (hclosed : CycleClosed (Runs.after (CycleWrite.apply p ctx) (.empty botIds) writes) run) :
    ¬ SkippedForEntry settings
        ((Runs.after (CycleWrite.apply p ctx) (.empty botIds) writes).answers run outside) run ↔
      (ReachesGuard settings
          ((Runs.after (CycleWrite.apply p ctx) (.empty botIds) writes).answers run outside) run →
        AllLetGo p ctx botIds writes run) := by
  have hkept := kept_after p ctx botIds writes
  have hletGo := letGo_after_iff p ctx botIds writes
  unfold AllLetGo
  simp only [← hletGo]
  generalize Runs.after (CycleWrite.apply p ctx) (.empty botIds) writes = s at hclosed hkept ⊢
  have hnamed := runId_ne_empty hkept.reachable run hclosed.known
  have hissued := issuedIntents_of_reachable hkept.reachable
  rw [skippedForEntry_iff (fun hreaches => ?_) rfl rfl]
  · rw [or_iff_left fun ⟨order, hlisted, hopen⟩ =>
      hclosed.no_open_order hkept order hlisted hopen, not_and]
    refine imp_congr_right fun _ => ?_
    constructor
    · intro hinactive intent hintent hrun
      refine (hissued.letGo_iff hintent).mpr fun hactive => hinactive ?_
      exact ⟨intent, (mem_runIntents hnamed).mpr ⟨hintent, hrun⟩, hactive⟩
    · rintro hall ⟨intent, hlisted, hactive⟩
      obtain ⟨hintent, hrun⟩ := (mem_runIntents hnamed).mp hlisted
      exact (hissued.letGo_iff hintent).mp (hall intent hintent hrun) hactive
  · obtain ⟨payload, state, hload, -⟩ := hreaches.loaded
    exact hclosed.unblocked (botId_ne_empty_of_load hload)

/-- A run whose intent had its only order cancelled, the trace of it resolved. -/
def cancelledEntry : List CycleWrite :=
  let runId := Platform.counting.uuid 0
  let trace (status : String) : Dict :=
    [("recovery_trace_id", .str "rt_1"), ("bot_id", .str "bot"), ("run_id", .str runId),
      ("status", .str status), ("lifecycle_state", .str "recovery_required")]
  [.store (.createStrategyRun "bot" "arbitrage" "shadow"),
    .store (.startStrategyRun runId),
    .store (.createOrderIntent
      { strategyRunId := runId
        market := "XRP-KRW"
        buyExchange := "upbit"
        sellExchange := "bithumb"
        sidePair := "buy_then_sell"
        targetQty := .one
        expectedProfit := none
        expectedProfitRatio := none
        status := "created"
        decisionContext := [] }),
    .evaluation runId [("lifecycle_preview", .str "intent_created")] "2024-01-01T00:00:00Z",
    .store (.createOrder { purchase .one with orderIntentId := Platform.counting.uuid 2 }),
    .trace "rt_1" (trace "active") "2024-01-01T00:00:01Z",
    .recoveryState runId (trace "active") "2024-01-01T00:00:01Z",
    .store (.updateOrderStatus (Platform.counting.uuid 3) "cancelled"),
    .trace "rt_1" (trace "resolved") "2024-01-01T00:00:02Z",
    .recoveryState runId (trace "resolved") "2024-01-01T00:00:02Z"]

def cancelledState : CycleState :=
  Runs.after (CycleWrite.apply .counting .default) (.empty ["bot"]) cancelledEntry

def cancelledRun : StrategyRun :=
  ⟨Platform.counting.uuid 0, "bot", "arbitrage", "shadow", "running", "2024-01-01T00:00:00Z",
    some "2024-01-01T00:00:00Z", none, 1⟩

theorem cycleClosed_cancelled : CycleClosed cancelledState cancelledRun := by
  refine ⟨?_, rfl, ?_, ?_, ?_⟩
  · exact List.mem_singleton.mpr rfl
  · have hclosed : (cancelledState.redis.getArbitrageEvaluation cancelledRun.runId).map
        (fun latest => (latest.get "lifecycle_preview").textOrEmpty) = some "closed" := by
      decide +kernel
    exact Option.map_eq_some_iff.mp hclosed
  · change ∀ intent ∈ cancelledState.store.orderIntents, intent.strategyRunId = cancelledRun.runId →
      ∀ order ∈ cancelledState.store.orders, order.orderIntentId = intent.intentId → _
    decide +kernel
  · rw [← RedisRuntime.getBlockingRecoveryTrace_isSome_iff (by decide)]
    decide +kernel

theorem not_skippedForEntry_cancelled_iff :
    ¬ SkippedForEntry pairSettings (cancelledState.answers cancelledRun (pairAnswers (.int 1)))
        cancelledRun ↔
      (ReachesGuard pairSettings (cancelledState.answers cancelledRun (pairAnswers (.int 1)))
          cancelledRun → AllLetGo .counting .default ["bot"] cancelledEntry cancelledRun) :=
  not_skippedForEntry_iff .counting .default ["bot"] cancelledEntry pairSettings
    (pairAnswers (.int 1)) cancelledRun cycleClosed_cancelled

/-- Its intent stays submitted, and the next evaluation is skipped for it. -/
theorem skippedForEntry_cancelled :
    ¬ ∀ (p : Platform) (ctx : DecimalContext) (botIds : List String) (writes : List CycleWrite)
        (settings : StrategySettings) (outside : RunAnswers) (run : StrategyRun),
        CycleClosed (Runs.after (CycleWrite.apply p ctx) (.empty botIds) writes) run →
          ¬ SkippedForEntry settings
            ((Runs.after (CycleWrite.apply p ctx) (.empty botIds) writes).answers run outside)
            run := by
  intro hall
  have hreleased := hall .counting .default ["bot"] cancelledEntry
    { pairSettings with redisEnabled := true } (pairAnswers (.int 1)) cancelledRun
    cycleClosed_cancelled
  rw [skippedForEntry_iff_reason] at hreleased
  revert hreleased
  decide +kernel

end Histories

end TradingPlatform.Runtime

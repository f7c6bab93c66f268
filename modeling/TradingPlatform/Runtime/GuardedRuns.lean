import TradingPlatform.Runtime.EntryGuard
import TradingPlatform.Runtime.PairLockLifecycle
import TradingPlatform.Runtime.PlannedIntents
import TradingPlatform.Strategy.DecisionIdentity

/-! # Runs create intents under guards

When a run comes to create an intent it has acquired the pair lock of its
decision, found no open trace of its bot, and was evaluated on what the store has
of its intents and orders.
-/

namespace TradingPlatform.Runtime

open Storage Strategy

section Guards

/-- An intent as it is created: Redis at that moment, what the store is asked for, and the
state that the decision was taken on. -/
structure IntentCreation where
  redis : RedisRuntime
  new : NewOrderIntent
  state : RuntimeState

/-- The intents of a run. -/
def runIntents (s : MemoryStore) (run : StrategyRun) : List OrderIntent :=
  s.queryOrderIntents { unboundedQuery with strategyRunId := run.runId }

/-- The open orders of a run. -/
def runOpenOrders (s : MemoryStore) (run : StrategyRun) : List Order :=
  (s.listRunOrders "" run.runId).filter (·.status ∈ activeOrderStatuses)

/-- The run holds the pair lock of the market and quote pair of its intent, no open trace of
its bot is kept, and the decision was taken on the intents and orders of the store. -/
structure UnderGuards (s : MemoryStore) (run : StrategyRun) (creation : IntentCreation) : Prop where
  locked : HoldsPairLock (Text.strip creation.new.market)
    (Text.strip (creation.new.decisionContext.get "quote_pair_id").textOrEmpty)
    (Text.strip (pairLockOwnerId run.botId run.runId)) creation.redis
  untraced : ¬ creation.redis.HasOpenTrace run.botId
  duplicate : creation.state.duplicateIntentActive =
    (runIntents s run).any (·.status ∈ activeIntentStatuses)
  openOrders : creation.state.openOrderCount = (runOpenOrders s run).length

end Guards

section Locking

/-- Redis once the pair lock of the latest evaluation is held or dropped. -/
def reconciledHeld (isoNow : String) (run : StrategyRun) (latest : Dict)
    (market quotePairId : String) (r : RedisRuntime) : RedisRuntime :=
  if shouldHoldPairLock latest then
    match dictValue ((latest.get "persisted_intent").orElse (.obj [])) "intent_id" with
    | .error _ => r
    | .ok intentId =>
      match heldPairLock isoNow run latest intentId with
      | none => r
      | some lock => (r.acquirePairLock lock.market lock.quotePairId lock.document isoNow).2
  else (r.releasePairLock market quotePairId (pairLockOwnerId run.botId run.runId)).2

/-- Redis once a run has reconciled its pair lock. -/
def reconciledRedis (settings : StrategySettings) (isoNow : String) (run : StrategyRun)
    (r : RedisRuntime) : RedisRuntime :=
  if settings.redisEnabled then
    match r.getArbitrageEvaluation run.runId with
    | none => r
    | some latest =>
      match pairLockIdentityFromPayload latest with
      | none => r
      | some (market, quotePairId) =>
          if market = "" then r else reconciledHeld isoNow run latest market quotePairId r
  else r

/-- The answers while a run is evaluated, with the pair locks that Redis keeps. -/
def CycleState.lockAnswers (s : CycleState) (settings : StrategySettings) (run : StrategyRun)
    (outside : RunAnswers) : RunAnswers :=
  let reconciled := reconciledRedis settings outside.isoNow run s.redis
  { s.answers run outside with
    holdPairLock := fun lock => .ok (s.redis.acquirePairLock lock.market lock.quotePairId
      lock.document outside.isoNow).1
    dropPairLock := fun market quotePairId ownerId =>
      .ok (s.redis.releasePairLock market quotePairId ownerId).1
    acquirePairLock := fun lock => .ok
      ((reconciled.acquirePairLock lock.market lock.quotePairId lock.document outside.isoNow).1,
        reconciled.pairLocks.lookup (lock.market, lock.quotePairId)) }

/-- Redis when the store is asked for the intent of a decision: the lock is asked for and the
evaluation is cached. -/
def creationRedis (settings : StrategySettings) (answers : RunAnswers) (run : StrategyRun)
    (decision claimed : ReportedDecision) (reconciled : RedisRuntime) : RedisRuntime :=
  let locked : RedisRuntime :=
    match decisionLock settings answers run decision with
    | none => reconciled
    | some lock => (reconciled.acquirePairLock lock.market lock.quotePairId lock.document
        answers.isoNow).2
  locked.syncArbitrageEvaluation run.runId (evaluationPayload settings run claimed none)
    answers.isoNow

/-- The run goes through all its phases up to asking the store for an intent. -/
inductive RunCreates (settings : StrategySettings) (answers : RunAnswers) (run : StrategyRun)
    (reconciled : RedisRuntime) : IntentCreation → Prop
  | creates {payload : Dict} {inputs : ArbitrageCandidateInputs}
      {decision claimed : ReportedDecision} {acquired : Bool} {new : NewOrderIntent}
      (hreconciled : reconcilePairLock settings answers run = .ok ())
      (hfree : blockingSkip settings answers = .ok none)
      (hload : loadArbitrageRuntimePayload answers.sources run = .ok (.payload payload))
      (hstate : stateSkip payload = .ok none)
      (hinputs : loadCandidateStrategyInputs payload = .ok inputs)
      (hdecision : evaluateArbitrageCandidateSet settings.ctx settings.print inputs = .ok decision)
      (hclaimed : acquirePairLockForDecision settings answers run decision =
        .ok (claimed, acquired))
      (hreported : reportEvaluation settings answers run claimed = .ok ())
      (hpersists : settings.persistIntent = true ∧ claimed.accepted = true)
      (hnew : orderIntentOfPlan claimed run.runId = some new) :
      RunCreates settings answers run reconciled
        ⟨creationRedis settings answers run decision claimed reconciled, new, inputs.runtimeState⟩

end Locking

section Phases

variable {settings : StrategySettings} {answers : RunAnswers} {run : StrategyRun}
  {r reconciled : RedisRuntime}

/-- A run asks the store for an intent exactly when it goes through all its phases. -/
theorem plannedIntent_eq_some_iff (reconciled : RedisRuntime) {new : NewOrderIntent} :
    plannedIntent settings answers run = .ok (some new) ↔
      ∃ creation, RunCreates settings answers run reconciled creation ∧ creation.new = new := by
  constructor
  · intro hasks
    obtain ⟨done, hreconciled, hasks⟩ := bind_eq_ok_iff.mp hasks
    obtain ⟨blocking, hfree, hasks⟩ := bind_eq_ok_iff.mp hasks
    cases blocking with
    | some skip => cases hasks
    | none =>
        obtain ⟨loaded, hload, hasks⟩ := bind_eq_ok_iff.mp hasks
        cases loaded with
        | skipped skip => cases hasks
        | payload payload =>
            obtain ⟨found, hstate, hasks⟩ := bind_eq_ok_iff.mp hasks
            cases found with
            | some skip => cases hasks
            | none =>
                dsimp only at hasks
                cases hevaluated : evaluateDecision settings payload with
                | error text =>
                    rw [hevaluated] at hasks
                    cases hasks
                | ok decision =>
                    rw [hevaluated] at hasks
                    obtain ⟨inputs, hinputs, hdecision⟩ := bind_eq_ok_iff.mp hevaluated
                    obtain ⟨⟨claimed, acquired⟩, hclaimed, hasks⟩ := bind_eq_ok_iff.mp hasks
                    obtain ⟨reported, hreported, hasks⟩ := bind_eq_ok_iff.mp hasks
                    split_ifs at hasks with hpersists
                    · exact ⟨_, .creates hreconciled hfree hload hstate hinputs hdecision hclaimed
                        hreported hpersists (Except.ok.inj hasks), rfl⟩
                    · cases hasks
  · rintro ⟨creation, hcreates, rfl⟩
    cases hcreates with
    | creates hreconciled hfree hload hstate hinputs hdecision hclaimed hreported hpersists hnew =>
        refine bind_eq_ok_iff.mpr ⟨(), hreconciled, bind_eq_ok_iff.mpr ⟨none, hfree, ?_⟩⟩
        refine bind_eq_ok_iff.mpr ⟨_, hload, bind_eq_ok_iff.mpr ⟨none, hstate, ?_⟩⟩
        have hevaluated : evaluateDecision settings _ = .ok _ :=
          bind_eq_ok_iff.mpr ⟨_, hinputs, hdecision⟩
        dsimp only
        rw [hevaluated]
        refine bind_eq_ok_iff.mpr ⟨_, hclaimed, bind_eq_ok_iff.mpr ⟨(), hreported, ?_⟩⟩
        rw [if_pos hpersists]
        exact congrArg Except.ok hnew

/-- A lock that is acquired or refreshed is held by its owner. -/
theorem holds_of_acquired {market quotePairId ownerId isoNow : String} {payload : Dict}
    (howner : payload.get "owner_id" = .str ownerId)
    (houtcome : (r.acquirePairLock market quotePairId payload isoNow).1 = .acquired ∨
      (r.acquirePairLock market quotePairId payload isoNow).1 = .refreshed) :
    HoldsPairLock market quotePairId (Text.strip ownerId)
      (r.acquirePairLock market quotePairId payload isoNow).2 := by
  let lock := RedisRuntime.storedPairLock market quotePairId payload isoNow
  have hheld : HoldsPairLock market quotePairId (Text.strip ownerId)
      { r with pairLocks := AList.insert (market, quotePairId) lock r.pairLocks } :=
    ⟨lock, AList.lookup_insert _, lockText_storedPairLock payload isoNow howner⟩
  unfold RedisRuntime.acquirePairLock at houtcome ⊢
  dsimp only at houtcome ⊢
  split
  · exact hheld
  · next existing hexisting =>
      rw [hexisting] at houtcome
      dsimp only at houtcome
      split_ifs at houtcome ⊢
      · exact hheld
      · simp at houtcome

/-- Caching an evaluation leaves the pair locks alone. -/
theorem HoldsPairLock.syncArbitrageEvaluation {market quotePairId ownerId : String}
    (hheld : HoldsPairLock market quotePairId ownerId r) (runId : String) (payload : Dict)
    (isoNow : String) :
    HoldsPairLock market quotePairId ownerId (r.syncArbitrageEvaluation runId payload isoNow) :=
  hheld

@[simp] theorem reconciledRedis_recoveryTraces (isoNow : String) :
    (reconciledRedis settings isoNow run r).recoveryTraces = r.recoveryTraces := by
  unfold reconciledRedis reconciledHeld
  split_ifs
  · split
    · rfl
    · split
      · rfl
      · split_ifs
        · rfl
        · split
          · rfl
          · split
            · rfl
            · simp
        · simp
  · rfl

theorem creationRedis_recoveryTraces (decision claimed : ReportedDecision) :
    (creationRedis settings answers run decision claimed reconciled).recoveryTraces =
      reconciled.recoveryTraces := by
  unfold creationRedis
  dsimp only
  rw [RedisRuntime.syncArbitrageEvaluation_recoveryTraces]
  split
  · rfl
  · simp

end Phases

section Claiming

variable {settings : StrategySettings} {answers : RunAnswers} {run : StrategyRun}
  {decision claimed : ReportedDecision} {r : RedisRuntime}

/-- An accepted decision that names its pair asks for the lock of the pair. -/
theorem decisionLock_of_namesPair {market quotePair : String} (answers : RunAnswers)
    (run : StrategyRun) (hredis : settings.redisEnabled = true)
    (hpersists : settings.persistIntent = true) (haccepted : decision.accepted = true)
    (hquotePair : decision.context.get "quote_pair_id" = .str quotePair)
    (hnamed : Text.strip quotePair ≠ "") (hmarket : Text.strip market ≠ "")
    (hselected : ∃ summary : Dict, decision.context.get "selected_pair" = .obj summary ∧
      summary.get "market" = .str market) :
    ∃ document, decisionLock settings answers run decision =
        some ⟨Text.strip market, Text.strip quotePair, document⟩ ∧
      document.get "owner_id" = .str (pairLockOwnerId run.botId run.runId) := by
  obtain ⟨summary, hpair, hsummary⟩ := hselected
  have hidentity : pairLockIdentity decision.context =
      some (Text.strip market, Text.strip quotePair, some summary) := by
    simp [pairLockIdentity, hquotePair, hpair, hsummary, dictOrNone, hnamed, hmarket]
  refine ⟨buildPairLockPayload run.botId run.runId (pairLockOwnerId run.botId run.runId)
    (Text.strip market) (Text.strip quotePair) "decision_accepted" (some summary)
    ((pairLockAcquiredAt decision.context).getD answers.isoNow) none none, ?_, ?_⟩
  · rw [decisionLock, if_pos ⟨hpersists, haccepted, hredis⟩, pairLockPayload, hidentity]
    rfl
  · simp [buildPairLockPayload, Dict.get, Dict.get?_cons]

/-- A decision is claimed as accepted only when it was accepted. -/
theorem accepted_of_claimed {acquired : Bool}
    (hclaimed : acquirePairLockForDecision settings answers run decision = .ok (claimed, acquired))
    (haccepted : claimed.accepted = true) : decision.accepted = true := by
  unfold acquirePairLockForDecision at hclaimed
  split at hclaimed
  next =>
    obtain ⟨rfl, -⟩ := Prod.mk.inj (Except.ok.inj hclaimed)
    exact haccepted
  next lock hlock =>
    unfold decisionLock at hlock
    split_ifs at hlock with hasked
    exact hasked.2.1

/-- Asking Redis for a lock gives it, refreshes it or leaves it to another owner. -/
theorem acquirePairLock_outcome (market quotePairId : String) (payload : Dict) (isoNow : String) :
    (r.acquirePairLock market quotePairId payload isoNow).1 = .acquired ∨
      (r.acquirePairLock market quotePairId payload isoNow).1 = .refreshed ∨
        (r.acquirePairLock market quotePairId payload isoNow).1 = .conflict := by
  unfold RedisRuntime.acquirePairLock
  dsimp only
  split
  · exact Or.inl rfl
  · split_ifs
    · exact Or.inr (Or.inl rfl)
    · exact Or.inr (Or.inr rfl)

/-- A decision that stays accepted when its lock is asked for has the lock. -/
theorem acquired_of_claimed {lock : PairLockPayload} {isoNow : String} {existing : Option Dict}
    (haccepted : (claimedDecision decision lock
      ((r.acquirePairLock lock.market lock.quotePairId lock.document isoNow).1,
        existing)).1.accepted = true) :
    ((r.acquirePairLock lock.market lock.quotePairId lock.document isoNow).1 = .acquired ∨
        (r.acquirePairLock lock.market lock.quotePairId lock.document isoNow).1 = .refreshed) ∧
      (claimedDecision decision lock
        ((r.acquirePairLock lock.market lock.quotePairId lock.document isoNow).1, existing)).1 =
          attachPairLockContext decision lock.document := by
  rcases @acquirePairLock_outcome r lock.market lock.quotePairId lock.document isoNow with
    houtcome | houtcome | houtcome
  · rw [houtcome]
    exact ⟨Or.inl rfl, rfl⟩
  · rw [houtcome]
    exact ⟨Or.inr rfl, rfl⟩
  · rw [houtcome] at haccepted
    cases haccepted

/-- What the store is asked for names the pair of the decision. -/
theorem orderIntentOfPlan_namesPair {market quotePair runId : String} {new : NewOrderIntent}
    (hnames : NamesPair decision market quotePair)
    (hnew : orderIntentOfPlan decision runId = some new) :
    new.market = market ∧ new.decisionContext.get "quote_pair_id" = .str quotePair := by
  unfold orderIntentOfPlan at hnew
  split_ifs at hnew
  obtain ⟨plan, hplan, rfl⟩ := Option.map_eq_some_iff.mp hnew
  exact hnames.plan plan hplan

end Claiming

section Runs

variable {settings : StrategySettings} {s : CycleState} {run : StrategyRun}
  {outside : RunAnswers} {creation : IntentCreation}

/-- A trace that blocks a bot is not empty. -/
theorem blockingTrace_ne_nil {r : RedisRuntime} {botId : String} {trace : Dict}
    (hblocking : r.getBlockingRecoveryTrace botId "" = some trace) : trace ≠ [] := by
  have hmatches : ∀ {status : String}, trace ∈ r.listRecoveryTraces 10 botId "" status →
      RedisRuntime.matchesFilters botId "" status trace = true := by
    intro status hmem
    unfold RedisRuntime.listRecoveryTraces at hmem
    exact List.of_mem_filter ((List.perm_insertionSort _ _).mem_iff.mp (List.mem_of_mem_take hmem))
  have hmem := (List.perm_insertionSort _ _).mem_iff.mp (List.mem_of_mem_head? hblocking)
  rintro rfl
  have hblank : normalizedText (Dict.get [] "status") = "" := by decide +kernel
  simp only [List.flatMap_cons, List.flatMap_nil, List.append_nil, List.mem_append] at hmem
  rcases hmem with hlisted | hlisted
  · exact absurd (hmatches hlisted) (by simp [RedisRuntime.matchesFilters, hblank])
  · exact absurd (hmatches hlisted) (by simp [RedisRuntime.matchesFilters, hblank])

/-- No open trace is kept of a bot whose run is not blocked. -/
theorem untraced_of_blockingSkip {answers : RunAnswers} {r : RedisRuntime}
    (hredis : settings.redisEnabled = true) (hbot : run.botId ≠ "")
    (hanswer : answers.blockingTrace = .ok (r.getBlockingRecoveryTrace run.botId ""))
    (hfree : blockingSkip settings answers = .ok none) : ¬ r.HasOpenTrace run.botId := by
  rw [← RedisRuntime.getBlockingRecoveryTrace_isSome_iff hbot, Option.not_isSome_iff_eq_none]
  rcases blockingSkip_eq_none_iff.mp hfree hredis with hnone | hempty
  · exact Except.ok.inj (hanswer.symm.trans hnone)
  · exact absurd rfl (blockingTrace_ne_nil (Except.ok.inj (hanswer.symm.trans hempty)))

/-- A run creates its intents under guards. -/
theorem RunCreates.underGuards (hredis : settings.redisEnabled = true)
    (hcreates : RunCreates settings (s.lockAnswers settings run outside) run
      (reconciledRedis settings outside.isoNow run s.redis) creation) :
    UnderGuards s.store run creation := by
  obtain ⟨hreconciled, hfree, hload, hstate, hinputs, hdecision, hclaimed, hreported, hpersists,
    hnew⟩ := hcreates
  rename_i payload inputs decision claimed acquired new
  obtain ⟨market, hmarket, hstripped, hnamed⟩ := exists_market_of_load hload
  obtain ⟨exchanges, hlist⟩ := exists_candidateExchanges hload
  obtain ⟨hinputsMarket, fields, hfields, hruntimeState⟩ :=
    loadCandidateStrategyInputs_state hlist hinputs
  rw [hmarket, Json.toText_str] at hinputsMarket
  have haccepted := accepted_of_claimed hclaimed hpersists.2
  obtain ⟨⟨baseExchange, hedgeExchange, hnames⟩, hselected⟩ :=
    evaluateArbitrageCandidateSet_namesPair hdecision haccepted
  rw [hinputsMarket] at hnames hselected
  obtain ⟨document, hlock, howner⟩ := decisionLock_of_namesPair
    (s.lockAnswers settings run outside) run hredis hpersists.1 haccepted
    hnames.context (strip_quotePairName_ne _ _ _) (by rwa [hstripped]) hselected
  rw [acquirePairLockForDecision, hlock] at hclaimed
  obtain rfl : (claimedDecision decision _ _).1 = claimed :=
    congrArg Prod.fst (Except.ok.inj hclaimed)
  obtain ⟨houtcome, hattached⟩ := acquired_of_claimed hpersists.2
  have hcontext : (decision.context.set "pair_lock"
      (.obj (Dict.merge [("state", .str "acquired")] document))).get "quote_pair_id" =
        .str (quotePairName baseExchange hedgeExchange market) :=
    (Dict.get_set_of_ne _ _ (by decide)).trans hnames.context
  have hclaimedNames := hnames.withContext hcontext
  rw [hattached] at hnew
  obtain ⟨hmarketNew, hquotePairNew⟩ := orderIntentOfPlan_namesPair hclaimedNames hnew
  obtain ⟨state, hstateOf⟩ := exists_stateOf_of_load rfl rfl hload
  obtain rfl := Json.obj.inj (hfields.symm.trans hstateOf.found)
  obtain ⟨hduplicate, hcount⟩ := loadRuntimeState_facts hruntimeState
  refine ⟨?_, ?_, ?_, ?_⟩
  · have hheld := holds_of_acquired howner houtcome
    dsimp only
    rw [hmarketNew, hquotePairNew, Json.textOrEmpty_str, creationRedis, hlock]
    exact hheld.syncArbitrageEvaluation _ _ _
  · have hfreed := untraced_of_blockingSkip (r := s.redis) hredis (botId_ne_empty_of_load hload)
      rfl hfree
    refine (hasOpenTrace_congr ?_ run.botId).not.mpr hfreed
    dsimp only
    rw [creationRedis_recoveryTraces, reconciledRedis_recoveryTraces]
  · rw [hduplicate, hstateOf.duplicate]
    rfl
  · rw [hstateOf.openOrders] at hcount
    exact (Except.ok.inj hcount).symm

end Runs

end TradingPlatform.Runtime

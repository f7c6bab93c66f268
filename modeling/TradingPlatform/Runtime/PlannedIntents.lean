import TradingPlatform.Runtime.EvaluateRun
import TradingPlatform.Strategy.DistinctExchanges

/-! # The intent a run asks for

A run asks the store for one intent at most, and what comes of the run depends on
the store's answer to that alone. The intent is for two of the exchanges that the
run's configuration lists.
-/

namespace TradingPlatform.Runtime

open Storage Strategy RedisRuntime

section Definitions

variable (settings : StrategySettings) (answers : RunAnswers) (run : StrategyRun)

/-- The intent that a settled decision asks for. -/
def settledIntent (decision : ReportedDecision) : Except HostError (Option NewOrderIntent) := do
  let (claimed, _) ← acquirePairLockForDecision settings answers run decision
  reportEvaluation settings answers run claimed
  if settings.persistIntent ∧ claimed.accepted then return orderIntentOfPlan claimed run.runId
  else return none

def loadedIntent (payload : Dict) : Except HostError (Option NewOrderIntent) := do
  match ← stateSkip payload with
  | some _ => return none
  | none =>
    match evaluateDecision settings payload with
    | .error _ => return none
    | .ok decision => settledIntent settings answers run decision

/-- The intent that a run asks the store for. -/
def plannedIntent : Except HostError (Option NewOrderIntent) := do
  reconcilePairLock settings answers run
  match ← blockingSkip settings answers with
  | some _ => return none
  | none =>
    match ← loadArbitrageRuntimePayload answers.sources run with
    | .skipped _ => return none
    | .payload payload => loadedIntent settings answers run payload

end Definitions

section Asking

variable {settings : StrategySettings} {answers : RunAnswers} {run : StrategyRun}
  {create : NewOrderIntent → Except HostError (StoreOutcome × Option OrderIntent)}

/-- The store is asked for the intent of a settled decision, and for nothing else. -/
theorem settleDecision_createOrderIntent {decision : ReportedDecision}
    (hsame : ∀ new, settledIntent settings answers run decision = .ok (some new) →
      create new = answers.createOrderIntent new) :
    settleDecision settings { answers with createOrderIntent := create } run decision =
      settleDecision settings answers run decision := by
  refine bind_congr_of_ok fun (claimed, acquired) hclaimed => ?_
  refine bind_congr_of_ok fun reported hreported => ?_
  by_cases haccepted : settings.persistIntent ∧ claimed.accepted
  · rw [if_pos haccepted, if_pos haccepted]
    have hasked : ∀ new, orderIntentOfPlan claimed run.runId = some new →
        create new = answers.createOrderIntent new := by
      intro new hnew
      apply hsame
      refine bind_eq_ok_iff.mpr ⟨(claimed, acquired), hclaimed, ?_⟩
      refine bind_eq_ok_iff.mpr ⟨reported, hreported, ?_⟩
      rw [if_pos haccepted, hnew]
      rfl
    have hpersist :
        persistOrderIntentPlan { answers with createOrderIntent := create } run claimed =
        persistOrderIntentPlan answers run claimed := by
      unfold persistOrderIntentPlan
      cases hplan : orderIntentOfPlan claimed run.runId with
      | none => rfl
      | some new => simp only [hasked new hplan]
    unfold persistDecision
    rw [hpersist]
    refine bind_congr_of_ok fun persisted _ => ?_
    cases persisted with
    | none => simp only [releasePairLockForDecision]
    | some intent => simp only [afterPersist, refreshPairLockAfterPersist]
  · rw [if_neg haccepted, if_neg haccepted]

theorem evaluateLoaded_createOrderIntent {payload : Dict}
    (hsame : ∀ new, loadedIntent settings answers run payload = .ok (some new) →
      create new = answers.createOrderIntent new) :
    evaluateLoaded settings { answers with createOrderIntent := create } run payload =
      evaluateLoaded settings answers run payload := by
  refine bind_congr_of_ok fun skip hskip => ?_
  cases skip with
  | some skip => rfl
  | none =>
      dsimp only
      cases hdecision : evaluateDecision settings payload with
      | error text => rfl
      | ok decision =>
          refine settleDecision_createOrderIntent fun new hnew => hsame new ?_
          refine bind_eq_ok_iff.mpr ⟨none, hskip, ?_⟩
          simp only [hdecision]
          exact hnew

theorem reconcilePairLock_createOrderIntent :
    reconcilePairLock settings { answers with createOrderIntent := create } run =
      reconcilePairLock settings answers run := by
  unfold reconcilePairLock reconcileHeld
  dsimp only

theorem blockingSkip_createOrderIntent :
    blockingSkip settings { answers with createOrderIntent := create } =
      blockingSkip settings answers := by
  unfold blockingSkip
  dsimp only

theorem plannedIntent_of_loaded {reconciled : Unit} {payload : Dict}
    (hreconciled : reconcilePairLock settings answers run = .ok reconciled)
    (hskip : blockingSkip settings answers = .ok none)
    (hloaded : loadArbitrageRuntimePayload answers.sources run = .ok (.payload payload)) :
    plannedIntent settings answers run = loadedIntent settings answers run payload := by
  unfold plannedIntent
  rw [hreconciled, hskip, hloaded]
  rfl

/-- The run depends on the store's answer to the intent it asks for, and to no other. -/
theorem evaluateRun_createOrderIntent
    (hsame : ∀ new, plannedIntent settings answers run = .ok (some new) →
      create new = answers.createOrderIntent new) :
    evaluateRun settings { answers with createOrderIntent := create } run =
      evaluateRun settings answers run := by
  unfold evaluateRun
  rw [reconcilePairLock_createOrderIntent, blockingSkip_createOrderIntent]
  refine bind_congr_of_ok fun reconciled hreconciled => ?_
  refine bind_congr_of_ok fun skip hskip => ?_
  cases skip with
  | some skip => rfl
  | none =>
      dsimp only
      unfold loadAndEvaluate
      refine bind_congr_of_ok fun loaded hloaded => ?_
      cases loaded with
      | skipped skip => rfl
      | payload payload =>
          refine evaluateLoaded_createOrderIntent fun new hnew => hsame new ?_
          rw [plannedIntent_of_loaded hreconciled hskip hloaded]
          exact hnew

end Asking

section Exchanges

variable {settings : StrategySettings} {answers : RunAnswers} {run : StrategyRun}

/-- Claiming the pair lock adds to the context of a plan only. -/
theorem claimedDecision_exchanges {decision : ReportedDecision} {lock : PairLockPayload}
    {reply : PairLockOutcome × Option Dict} :
    ∀ plan ∈ (claimedDecision decision lock reply).1.plan, ∃ original ∈ decision.plan,
      plan.buyExchange = original.buyExchange ∧ plan.sellExchange = original.sellExchange := by
  obtain ⟨outcome, existing⟩ := reply
  intro plan hplan
  cases outcome with
  | acquired | refreshed =>
      simp only [claimedDecision, attachPairLockContext, ReportedDecision.withContext,
        Option.mem_def, Option.map_eq_some_iff] at hplan
      obtain ⟨original, horiginal, rfl⟩ := hplan
      exact ⟨original, horiginal, rfl, rfl⟩
  | conflict | failed => simp [claimedDecision, buildPairLockBlockedDecision] at hplan
  | missing | released => exact ⟨plan, hplan, rfl, rfl⟩

theorem acquirePairLock_exchanges {decision claimed : ReportedDecision} {acquired : Bool}
    (hclaimed : acquirePairLockForDecision settings answers run decision =
    .ok (claimed, acquired)) :
    ∀ plan ∈ claimed.plan, ∃ original ∈ decision.plan,
      plan.buyExchange = original.buyExchange ∧ plan.sellExchange = original.sellExchange := by
  unfold acquirePairLockForDecision at hclaimed
  split at hclaimed
  · obtain ⟨rfl, -⟩ := Prod.mk.inj (Except.ok.inj hclaimed)
    exact fun plan hplan => ⟨plan, hplan, rfl, rfl⟩
  next lock _ =>
    obtain ⟨reply, -, hreply⟩ := bind_eq_ok_iff.mp hclaimed
    have hclaim : claimed = (claimedDecision decision lock reply).1 :=
      (congrArg Prod.fst (Except.ok.inj hreply)).symm
    rw [hclaim]
    exact claimedDecision_exchanges

/-- A loaded payload lists the exchanges of the run. -/
theorem exists_candidateExchanges {payload : Dict}
    (hload : loadArbitrageRuntimePayload answers.sources run = .ok (.payload payload)) :
    ∃ exchanges, payload.get "candidate_exchanges" = .arr exchanges := by
  obtain ⟨bot, spec, orderbooks, balances, hpayload⟩ := exists_runtimePayload_of_load hload
  unfold runtimePayload at hpayload
  obtain ⟨baseOrderbook, -, hpayload⟩ := bind_eq_ok_iff.mp hpayload
  obtain ⟨hedgeOrderbook, -, hpayload⟩ := bind_eq_ok_iff.mp hpayload
  obtain ⟨baseBalance, -, hpayload⟩ := bind_eq_ok_iff.mp hpayload
  obtain ⟨hedgeBalance, -, hpayload⟩ := bind_eq_ok_iff.mp hpayload
  obtain ⟨state, -, hfields⟩ := bind_eq_ok_iff.mp hpayload
  refine ⟨spec.exchanges.map .str, ?_⟩
  rw [← Except.ok.inj hfields]
  rfl

/-- A decision on candidates that are listed plans for two different exchanges. -/
theorem exchangesApart_of_evaluateDecision {payload : Dict} {exchanges : List Json}
    (hlist : payload.get "candidate_exchanges" = .arr exchanges) {decision : ReportedDecision}
    (hdecision : evaluateDecision settings payload = .ok decision) :
    ∀ plan ∈ decision.plan, ExchangesApart plan.buyExchange plan.sellExchange := by
  obtain ⟨inputs, hinputs, hevaluated⟩ := bind_eq_ok_iff.mp hdecision
  have hfolded := foldedExchange_candidate hlist hinputs
  intro plan hplan
  obtain ⟨buy, hbuy, sell, hsell, hne, hbuyName, hsellName⟩ :=
    evaluateArbitrageCandidateSet_exchanges hevaluated plan hplan
  rw [ExchangesApart, hbuyName, hsellName, hfolded buy hbuy, hfolded sell hsell]
  exact hne

theorem exchangesApart_of_settledIntent {decision : ReportedDecision} {new : NewOrderIntent}
    (hapart : ∀ plan ∈ decision.plan, ExchangesApart plan.buyExchange plan.sellExchange)
    (hasks : settledIntent settings answers run decision = .ok (some new)) :
    ExchangesApart new.buyExchange new.sellExchange := by
  obtain ⟨⟨claimed, acquired⟩, hclaimed, hasks⟩ := bind_eq_ok_iff.mp hasks
  obtain ⟨reported, -, hasks⟩ := bind_eq_ok_iff.mp hasks
  split_ifs at hasks
  · have hplan := Except.ok.inj hasks
    unfold orderIntentOfPlan at hplan
    split_ifs at hplan
    obtain ⟨plan, hmem, rfl⟩ := Option.map_eq_some_iff.mp hplan
    obtain ⟨original, horiginal, hbuy, hsell⟩ := acquirePairLock_exchanges hclaimed plan hmem
    rw [hbuy, hsell]
    exact hapart original horiginal
  · cases hasks

/-- Whatever a run loads, the intent it asks for is for two different exchanges. -/
theorem exchangesApart_of_plannedIntent {new : NewOrderIntent}
    (hasks : plannedIntent settings answers run = .ok (some new)) :
    ExchangesApart new.buyExchange new.sellExchange := by
  unfold plannedIntent at hasks
  obtain ⟨reconciled, -, hasks⟩ := bind_eq_ok_iff.mp hasks
  obtain ⟨skip, -, hasks⟩ := bind_eq_ok_iff.mp hasks
  cases skip with
  | some skip => cases hasks
  | none =>
      obtain ⟨loaded, hloaded, hasks⟩ := bind_eq_ok_iff.mp hasks
      cases loaded with
      | skipped skip => cases hasks
      | payload payload =>
          obtain ⟨exchanges, hlist⟩ := exists_candidateExchanges hloaded
          obtain ⟨skip, -, hasks⟩ := bind_eq_ok_iff.mp hasks
          cases skip with
          | some skip => cases hasks
          | none =>
              dsimp only at hasks
              cases hdecision : evaluateDecision settings payload with
              | error text =>
                  rw [hdecision] at hasks
                  cases hasks
              | ok decision =>
                  rw [hdecision] at hasks
                  have hapart := exchangesApart_of_evaluateDecision hlist hdecision
                  exact exchangesApart_of_settledIntent hapart hasks

end Exchanges

end TradingPlatform.Runtime

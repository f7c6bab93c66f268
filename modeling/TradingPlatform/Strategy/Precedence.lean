import TradingPlatform.Strategy.Reference

/-! # The order of rejection reasons

An input can fail several conditions at once, and the documented precedence says
which of them is reported: first what stops the system, then data and time, then
limits and tradability, then depth and profit, and the reservation at the end.
The evaluation checks in an order of its own.
-/

namespace TradingPlatform.Strategy

/-- What the precedence ranks. -/
inductive RejectCondition where
  | unwindInProgress
  | orderbookStale
  | quotePairSkew
  | balanceStale
  | balanceInsufficient
  | publicConnectorDegraded
  | riskLimit
  | duplicateIntent
  | hedgeConfidence
  | reentryCooldown
  | depthInsufficient
  | negativeProfit
  | profitTooLow
  | reservation
deriving DecidableEq, Repr

/-- The conditions in the documented order. -/
def precedence : List RejectCondition :=
  [.unwindInProgress, .orderbookStale, .quotePairSkew, .balanceStale, .balanceInsufficient,
    .publicConnectorDegraded, .riskLimit, .duplicateIntent, .hedgeConfidence, .reentryCooldown,
    .depthInsufficient, .negativeProfit, .profitTooLow, .reservation]

/-- The reason code that belongs to a condition. -/
def RejectCondition.code : RejectCondition → String
  | unwindInProgress => "RISK_UNWIND_IN_PROGRESS"
  | orderbookStale => "ORDERBOOK_STALE"
  | quotePairSkew => "QUOTE_PAIR_SKEW_TOO_HIGH"
  | balanceStale => "BALANCE_STALE"
  | balanceInsufficient => "BALANCE_INSUFFICIENT"
  | publicConnectorDegraded => "PUBLIC_CONNECTOR_DEGRADED"
  | riskLimit => "RISK_LIMIT_BLOCKED"
  | duplicateIntent => "DUPLICATE_INTENT_BLOCKED"
  | hedgeConfidence => "HEDGE_CONFIDENCE_TOO_LOW"
  | reentryCooldown => "REENTRY_COOLDOWN_ACTIVE"
  | depthInsufficient => "ORDERBOOK_DEPTH_INSUFFICIENT"
  | negativeProfit => "EXECUTABLE_PROFIT_NEGATIVE_AFTER_DEPTH"
  | profitTooLow => "PROFIT_TOO_LOW"
  | reservation => "RESERVATION_FAILED"

variable (ctx : DecimalContext) (inputs : ArbitrageInputs)

section Conditions

/-- The edge at the sized quantity, when the books price it. -/
def sizedEdge : Option ExecutableEdgeResult :=
  simulateExecutableEdge ctx inputs (computeCandidateSize ctx inputs)

/-- A notional limit that leaves no room for any order. -/
def limitExhausted : Bool :=
  inputs.riskConfig.maxNotionalPerOrder ≤ 0 || inputs.riskConfig.maxTotalNotionalPerBot ≤ 0 ||
    inputs.runtimeState.remainingBotNotional.any (· ≤ 0)

/-- A priced order that is over a notional limit, or out of a market whose spread is. -/
def edgeOverLimits (edge : ExecutableEdgeResult) : Bool :=
  isRiskCapBlocked inputs edge.executableBuyCostQuote ||
    inputs.riskConfig.maxSpreadBps <
      ctx.mul (ctx.div (ctx.sub edge.sellVwap edge.buyVwap) edge.buyVwap) 10000

def belowThreshold (edge : ExecutableEdgeResult) : Bool :=
  edge.executableProfitQuote < inputs.riskConfig.minProfitQuote ||
    edge.executableProfitBps < inputs.riskConfig.minProfitBps

/-- Whether an input fails a condition. Without a priced edge there is no executable
profit, and nothing to hold against a limit or to reserve. -/
def fails : RejectCondition → Bool
  | .unwindInProgress => inputs.runtimeState.unwindInProgress
  | .orderbookStale => !(orderbookFreshness inputs).passed
  | .quotePairSkew => !(quotePairLock inputs).passed
  | .balanceStale => !(balanceFreshness inputs).passed
  | .balanceInsufficient =>
      ctx.sub inputs.baseBalance.availableQuote
        (ctx.add inputs.riskConfig.unwindBufferQuote inputs.riskConfig.rebalanceBufferQuote) ≤ 0 ||
      inputs.hedgeBalance.availableBase ≤ 0
  | .publicConnectorDegraded => !(publicConnectorHealth inputs).passed
  | .riskLimit =>
      !(openOrderCap inputs).passed || limitExhausted inputs ||
        (sizedEdge ctx inputs).any (edgeOverLimits ctx inputs)
  | .duplicateIntent => inputs.runtimeState.duplicateIntentActive
  | .hedgeConfidence => !inputs.runtimeState.connectorPrivateHealthy
  | .reentryCooldown => !(reentryCooldown inputs).passed
  | .depthInsufficient =>
      (computeCandidateSize ctx inputs).targetQty ≤ 0 ||
        isDepthInsufficient inputs (computeCandidateSize ctx inputs)
  | .negativeProfit => (sizedEdge ctx inputs).all (·.executableProfitQuote < 0)
  | .profitTooLow => (sizedEdge ctx inputs).any (belowThreshold inputs)
  | .reservation => (sizedEdge ctx inputs).any fun edge =>
      !(reserveCapacity ctx inputs (computeCandidateSize ctx inputs) edge).reservationPassed

/-- The reason code the precedence asks for. -/
def documentedReason : Option String :=
  (precedence.find? (fails ctx inputs)).map RejectCondition.code

/-- A rejection reports the first condition that fails. -/
def ReportsFirst : Prop :=
  (evaluateArbitrage ctx inputs).accepted = false →
    documentedReason ctx inputs = some (evaluateArbitrage ctx inputs).reasonCode.text

/-- None of these conditions fails. -/
def Clear (conditions : List RejectCondition) : Prop :=
  ∀ condition ∈ conditions, fails ctx inputs condition = false

/-- The conditions that fail together are ones the two orders agree on. -/
@[mk_iff]
structure KeepsPrecedence : Prop where
  unwind : Clear ctx inputs [.unwindInProgress]
  skew : Clear ctx inputs [.orderbookStale] → fails ctx inputs .balanceStale = true →
    Clear ctx inputs [.quotePairSkew]
  balances : Clear ctx inputs [.orderbookStale, .quotePairSkew, .balanceStale] →
    Clear ctx inputs [.balanceInsufficient]
  hedge : Clear ctx inputs
      [.orderbookStale, .quotePairSkew, .balanceStale, .publicConnectorDegraded] →
    fails ctx inputs .hedgeConfidence = true → Clear ctx inputs [.riskLimit, .duplicateIntent]
  limits : Clear ctx inputs [.orderbookStale, .quotePairSkew, .balanceStale,
      .publicConnectorDegraded, .hedgeConfidence] →
    (openOrderCap inputs).passed = true →
    (∃ condition ∈ [RejectCondition.duplicateIntent, .reentryCooldown, .depthInsufficient,
      .profitTooLow], fails ctx inputs condition = true) →
    Clear ctx inputs [.riskLimit]
  thresholds : Clear ctx inputs [.orderbookStale, .quotePairSkew, .balanceStale,
      .publicConnectorDegraded, .riskLimit, .duplicateIntent, .hedgeConfidence, .reentryCooldown,
      .depthInsufficient] →
    fails ctx inputs .profitTooLow = true → fails ctx inputs .negativeProfit = true
  reservation : Clear ctx inputs [.orderbookStale, .quotePairSkew, .balanceStale,
      .publicConnectorDegraded, .riskLimit, .duplicateIntent, .hedgeConfidence, .reentryCooldown,
      .depthInsufficient, .profitTooLow] →
    fails ctx inputs .reservation = true → Clear ctx inputs [.negativeProfit]

end Conditions

section Order

/-- What comes of an input whose gate checks all pass. -/
def sizedOutcome : Bool × ReasonCode :=
  if fails ctx inputs .depthInsufficient then (false, .orderbookDepthInsufficient)
  else if (sizedEdge ctx inputs).all (belowThreshold inputs) then
    (false, .executableProfitNegativeAfterDepth)
  else if (sizedEdge ctx inputs).any (edgeOverLimits ctx inputs) then (false, .riskLimitBlocked)
  else if fails ctx inputs .reservation then (false, .reservationFailed)
  else (true, .arbitrageOpportunityFound)

/-- The evaluation in the order of its own checks. -/
theorem evaluateArbitrage_outcome :
    ((evaluateArbitrage ctx inputs).accepted, (evaluateArbitrage ctx inputs).reasonCode) =
      ((validateGateConditions inputs).2.elim (sizedOutcome ctx inputs)
        fun reason => (false, reason)) := by
  unfold evaluateArbitrage
  obtain ⟨checks, gateReason⟩ := validateGateConditions inputs
  cases gateReason with
  | some reason => rfl
  | none =>
      unfold sizedOutcome fails sizedEdge
      dsimp only [Option.elim_none]
      by_cases hqty : (computeCandidateSize ctx inputs).targetQty ≤ 0
      · simp [hqty, buildRejectDecision]
      by_cases hdepth : isDepthInsufficient inputs (computeCandidateSize ctx inputs) = true
      · simp [hqty, hdepth, buildRejectDecision]
      cases hedge : simulateExecutableEdge ctx inputs (computeCandidateSize ctx inputs) with
      | none => simp [hqty, hdepth, buildRejectDecision]
      | some edge =>
          by_cases hprofit : edge.executableProfitQuote < inputs.riskConfig.minProfitQuote
          · simp [hqty, hdepth, hprofit, belowThreshold, buildRejectDecision]
          by_cases hbps : edge.executableProfitBps < inputs.riskConfig.minProfitBps
          · simp [hqty, hdepth, hprofit, hbps, belowThreshold, buildRejectDecision]
          by_cases hcap : isRiskCapBlocked inputs edge.executableBuyCostQuote = true
          · simp [hqty, hdepth, hprofit, hbps, hcap, belowThreshold, edgeOverLimits,
              buildRejectDecision]
          by_cases hspread : inputs.riskConfig.maxSpreadBps <
              ctx.mul (ctx.div (ctx.sub edge.sellVwap edge.buyVwap) edge.buyVwap) 10000
          · simp [hqty, hdepth, hprofit, hbps, hcap, hspread, belowThreshold, edgeOverLimits,
              buildRejectDecision]
          cases hreserved : (reserveCapacity ctx inputs (computeCandidateSize ctx inputs)
              edge).reservationPassed <;>
            simp [hqty, hdepth, hprofit, hbps, hcap, hspread, hreserved, belowThreshold,
              edgeOverLimits, buildRejectDecision, buildAcceptDecision]

theorem failedReason_cons (check : GateCheckResult) (rest : List GateCheckResult) :
    ((check :: rest).find? fun check => !check.passed).map
        (fun check => failedCheckReason check.name) =
      if !check.passed then some (failedCheckReason check.name)
      else (rest.find? fun check => !check.passed).map
        fun check => failedCheckReason check.name := by
  rw [List.find?_cons]
  cases check.passed <;> rfl

/-- The gate reports the first failing check in the order of the code. -/
theorem validateGateConditions_reason :
    (validateGateConditions inputs).2 =
      if fails ctx inputs .orderbookStale then some .orderbookStale
      else if fails ctx inputs .balanceStale then some .balanceStale
      else if fails ctx inputs .quotePairSkew then some .quotePairSkewTooHigh
      else if fails ctx inputs .publicConnectorDegraded then some .publicConnectorDegraded
      else if fails ctx inputs .hedgeConfidence then some .hedgeConfidenceTooLow
      else if fails ctx inputs .unwindInProgress then some .riskLimitBlocked
      else if !(openOrderCap inputs).passed then some .riskLimitBlocked
      else if fails ctx inputs .duplicateIntent then some .duplicateIntentBlocked
      else if fails ctx inputs .reentryCooldown then some .reentryCooldownActive
      else none := by
  have hunwind : (!(unwindBlock inputs).passed) = fails ctx inputs .unwindInProgress :=
    Bool.not_not _
  have hduplicate : (!(duplicateIntent inputs).passed) = fails ctx inputs .duplicateIntent :=
    Bool.not_not _
  unfold validateGateConditions gateChecks
  simp only [failedReason_cons, hunwind, hduplicate]
  rfl

/-- The documented reason, condition by condition. -/
theorem documentedReason_eq :
    documentedReason ctx inputs =
      if fails ctx inputs .unwindInProgress then some "RISK_UNWIND_IN_PROGRESS"
      else if fails ctx inputs .orderbookStale then some "ORDERBOOK_STALE"
      else if fails ctx inputs .quotePairSkew then some "QUOTE_PAIR_SKEW_TOO_HIGH"
      else if fails ctx inputs .balanceStale then some "BALANCE_STALE"
      else if fails ctx inputs .balanceInsufficient then some "BALANCE_INSUFFICIENT"
      else if fails ctx inputs .publicConnectorDegraded then some "PUBLIC_CONNECTOR_DEGRADED"
      else if fails ctx inputs .riskLimit then some "RISK_LIMIT_BLOCKED"
      else if fails ctx inputs .duplicateIntent then some "DUPLICATE_INTENT_BLOCKED"
      else if fails ctx inputs .hedgeConfidence then some "HEDGE_CONFIDENCE_TOO_LOW"
      else if fails ctx inputs .reentryCooldown then some "REENTRY_COOLDOWN_ACTIVE"
      else if fails ctx inputs .depthInsufficient then some "ORDERBOOK_DEPTH_INSUFFICIENT"
      else if fails ctx inputs .negativeProfit then some "EXECUTABLE_PROFIT_NEGATIVE_AFTER_DEPTH"
      else if fails ctx inputs .profitTooLow then some "PROFIT_TOO_LOW"
      else if fails ctx inputs .reservation then some "RESERVATION_FAILED"
      else none := by
  have hcons : ∀ (condition : RejectCondition) (rest : List RejectCondition),
      ((condition :: rest).find? (fails ctx inputs)).map RejectCondition.code =
        if fails ctx inputs condition then some condition.code
        else (rest.find? (fails ctx inputs)).map RejectCondition.code := by
    intro condition rest
    rw [List.find?_cons]
    cases fails ctx inputs condition <;> rfl
  unfold documentedReason precedence
  simp only [hcons]
  rfl

end Order

section Sizing

variable {ctx inputs}

/-- A side that cannot take part leaves nothing to trade. -/
theorem depthInsufficient_of_component
    (hcomponent : (sizeComponents ctx inputs).targetQty ≤ 0) :
    fails ctx inputs .depthInsufficient = true := by
  have hqty : (computeCandidateSize ctx inputs).targetQty ≤ 0 := by
    unfold computeCandidateSize
    split
    · split
      · exact le_rfl
      · exact hcomponent
    · exact le_rfl
  simp only [fails, hqty, decide_true, Bool.true_or]

theorem maxQtyWithQuoteLimit_nonpos (levels : List OrderbookLevel) {quoteLimit : ℚ}
    (hlimit : quoteLimit ≤ 0) : maxQtyWithQuoteLimit ctx levels quoteLimit ≤ 0 := by
  rw [maxQtyWithQuoteLimit, if_pos hlimit]

/-- Balances that leave nothing to trade leave no quantity. -/
theorem depthInsufficient_of_balance (hbalance : fails ctx inputs .balanceInsufficient = true) :
    fails ctx inputs .depthInsufficient = true := by
  apply depthInsufficient_of_component
  simp only [fails, Bool.or_eq_true, decide_eq_true_eq] at hbalance
  simp only [SizeComponents.targetQty, min_le_iff]
  rcases hbalance with hquote | hbase
  · have hbudget : grossBuyCostBudgetForQuoteRequirement ctx inputs ≤ 0 := by
      rw [grossBuyCostBudgetForQuoteRequirement]
      dsimp only
      rw [if_pos hquote]
    simp [sizeComponents, maxQtyWithQuoteLimit_nonpos _ hbudget]
  · simp [sizeComponents, hbase]

/-- So does an exhausted notional limit. -/
theorem depthInsufficient_of_limit (hlimit : limitExhausted inputs = true) :
    fails ctx inputs .depthInsufficient = true := by
  apply depthInsufficient_of_component
  simp only [limitExhausted, Bool.or_eq_true, decide_eq_true_eq, Option.any_eq_true] at hlimit
  simp only [SizeComponents.targetQty, min_le_iff]
  rcases hlimit with (horder | hbot) | ⟨remaining, hremaining, hnone⟩
  · simp [sizeComponents, maxQtyWithQuoteLimit_nonpos _ horder]
  · simp [sizeComponents, maxQtyWithQuoteLimit_nonpos _ hbot]
  · simp [sizeComponents, hremaining, maxQtyWithQuoteLimit_nonpos _ hnone]

end Sizing

section Agreement

@[simp] theorem clear_nil : Clear ctx inputs [] := by
  intro condition hcondition
  exact absurd hcondition List.not_mem_nil

@[simp] theorem clear_cons (condition : RejectCondition) (rest : List RejectCondition) :
    Clear ctx inputs (condition :: rest) ↔
      fails ctx inputs condition = false ∧ Clear ctx inputs rest :=
  List.forall_mem_cons

/-- What is accepted is not unwinding and has something to trade. -/
theorem clear_of_accepted (haccepted : (evaluateArbitrage ctx inputs).accepted = true) :
    Clear ctx inputs [.unwindInProgress, .depthInsufficient] := by
  have houtcome := congrArg Prod.fst (evaluateArbitrage_outcome ctx inputs)
  rw [haccepted] at houtcome
  cases hgate : (validateGateConditions inputs).2 with
  | some reason =>
      rw [hgate] at houtcome
      exact absurd houtcome.symm Bool.false_ne_true
  | none =>
      rw [hgate, Option.elim_none, sizedOutcome] at houtcome
      rw [validateGateConditions_reason_eq_none] at hgate
      have hpassed : (unwindBlock inputs).passed = true :=
        hgate _ (by simp [validateGateConditions, gateChecks])
      have hunwind : fails ctx inputs .unwindInProgress = false :=
        (Bool.not_eq_eq_eq_not.mp hpassed)
      cases hdepth : fails ctx inputs .depthInsufficient with
      | true =>
          rw [hdepth, if_pos rfl] at houtcome
          exact absurd houtcome.symm Bool.false_ne_true
      | false => simp [hunwind, hdepth]

/-- A documented code that the evaluation does not have is never reported. -/
theorem not_reportsFirst_of_code {code : String}
    (hcode : documentedReason ctx inputs = some code)
    (hunknown : ∀ reason : ReasonCode, code ≠ reason.text)
    (hrejected : (evaluateArbitrage ctx inputs).accepted = false) :
    ¬ ReportsFirst ctx inputs := by
  intro hreports
  have hreason := hreports hrejected
  rw [hcode, Option.some.injEq] at hreason
  exact hunknown _ hreason

/-- Where the gate and the depth are in order the priced edge decides. -/
theorem reportsFirst_iff_of_priced (hclear : Clear ctx inputs [.unwindInProgress, .orderbookStale,
      .quotePairSkew, .balanceStale, .balanceInsufficient, .publicConnectorDegraded,
      .duplicateIntent, .hedgeConfidence, .reentryCooldown, .depthInsufficient])
    (hcap : (openOrderCap inputs).passed = true) :
    ReportsFirst ctx inputs ↔
      (fails ctx inputs .profitTooLow = true → fails ctx inputs .riskLimit = false) ∧
      (fails ctx inputs .riskLimit = false → fails ctx inputs .profitTooLow = true →
        fails ctx inputs .negativeProfit = true) ∧
      (fails ctx inputs .riskLimit = false → fails ctx inputs .profitTooLow = false →
        fails ctx inputs .reservation = true → fails ctx inputs .negativeProfit = false) := by
  simp only [clear_cons, clear_nil, and_true] at hclear
  obtain ⟨hunwind, hbook, hskew, hbalance, hfunds, hpublic, hduplicate, hhedge, hcooldown,
    hdepth⟩ := hclear
  have hexhausted : limitExhausted inputs = false := by
    apply Bool.eq_false_iff.mpr
    intro hexhausted
    rw [depthInsufficient_of_limit hexhausted] at hdepth
    exact absurd hdepth.symm Bool.false_ne_true
  have houtcome := evaluateArbitrage_outcome ctx inputs
  have hdocumented := documentedReason_eq ctx inputs
  rw [validateGateConditions_reason ctx] at houtcome
  simp only [hunwind, hbook, hskew, hbalance, hfunds, hpublic, hduplicate, hhedge, hcooldown,
    hdepth, hcap, Bool.not_true, Bool.false_eq_true, if_false, Option.elim_none, sizedOutcome]
    at houtcome hdocumented
  cases hedge : sizedEdge ctx inputs with
  | none =>
    simp [fails, hedge, hcap, hexhausted] at houtcome hdocumented
    simp [ReportsFirst, houtcome, hdocumented, fails, hedge, hcap, hexhausted, ReasonCode.text]
  | some edge =>
    simp [fails, hedge, hcap, hexhausted] at houtcome hdocumented
    have hlimit : fails ctx inputs .riskLimit = edgeOverLimits ctx inputs edge := by
      simp [fails, hedge, hcap, hexhausted]
    have hlow : fails ctx inputs .profitTooLow = belowThreshold inputs edge := by
      simp [fails, hedge]
    have hnegative : fails ctx inputs .negativeProfit =
        decide (edge.executableProfitQuote < 0) := by
      simp [fails, hedge]
    have hreserved : fails ctx inputs .reservation =
        !(reserveCapacity ctx inputs (computeCandidateSize ctx inputs) edge).reservationPassed := by
      simp [fails, hedge]
    rw [hlimit, hnegative, hreserved]
    cases hover : edgeOverLimits ctx inputs edge <;>
      cases hbelow : belowThreshold inputs edge <;>
      by_cases hloss : edge.executableProfitQuote < 0 <;>
      cases hpassed : (reserveCapacity ctx inputs (computeCandidateSize ctx inputs)
        edge).reservationPassed <;>
      simp_all [ReportsFirst, ReasonCode.text]

/-- A rejection reports the documented reason exactly when the conditions that fail
are ones the two orders agree on. -/
theorem reportsFirst_iff : ReportsFirst ctx inputs ↔ KeepsPrecedence ctx inputs := by
  -- the cases follow the gates of the code: where one fails, both reasons are known
  have houtcome := evaluateArbitrage_outcome ctx inputs
  have hdocumented := documentedReason_eq ctx inputs
  rw [validateGateConditions_reason ctx] at houtcome
  rw [keepsPrecedence_iff]
  cases hunwind : fails ctx inputs .unwindInProgress with
  | true =>
    have hnot : ¬ ReportsFirst ctx inputs := by
      apply not_reportsFirst_of_code ctx inputs (hdocumented.trans (if_pos hunwind))
      · intro reason
        cases reason <;> decide
      · apply Bool.eq_false_iff.mpr
        intro haccepted
        have hclear := clear_of_accepted ctx inputs haccepted
        simp [hunwind] at hclear
    simp [hnot, hunwind]
  | false =>
  simp only [hunwind, Bool.false_eq_true, if_false, clear_cons, clear_nil, and_true, true_and]
    at houtcome hdocumented ⊢
  cases hbook : fails ctx inputs .orderbookStale with
  | true =>
    simp only [hbook, if_true, Option.elim_some, Prod.mk.injEq] at houtcome hdocumented
    simp [ReportsFirst, houtcome, hdocumented, ReasonCode.text]
  | false =>
  simp only [hbook, Bool.false_eq_true, if_false, true_and, forall_const] at houtcome hdocumented ⊢
  cases hbalance : fails ctx inputs .balanceStale with
  | true =>
    simp only [hbalance, if_true, Option.elim_some, Prod.mk.injEq] at houtcome hdocumented
    cases hskew : fails ctx inputs .quotePairSkew <;>
      simp [ReportsFirst, houtcome, hdocumented, hskew, ReasonCode.text]
  | false =>
  simp only [hbalance, Bool.false_eq_true, if_false, and_true] at houtcome hdocumented ⊢
  cases hskew : fails ctx inputs .quotePairSkew with
  | true =>
    simp only [hskew, if_true, Option.elim_some, Prod.mk.injEq] at houtcome hdocumented
    simp [ReportsFirst, houtcome, hdocumented, ReasonCode.text]
  | false =>
  simp only [hskew, Bool.false_eq_true, if_false, true_and, forall_const] at houtcome hdocumented ⊢
  cases hfunds : fails ctx inputs .balanceInsufficient with
  | true =>
    have hnot : ¬ ReportsFirst ctx inputs := by
      rw [hfunds, if_pos rfl] at hdocumented
      apply not_reportsFirst_of_code ctx inputs hdocumented
      · intro reason
        cases reason <;> decide
      · apply Bool.eq_false_iff.mpr
        intro haccepted
        have hclear := clear_of_accepted ctx inputs haccepted
        simp [depthInsufficient_of_balance hfunds] at hclear
    simp [hnot]
  | false =>
  simp only [hfunds, Bool.false_eq_true, if_false, true_and] at hdocumented ⊢
  cases hpublic : fails ctx inputs .publicConnectorDegraded with
  | true =>
    simp only [hpublic, if_true, Option.elim_some, Prod.mk.injEq] at houtcome hdocumented
    simp [ReportsFirst, houtcome, hdocumented, ReasonCode.text]
  | false =>
  simp only [hpublic, Bool.false_eq_true, if_false, true_and, forall_const]
    at houtcome hdocumented ⊢
  cases hhedge : fails ctx inputs .hedgeConfidence with
  | true =>
    simp only [hhedge, if_true, Option.elim_some, Prod.mk.injEq] at houtcome hdocumented
    cases hlimit : fails ctx inputs .riskLimit <;>
      cases hduplicate : fails ctx inputs .duplicateIntent <;>
      simp [ReportsFirst, houtcome, hdocumented, hlimit, hduplicate, ReasonCode.text]
  | false =>
  simp only [hhedge, Bool.false_eq_true, if_false, true_and, forall_const]
    at houtcome hdocumented ⊢
  cases hcap : (openOrderCap inputs).passed with
  | false =>
    have hlimit : fails ctx inputs .riskLimit = true := by
      simp only [fails, hcap, Bool.not_false, Bool.true_or]
    simp only [hcap, hlimit, Bool.not_false, if_true, Option.elim_some, Prod.mk.injEq]
      at houtcome hdocumented
    simp [ReportsFirst, houtcome, hdocumented, hlimit, ReasonCode.text]
  | true =>
  simp only [hcap, Bool.not_true, Bool.false_eq_true, if_false, forall_const]
    at houtcome hdocumented ⊢
  cases hduplicate : fails ctx inputs .duplicateIntent with
  | true =>
    simp only [hduplicate, if_true, Option.elim_some, Prod.mk.injEq] at houtcome hdocumented
    cases hlimit : fails ctx inputs .riskLimit <;>
      simp [ReportsFirst, houtcome, hdocumented, hduplicate, hlimit, ReasonCode.text]
  | false =>
  simp only [hduplicate, Bool.false_eq_true, if_false] at houtcome hdocumented
  cases hcooldown : fails ctx inputs .reentryCooldown with
  | true =>
    simp only [hcooldown, if_true, Option.elim_some, Prod.mk.injEq] at houtcome hdocumented
    cases hlimit : fails ctx inputs .riskLimit <;>
      simp [ReportsFirst, houtcome, hdocumented, hduplicate, hcooldown, hlimit, ReasonCode.text]
  | false =>
  simp only [hcooldown, Bool.false_eq_true, if_false, Option.elim_none, sizedOutcome]
    at houtcome hdocumented
  cases hdepth : fails ctx inputs .depthInsufficient with
  | true =>
    simp only [hdepth, if_true, Prod.mk.injEq] at houtcome hdocumented
    cases hlimit : fails ctx inputs .riskLimit <;>
      simp [ReportsFirst, houtcome, hdocumented, hduplicate, hcooldown, hdepth, hlimit,
        ReasonCode.text]
  | false =>
  rw [reportsFirst_iff_of_priced ctx inputs (by simp [hunwind, hbook, hskew, hbalance, hfunds,
    hpublic, hduplicate, hhedge, hcooldown, hdepth]) hcap]
  simp [hduplicate, hcooldown, hdepth]

end Agreement

/-- Crossed books in a market whose spread is out of bounds, at a loss. -/
def outlierAtLoss : ArbitrageInputs :=
  { crossedBooks with
    riskConfig := { crossedBooks.riskConfig with maxSpreadBps := 500, unwindBufferQuote := 100 } }

/-- The spread limit comes before the profit, the evaluation reports the loss. -/
theorem not_reportsFirst_outlierAtLoss : ¬ ReportsFirst .default outlierAtLoss := by
  intro hreports
  have hrejected : (evaluateArbitrage .default outlierAtLoss).accepted = false := by
    decide +kernel
  have hreason : (evaluateArbitrage .default outlierAtLoss).reasonCode =
      .executableProfitNegativeAfterDepth := by
    decide +kernel
  have hdocumented : documentedReason .default outlierAtLoss = some "RISK_LIMIT_BLOCKED" := by
    decide +kernel
  have hequal := hreports hrejected
  rw [hreason, hdocumented] at hequal
  exact absurd hequal (by decide)

end TradingPlatform.Strategy

import Mathlib.Tactic.NormNum
import TradingPlatform.Strategy.Evaluate

/-! # The reference evaluation

What an evaluation is for: the greatest quantity that both books, the balances
and every notional limit allow at list-walk prices, accepted when it is
profitable. In exact arithmetic the evaluation pipeline is this reference.
-/

namespace TradingPlatform.Strategy

open PriceLadder

section Reference

variable (inputs : ArbitrageInputs)

/-- List-walk cost of buying a quantity from the asks of the buy exchange. -/
def buyCost (qty : ℚ) : ℚ := cost inputs.baseOrderbook.asks qty

/-- List-walk proceeds of selling a quantity into the bids of the sell exchange. -/
def sellProceeds (qty : ℚ) : ℚ := cost inputs.hedgeOrderbook.bids qty

/-- What the available quote can pay for the purchase itself, once buffers and
proportional costs are set aside. -/
def quoteBudget : ℚ :=
  let config := inputs.riskConfig
  let available :=
    inputs.baseBalance.availableQuote - config.unwindBufferQuote - config.rebalanceBufferQuote
  let rate := 1 + config.takerFeeBpsBuy / 10000 + config.slippageBufferBps / 10000
  if 0 < available ∧ 0 < rate then available / rate else 0

/-- A quantity that the books, the balances and every notional limit allow. -/
structure Qualifies (qty : ℚ) : Prop where
  pos : 0 < qty
  asks : qty ≤ depth inputs.baseOrderbook.asks
  bids : qty ≤ depth inputs.hedgeOrderbook.bids
  base : qty ≤ inputs.hedgeBalance.availableBase
  budget : buyCost inputs qty ≤ quoteBudget inputs
  perOrder : buyCost inputs qty ≤ inputs.riskConfig.maxNotionalPerOrder
  perBot : buyCost inputs qty ≤ inputs.riskConfig.maxTotalNotionalPerBot
  remaining : ∀ remaining ∈ inputs.runtimeState.remainingBotNotional,
    buyCost inputs qty ≤ remaining

/-- The greatest qualifying quantity, zero when none qualifies. -/
def IsReferenceSize (qty : ℚ) : Prop :=
  IsGreatest (fun q => Qualifies inputs q) qty ∨ qty = 0 ∧ ∀ q, ¬ Qualifies inputs q

/-- Profit of trading a quantity, net of fees, slippage and fixed buffers. -/
def netProfit (qty : ℚ) : ℚ :=
  let config := inputs.riskConfig
  let buy := buyCost inputs qty
  let sell := sellProceeds inputs qty
  sell - buy - (buy * config.takerFeeBpsBuy / 10000 + sell * config.takerFeeBpsSell / 10000 +
    buy * config.slippageBufferBps / 10000 + sell * config.slippageBufferBps / 10000 +
    config.unwindBufferQuote + config.rebalanceBufferQuote)

/-- Spread of the average sell price over the average buy price. -/
def spreadBps (qty : ℚ) : ℚ :=
  let buyPrice := buyCost inputs qty / qty
  let sellPrice := sellProceeds inputs qty / qty
  (sellPrice - buyPrice) / buyPrice * 10000

/-- A book with enough levels and enough notional. -/
def MeetsDepth (levels : List OrderbookLevel) : Prop :=
  max inputs.riskConfig.minOrderbookDepthLevels 1 ≤ (levels.length : Int) ∧
    inputs.riskConfig.minAvailableDepthQuote ≤ notional levels

/-- Acceptance at a reference size. -/
structure ReferenceAccepts (qty : ℚ) : Prop where
  gate : ∀ check ∈ (validateGateConditions inputs).1, check.passed = true
  asks : MeetsDepth inputs inputs.baseOrderbook.asks
  bids : MeetsDepth inputs inputs.hedgeOrderbook.bids
  pos : 0 < qty
  profit : inputs.riskConfig.minProfitQuote ≤ netProfit inputs qty
  profitBps : inputs.riskConfig.minProfitBps ≤ netProfit inputs qty / buyCost inputs qty * 10000
  spread : spreadBps inputs qty ≤ inputs.riskConfig.maxSpreadBps

end Reference

/-- The size both accepted and reference evaluations speak about. -/
def ArbitrageDecision.targetQty (decision : ArbitrageDecision) : Option ℚ :=
  decision.orderIntentPlan.map OrderIntentPlan.targetQty

section Size

variable {inputs : ArbitrageInputs}

theorem grossBuyCostBudget_exact (inputs : ArbitrageInputs) :
    grossBuyCostBudgetForQuoteRequirement .exact inputs = quoteBudget inputs := by
  simp only [grossBuyCostBudgetForQuoteRequirement, quoteBudget, DecimalContext.exact_add,
    DecimalContext.exact_sub, DecimalContext.exact_div, ← sub_sub]
  split
  next hnone => rw [if_neg (fun h => absurd h.1 (not_lt.mpr hnone))]
  next hsome =>
    split
    next hrate => rw [if_neg (fun h => absurd h.2 (not_lt.mpr hrate))]
    next hrate => rw [if_pos ⟨not_le.mp hsome, not_le.mp hrate⟩]

/-- The candidate size is the minimum of the components when both books have a level. -/
theorem computeCandidateSize_cases (ctx : DecimalContext) (inputs : ArbitrageInputs)
    (hasks : Positive inputs.baseOrderbook.asks) :
    (computeCandidateSize ctx inputs = ⟨(sizeComponents ctx inputs).targetQty,
        .ok (sizeComponents ctx inputs)⟩) ∨
      ((computeCandidateSize ctx inputs).targetQty = 0 ∧
        (inputs.baseOrderbook.asks = [] ∨ inputs.hedgeOrderbook.bids = [])) := by
  unfold computeCandidateSize
  split
  next bestAsk rest _ _ hbase hhedge =>
    rw [hbase] at hasks
    rw [if_neg (not_le.mpr hasks.head.1)]
    exact Or.inl rfl
  next hmissing =>
    refine Or.inr ⟨rfl, ?_⟩
    cases hbase : inputs.baseOrderbook.asks with
    | nil => exact Or.inl rfl
    | cons bestAsk rest =>
        cases hhedge : inputs.hedgeOrderbook.bids with
        | nil => exact Or.inr rfl
        | cons bestBid others => exact absurd hhedge (hmissing bestAsk rest bestBid others hbase)

/-- The size components are the constraints of the reference, each inverted. -/
theorem qualifies_iff_le_components (hasks : Positive inputs.baseOrderbook.asks) {qty : ℚ}
    (hqty : 0 < qty) :
    Qualifies inputs qty ↔ qty ≤ (sizeComponents .exact inputs).targetQty := by
  have hcap : qty ≤ depth inputs.baseOrderbook.asks → ∀ budget,
      buyCost inputs qty ≤ budget ↔
        qty ≤ maxQtyWithQuoteLimit .exact inputs.baseOrderbook.asks budget := by
    intro hdepth budget
    rw [maxQtyWithQuoteLimit_exact hasks]
    exact hasks.cost_le_iff_le_capacity hqty hdepth budget
  simp only [SizeComponents.targetQty, sizeComponents, le_min_iff, sumDepthQty_exact,
    grossBuyCostBudget_exact]
  constructor
  · intro h
    refine ⟨⟨⟨⟨⟨⟨h.asks, h.bids⟩, (hcap h.asks _).mp h.budget⟩, h.base⟩,
      (hcap h.asks _).mp h.perOrder⟩, (hcap h.asks _).mp h.perBot⟩, ?_⟩
    split
    next remaining hsome => exact (hcap h.asks _).mp (h.remaining remaining hsome)
    · exact h.asks
  · rintro ⟨⟨⟨⟨⟨⟨hdepth, hbids⟩, hbudget⟩, hbase⟩, hperOrder⟩, hperBot⟩, hremaining⟩
    refine ⟨hqty, hdepth, hbids, hbase, (hcap hdepth _).mpr hbudget,
      (hcap hdepth _).mpr hperOrder, (hcap hdepth _).mpr hperBot, ?_⟩
    intro remaining hsome
    rw [Option.mem_def] at hsome
    rw [hsome] at hremaining
    exact (hcap hdepth _).mpr hremaining

theorem qualifies_iff_le_size (hasks : Positive inputs.baseOrderbook.asks) {qty : ℚ}
    (hqty : 0 < qty) :
    Qualifies inputs qty ↔ qty ≤ (computeCandidateSize .exact inputs).targetQty := by
  rcases computeCandidateSize_cases .exact inputs hasks with hsize | ⟨hsize, hempty⟩
  · rw [hsize]
    exact qualifies_iff_le_components hasks hqty
  · rw [hsize]
    constructor
    · intro h
      rcases hempty with hnone | hnone
      · simpa [hnone] using h.asks
      · simpa [hnone] using h.bids
    · intro hle
      exact absurd hle (not_le.mpr hqty)

/-- The candidate size, cut off at zero, is the reference size. -/
theorem isReferenceSize_iff (hasks : Positive inputs.baseOrderbook.asks) (qty : ℚ) :
    IsReferenceSize inputs qty ↔ qty = max (computeCandidateSize .exact inputs).targetQty 0 := by
  rcases le_or_gt (computeCandidateSize .exact inputs).targetQty 0 with hle | hpos
  · have hnone : ∀ q, ¬ Qualifies inputs q := by
      intro q hq
      linarith [hq.pos, (qualifies_iff_le_size hasks hq.pos).mp hq]
    rw [max_eq_right hle]
    constructor
    · rintro (hgreatest | ⟨heq, -⟩)
      · exact absurd hgreatest.1 (hnone qty)
      · exact heq
    · intro heq
      exact Or.inr ⟨heq, hnone⟩
  · have hgreatest : IsGreatest (fun q => Qualifies inputs q)
        (computeCandidateSize .exact inputs).targetQty :=
      ⟨(qualifies_iff_le_size hasks hpos).mpr le_rfl,
        fun q hq => (qualifies_iff_le_size hasks (Qualifies.pos hq)).mp hq⟩
    rw [max_eq_left hpos.le]
    constructor
    · rintro (hother | ⟨-, hnone⟩)
      · exact hother.unique hgreatest
      · exact absurd hgreatest.1 (hnone _)
    · rintro rfl
      exact Or.inl hgreatest

end Size

section Edge

variable {inputs : ArbitrageInputs}

/-- At a qualifying size the simulated edge exists and carries the list-walk values. -/
theorem simulateExecutableEdge_exact (hasks : Positive inputs.baseOrderbook.asks)
    (hbids : Positive inputs.hedgeOrderbook.bids) {size : CandidateSizeResult}
    (hqualifies : Qualifies inputs size.targetQty) :
    ∃ edge, simulateExecutableEdge .exact inputs size = some edge ∧
      edge.executableBuyCostQuote = buyCost inputs size.targetQty ∧
      edge.executableProfitQuote = netProfit inputs size.targetQty ∧
      edge.executableProfitBps =
        netProfit inputs size.targetQty / buyCost inputs size.targetQty * 10000 ∧
      (edge.sellVwap - edge.buyVwap) / edge.buyVwap * 10000 = spreadBps inputs size.targetQty ∧
      edge.feeBuyQuote =
        buyCost inputs size.targetQty * inputs.riskConfig.takerFeeBpsBuy / 10000 ∧
      edge.buySlippageBufferQuote =
        buyCost inputs size.targetQty * inputs.riskConfig.slippageBufferBps / 10000 ∧
      edge.unwindBufferQuote = inputs.riskConfig.unwindBufferQuote ∧
      edge.rebalanceBufferQuote = inputs.riskConfig.rebalanceBufferQuote := by
  have hqty := hqualifies.pos
  have hne : size.targetQty ≠ 0 := hqty.ne'
  have hcost : 0 < buyCost inputs size.targetQty := hasks.cost_pos hqty hqualifies.asks
  have hprice : 0 < buyCost inputs size.targetQty / size.targetQty := div_pos hcost hqty
  have hbuy := vwap_exact hasks hqty hqualifies.asks
  have hsell := vwap_exact hbids hqty hqualifies.bids
  rw [← buyCost] at hbuy
  rw [← sellProceeds] at hsell
  simp only [simulateExecutableEdge, hbuy, hsell, not_le.mpr hqty, not_le.mpr hprice, ite_false,
    DecimalContext.exact_mul, DecimalContext.exact_sub, DecimalContext.exact_add,
    DecimalContext.exact_div, div_mul_cancel₀ _ hne, not_le.mpr hcost, Option.some.injEq,
    exists_eq_left', netProfit, spreadBps, and_self]

/-- At a qualifying size no risk cap blocks the trade. -/
theorem Qualifies.not_riskCapBlocked {qty : ℚ} (hqualifies : Qualifies inputs qty) :
    isRiskCapBlocked inputs (buyCost inputs qty) = false := by
  have hremaining := hqualifies.remaining
  simp only [isRiskCapBlocked, Bool.or_eq_false_iff, decide_eq_false_iff_not, not_lt]
  refine ⟨⟨hqualifies.perOrder, hqualifies.perBot⟩, ?_⟩
  cases hsome : inputs.runtimeState.remainingBotNotional with
  | none => rfl
  | some remaining => simpa using hremaining remaining hsome

/-- A cost within the budget leaves the quote to pay fees, slippage and buffers. -/
theorem Qualifies.quote_suffices (hasks : Positive inputs.baseOrderbook.asks) {qty : ℚ}
    (hqualifies : Qualifies inputs qty) :
    buyCost inputs qty + buyCost inputs qty * inputs.riskConfig.takerFeeBpsBuy / 10000 +
        buyCost inputs qty * inputs.riskConfig.slippageBufferBps / 10000 +
        inputs.riskConfig.unwindBufferQuote + inputs.riskConfig.rebalanceBufferQuote ≤
      inputs.baseBalance.availableQuote := by
  have hcost : 0 < buyCost inputs qty := hasks.cost_pos hqualifies.pos hqualifies.asks
  have hbudget := hqualifies.budget
  simp only [quoteBudget] at hbudget
  split at hbudget
  next hpositive =>
    rw [le_div_iff₀ hpositive.2] at hbudget
    have hsplit : buyCost inputs qty *
          (1 + inputs.riskConfig.takerFeeBpsBuy / 10000 +
            inputs.riskConfig.slippageBufferBps / 10000) =
        buyCost inputs qty + buyCost inputs qty * inputs.riskConfig.takerFeeBpsBuy / 10000 +
          buyCost inputs qty * inputs.riskConfig.slippageBufferBps / 10000 := by ring
    linarith
  next => exact absurd hcost (not_lt.mpr hbudget)

theorem Qualifies.reservationPassed (hasks : Positive inputs.baseOrderbook.asks)
    {size : CandidateSizeResult} (hqualifies : Qualifies inputs size.targetQty)
    {edge : ExecutableEdgeResult}
    (hcost : edge.executableBuyCostQuote = buyCost inputs size.targetQty)
    (hfee : edge.feeBuyQuote =
      buyCost inputs size.targetQty * inputs.riskConfig.takerFeeBpsBuy / 10000)
    (hslippage : edge.buySlippageBufferQuote =
      buyCost inputs size.targetQty * inputs.riskConfig.slippageBufferBps / 10000)
    (hunwind : edge.unwindBufferQuote = inputs.riskConfig.unwindBufferQuote)
    (hrebalance : edge.rebalanceBufferQuote = inputs.riskConfig.rebalanceBufferQuote) :
    (reserveCapacity .exact inputs size edge).reservationPassed = true := by
  have hquote := hqualifies.quote_suffices hasks
  simp [reserveCapacity, hcost, hfee, hslippage, hunwind, hrebalance, not_lt.mpr hquote,
    not_lt.mpr hqualifies.base]

end Edge

section Evaluation

variable {inputs : ArbitrageInputs}

theorem not_isDepthInsufficient_iff (hasks : Positive inputs.baseOrderbook.asks)
    (hpos : 0 < (computeCandidateSize .exact inputs).targetQty) :
    isDepthInsufficient inputs (computeCandidateSize .exact inputs) = false ↔
      MeetsDepth inputs inputs.baseOrderbook.asks ∧
        MeetsDepth inputs inputs.hedgeOrderbook.bids := by
  rcases computeCandidateSize_cases .exact inputs hasks with hsize | ⟨hsize, -⟩
  · simp only [hsize, isDepthInsufficient, CandidateSizeResult.depths, sizeComponents,
      sumDepthNotional_exact, MeetsDepth, Bool.or_eq_false_iff, decide_eq_false_iff_not, not_lt]
    tauto
  · rw [hsize] at hpos
    exact absurd hpos (lt_irrefl 0)

/-- An accepted evaluation passed every stage; its plan has the candidate size. -/
theorem evaluateArbitrage_accepted_iff (ctx : DecimalContext) (inputs : ArbitrageInputs) :
    (evaluateArbitrage ctx inputs).accepted = true ↔
      (validateGateConditions inputs).2 = none ∧
      0 < (computeCandidateSize ctx inputs).targetQty ∧
      isDepthInsufficient inputs (computeCandidateSize ctx inputs) = false ∧
      ∃ edge, simulateExecutableEdge ctx inputs (computeCandidateSize ctx inputs) = some edge ∧
        inputs.riskConfig.minProfitQuote ≤ edge.executableProfitQuote ∧
        inputs.riskConfig.minProfitBps ≤ edge.executableProfitBps ∧
        isRiskCapBlocked inputs edge.executableBuyCostQuote = false ∧
        ctx.mul (ctx.div (ctx.sub edge.sellVwap edge.buyVwap) edge.buyVwap) 10000 ≤
          inputs.riskConfig.maxSpreadBps ∧
        (reserveCapacity ctx inputs (computeCandidateSize ctx inputs) edge).reservationPassed =
          true := by
  simp only [evaluateArbitrage]
  cases hgate : (validateGateConditions inputs).2 with
  | some reason => simp [buildRejectDecision]
  | none =>
      rcases le_or_gt (computeCandidateSize ctx inputs).targetQty 0 with hsize | hsize
      · simp [hsize, buildRejectDecision, not_lt.mpr hsize]
      cases hdepth : isDepthInsufficient inputs (computeCandidateSize ctx inputs) with
      | true => simp [hsize, not_le.mpr hsize, buildRejectDecision]
      | false =>
          cases hedge : simulateExecutableEdge ctx inputs (computeCandidateSize ctx inputs) with
          | none => simp [hsize, not_le.mpr hsize, buildRejectDecision]
          | some edge =>
              simp only [not_le.mpr hsize, ite_false, Bool.false_eq_true, hsize, true_and,
                Option.some.injEq, exists_eq_left']
              split
              next hlow => simp [buildRejectDecision, not_le.mpr hlow]
              next hprofit =>
                split
                next hlow => simp [buildRejectDecision, not_le.mpr hlow]
                next hbps =>
                  split
                  next hblocked => simp [buildRejectDecision, hblocked]
                  next hcaps =>
                    split
                    next hwide => simp [buildRejectDecision, not_le.mpr hwide]
                    next hspread =>
                      split
                      next hreserved =>
                        simp [buildAcceptDecision, not_lt.mp hprofit, not_lt.mp hbps, hcaps,
                          not_lt.mp hspread, hreserved]
                      next hfailed => simp [buildRejectDecision, hfailed]

theorem evaluateArbitrage_targetQty (ctx : DecimalContext) (inputs : ArbitrageInputs)
    (haccepted : (evaluateArbitrage ctx inputs).accepted = true) :
    (evaluateArbitrage ctx inputs).targetQty =
      some (computeCandidateSize ctx inputs).targetQty := by
  obtain ⟨hgate, hsize, hdepth, edge, hedge, hprofit, hbps, hcaps, hspread, hreserved⟩ :=
    (evaluateArbitrage_accepted_iff ctx inputs).mp haccepted
  simp only [evaluateArbitrage, hgate, not_le.mpr hsize, hdepth, hedge, not_lt.mpr hprofit,
    not_lt.mpr hbps, hcaps, not_lt.mpr hspread, hreserved, ite_false, ite_true,
    Bool.false_eq_true]
  rfl

/-- The evaluation is its reference: it accepts exactly when the reference
accepts at the reference size, and then trades that size. -/
theorem evaluateArbitrage_eq_reference (inputs : ArbitrageInputs)
    (hasks : Positive inputs.baseOrderbook.asks) (hbids : Positive inputs.hedgeOrderbook.bids) :
    ∃ qty, (∀ q, IsReferenceSize inputs q ↔ q = qty) ∧
      ((evaluateArbitrage .exact inputs).accepted = true ↔ ReferenceAccepts inputs qty) ∧
      ((evaluateArbitrage .exact inputs).accepted = true →
        (evaluateArbitrage .exact inputs).targetQty = some qty) := by
  refine ⟨_, isReferenceSize_iff hasks, ?_, ?_⟩
  · rw [evaluateArbitrage_accepted_iff, validateGateConditions_reason_eq_none]
    constructor
    · rintro ⟨hgate, hpos, hdepth, edge, hedge, hprofit, hbps, -, hspread, -⟩
      have hqualifies := (qualifies_iff_le_size hasks hpos).mpr le_rfl
      obtain ⟨other, hother, -, hnet, hnetBps, hspreads, -⟩ :=
        simulateExecutableEdge_exact hasks hbids hqualifies
      obtain rfl : edge = other := Option.some.inj (hedge.symm.trans hother)
      obtain ⟨hmeetsAsks, hmeetsBids⟩ := (not_isDepthInsufficient_iff hasks hpos).mp hdepth
      rw [max_eq_left hpos.le]
      exact ⟨hgate, hmeetsAsks, hmeetsBids, hpos, hnet ▸ hprofit, hnetBps ▸ hbps,
        hspreads ▸ hspread⟩
    · intro h
      have hpos : 0 < (computeCandidateSize .exact inputs).targetQty := by
        simpa using h.pos
      rw [max_eq_left hpos.le] at h
      have hqualifies := (qualifies_iff_le_size hasks hpos).mpr le_rfl
      obtain ⟨edge, hedge, hcost, hnet, hnetBps, hspreads, hfee, hslippage, hunwind,
        hrebalance⟩ := simulateExecutableEdge_exact hasks hbids hqualifies
      refine ⟨h.gate, hpos, (not_isDepthInsufficient_iff hasks hpos).mpr ⟨h.asks, h.bids⟩,
        edge, hedge, hnet ▸ h.profit, hnetBps ▸ h.profitBps, ?_, ?_, ?_⟩
      · rw [hcost]
        exact hqualifies.not_riskCapBlocked
      · simpa only [DecimalContext.exact_mul, DecimalContext.exact_div, DecimalContext.exact_sub,
          hspreads] using h.spread
      · exact hqualifies.reservationPassed hasks hcost hfee hslippage hunwind hrebalance
  · intro haccepted
    have hpos := ((evaluateArbitrage_accepted_iff _ inputs).mp haccepted).2.1
    rw [evaluateArbitrage_targetQty _ _ haccepted, max_eq_left hpos.le]

/-- One ask at 100 and one bid at 110, with ample balances and limits. -/
def crossedBooks : ArbitrageInputs where
  botId := "bot"
  strategyRunId := "run"
  canonicalSymbol := "XRP-KRW"
  market := "KRW-XRP"
  baseExchange := "upbit"
  hedgeExchange := "bithumb"
  baseOrderbook := ⟨"upbit", "KRW-XRP", 0, [⟨100, 2⟩], [], true⟩
  hedgeOrderbook := ⟨"bithumb", "KRW-XRP", 0, [], [⟨110, 3⟩], true⟩
  baseBalance := ⟨"upbit", "XRP", "KRW", 0, 1000, 0, true⟩
  hedgeBalance := ⟨"bithumb", "XRP", "KRW", 5, 0, 0, true⟩
  riskConfig :=
    { minProfitQuote := 1, minProfitBps := 1, maxClockSkewMs := 1, maxOrderbookAgeMs := 1,
      maxBalanceAgeMs := 1, maxNotionalPerOrder := 500, maxTotalNotionalPerBot := 500,
      maxSpreadBps := 2000 }
  runtimeState := { now := 0 }

/-- On crossed books the reference accepts, and the evaluation with it. -/
theorem evaluateArbitrage_crossedBooks :
    (evaluateArbitrage .exact crossedBooks).accepted = true ∧
      ∃ qty, (∀ q, IsReferenceSize crossedBooks q ↔ q = qty) ∧
        ((evaluateArbitrage .exact crossedBooks).accepted = true ↔
          ReferenceAccepts crossedBooks qty) ∧
        ((evaluateArbitrage .exact crossedBooks).accepted = true →
          (evaluateArbitrage .exact crossedBooks).targetQty = some qty) :=
  ⟨by decide +kernel,
    evaluateArbitrage_eq_reference crossedBooks (by simp [Positive, crossedBooks])
      (by simp [Positive, crossedBooks])⟩

end Evaluation

end TradingPlatform.Strategy

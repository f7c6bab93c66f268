import TradingPlatform.Strategy.Precedence
import TradingPlatform.Strategy.RoundedSizing

/-! # What a sized order may cost beyond its limits

An order is sized from the caps and the balances, and then priced and checked against
them. In decimal arithmetic the two directions round apart: the cost may exceed the
limit it was sized from, by the drift of the roundings made on the way.
-/

namespace TradingPlatform.Strategy

open PriceLadder

/-- The caps on what an order may cost. -/
def notionalCaps (inputs : ArbitrageInputs) : List ℚ :=
  [inputs.riskConfig.maxNotionalPerOrder, inputs.riskConfig.maxTotalNotionalPerBot] ++
    inputs.runtimeState.remainingBotNotional.toList

theorem isRiskCapBlocked_iff {inputs : ArbitrageInputs} {notional : ℚ} :
    isRiskCapBlocked inputs notional = true ↔ ∃ cap ∈ notionalCaps inputs, cap < notional := by
  cases hremaining : inputs.runtimeState.remainingBotNotional <;>
    simp [isRiskCapBlocked, notionalCaps, hremaining, or_assoc]

section Legs

variable {ctx : DecimalContext} {inputs : ArbitrageInputs} {size : CandidateSizeResult}
  {edge : ExecutableEdgeResult}

theorem SizeComponents.targetQty_le (c : SizeComponents) :
    (c.targetQty ≤ c.buyQuoteAvailableQty ∧ c.targetQty ≤ c.sellBaseAvailableQty) ∧
      c.targetQty ≤ c.maxNotionalPerOrderQty ∧ c.targetQty ≤ c.maxTotalNotionalPerBotQty ∧
      c.targetQty ≤ c.remainingBotNotionalQty := by
  simp only [SizeComponents.targetQty, min_le_iff, le_refl, or_true, true_or, and_self]

/-- The size is within what the budget, the base balance and each cap allow. -/
theorem targetQty_le_components (hasks : Positive inputs.baseOrderbook.asks)
    (hqty : 0 < (computeCandidateSize ctx inputs).targetQty) :
    (computeCandidateSize ctx inputs).targetQty ≤ maxQtyWithQuoteLimit ctx
        inputs.baseOrderbook.asks (grossBuyCostBudgetForQuoteRequirement ctx inputs) ∧
      (computeCandidateSize ctx inputs).targetQty ≤ inputs.hedgeBalance.availableBase ∧
      ∀ cap ∈ notionalCaps inputs, (computeCandidateSize ctx inputs).targetQty ≤
        maxQtyWithQuoteLimit ctx inputs.baseOrderbook.asks cap := by
  rcases computeCandidateSize_cases ctx inputs hasks with hsize | ⟨hsize, -⟩
  · rw [hsize]
    obtain ⟨⟨hbudget, hbase⟩, hperOrder, hperBot, hremaining⟩ :=
      (sizeComponents ctx inputs).targetQty_le
    refine ⟨hbudget, hbase, fun cap hcap => ?_⟩
    simp only [notionalCaps, List.cons_append, List.nil_append, List.mem_cons,
      Option.mem_toList] at hcap
    rcases hcap with rfl | rfl | hcap
    · exact hperOrder
    · exact hperBot
    · have hcomponent : (sizeComponents ctx inputs).remainingBotNotionalQty =
          maxQtyWithQuoteLimit ctx inputs.baseOrderbook.asks cap := by
        simp only [sizeComponents, hcap]
      rwa [hcomponent] at hremaining
  · exact absurd hqty (hsize.symm ▸ lt_irrefl 0)

/-- What the priced buy leg of an order consists of. -/
structure BuyLeg (ctx : DecimalContext) (inputs : ArbitrageInputs) (qty : ℚ)
    (edge : ExecutableEdgeResult) : Prop where
  qty_pos : 0 < qty
  cost_pos : 0 < edge.executableBuyCostQuote
  priced : ∃ price, vwap ctx inputs.baseOrderbook.asks qty = some price ∧
    edge.executableBuyCostQuote = ctx.mul price qty
  fee : edge.feeBuyQuote =
    ctx.div (ctx.mul edge.executableBuyCostQuote inputs.riskConfig.takerFeeBpsBuy) 10000
  slippage : edge.buySlippageBufferQuote =
    ctx.div (ctx.mul edge.executableBuyCostQuote inputs.riskConfig.slippageBufferBps) 10000
  unwind : edge.unwindBufferQuote = inputs.riskConfig.unwindBufferQuote
  rebalance : edge.rebalanceBufferQuote = inputs.riskConfig.rebalanceBufferQuote

theorem buyLeg_of_edge (hedge : simulateExecutableEdge ctx inputs size = some edge) :
    BuyLeg ctx inputs size.targetQty edge := by
  simp only [simulateExecutableEdge] at hedge
  split at hedge
  next => cases hedge
  next hqty =>
    split at hedge
    next buyVwap sellVwap hbuy hsell =>
      split at hedge
      next => cases hedge
      next hprice =>
        split at hedge
        next => cases hedge
        next hcost =>
          cases hedge
          exact ⟨not_le.mp hqty, not_le.mp hcost, ⟨buyVwap, hbuy, rfl⟩, rfl, rfl, rfl, rfl⟩
    next => cases hedge

end Legs

section Requirements

variable {u : ℚ} {rd : ℚ → ℚ} {required available fixed fixed' multiplier multiplier' : ℚ}
  {cost worth weight buffers : ℚ} {roundings : ℕ}

/-- The requirement of a cost that was sized from what is available, less the fixed
buffers, over the multiplier. Where more is available than the cost amounts to, the
requirement has only its own drift. -/
theorem required_le (hround : RoundsWithin u rd)
    (hrequired : DriftsFrom u 6 required (cost * multiplier + fixed) (cost * weight + buffers))
    (hfixed : DriftsFrom u 1 fixed' fixed buffers)
    (hmultiplier : DriftsFrom u 3 multiplier' multiplier weight)
    (hleft : 0 < available - fixed') (hpositive : 0 < multiplier') (hcost : 0 ≤ cost)
    (hworth : cost ≤ (1 + u) ^ roundings * worth)
    (hbudget : cost ≤ rd (rd (available - fixed') / multiplier') +
      2 * drift u roundings * worth) :
    required ≤ available + 5 * drift u (roundings + 6) * (worth * weight + buffers) := by
  have hbuffers := hfixed.weight_nonneg
  have hweight := hmultiplier.weight_nonneg
  have hpow : 0 < (1 + u) ^ roundings := lt_of_lt_of_le zero_lt_one (hround.one_le_pow _)
  have hnonneg : 0 ≤ worth := nonneg_of_mul_nonneg_right (hcost.trans hworth) hpow
  have hproduct := mul_nonneg hnonneg hweight
  have hcharged := mul_le_mul_of_nonneg_right hworth hweight
  have hdrift := hround.drift_nonneg (roundings + 6)
  have htotal := mul_nonneg hdrift (add_nonneg hproduct hbuffers)
  rcases le_total (worth * weight + buffers) available with hample | htight
  · -- the exact cost is covered, so only the roundings of the sum itself count
    have hown := (le_abs_self required).trans hrequired.abs_computed_le
    have hcosted := mul_le_mul_of_nonneg_left hcharged (hround.pow_nonneg 6)
    have hbuffered := hround.pow_mul_mono (by omega : 6 ≤ roundings + 6) hbuffers
    have hgrown := pow_mul_eq_drift u (roundings + 6) (worth * weight + buffers)
    have hjoined : (1 + u) ^ 6 * ((1 + u) ^ roundings * worth * weight) =
        (1 + u) ^ (roundings + 6) * (worth * weight) := by ring
    linarith
  · -- The cost is within the budget, so the drifts of the budget count as well.
    have hraised := hround.drift_mono (by omega : 6 ≤ roundings + 6)
    have hbudgetRoom : 0 ≤ rd (available - fixed') / multiplier' :=
      div_nonneg (hround.round_nonneg hleft.le) hpositive.le
    have hpaid : rd (rd (available - fixed') / multiplier') * multiplier' ≤
        (1 + u) ^ 2 * (available - fixed') := by
      have hquotient := mul_le_mul_of_nonneg_right (hround.round_le hbudgetRoom) hpositive.le
      rw [mul_assoc, div_mul_cancel₀ _ hpositive.ne'] at hquotient
      have hsubtracted := hround.pow_mul_round_le 1 hleft.le
      rw [pow_one] at hsubtracted
      exact hquotient.trans hsubtracted
    have hmultiplierAbove : multiplier' ≤ (1 + u) ^ 3 * weight :=
      (le_abs_self _).trans hmultiplier.abs_computed_le
    have hcostBudget : cost * multiplier' ≤ (1 + u) ^ 2 * (available - fixed') +
        2 * drift u (roundings + 3) * (worth * weight) := by
      have hscaled := mul_le_mul_of_nonneg_right hbudget hpositive.le
      have hover := mul_le_mul_of_nonneg_left hmultiplierAbove
        (mul_nonneg (hround.drift_nonneg roundings) hnonneg)
      have hdrifted := mul_le_mul_of_nonneg_right (hround.pow_mul_drift_le 3 roundings) hproduct
      rw [add_comm 3 roundings] at hdrifted
      linarith
    have hcostMultiplier : cost * multiplier ≤
        cost * multiplier' + drift u (roundings + 3) * (worth * weight) := by
      have hbelow := mul_le_mul_of_nonneg_left hmultiplier.sub_le hcost
      have hcostly := mul_le_mul_of_nonneg_left hcharged (hround.drift_nonneg 3)
      have hdrifted := mul_le_mul_of_nonneg_right (hround.pow_mul_drift_le roundings 3) hproduct
      linarith
    have hownDrift : drift u 6 * (cost * weight) ≤
        drift u (roundings + 6) * (worth * weight) := by
      have hcostly := mul_le_mul_of_nonneg_left hcharged (hround.drift_nonneg 6)
      have hdrifted := mul_le_mul_of_nonneg_right (hround.pow_mul_drift_le roundings 6) hproduct
      linarith
    have hroom : drift u 2 * (available - fixed') ≤
        drift u (roundings + 6) * (worth * weight + buffers) +
          drift u (roundings + 6) * buffers := by
      have hfixedBelow := (neg_le_abs fixed').trans hfixed.abs_computed_le
      have hspan : available - fixed' ≤
          (worth * weight + buffers) + (1 + u) ^ 1 * buffers := by linarith
      have hspanned := mul_le_mul_of_nonneg_left hspan (hround.drift_nonneg 2)
      have hgrown := mul_le_mul_of_nonneg_right (hround.pow_mul_drift_le 1 2) hbuffers
      have htwo := mul_le_mul_of_nonneg_right
        (hround.drift_mono (by omega : 2 ≤ roundings + 6)) (add_nonneg hproduct hbuffers)
      have hthree := mul_le_mul_of_nonneg_right
        (hround.drift_mono (by omega : 3 ≤ roundings + 6)) hbuffers
      linarith
    have hthree := mul_le_mul_of_nonneg_right
      (hround.drift_mono (by omega : roundings + 3 ≤ roundings + 6)) hproduct
    have hone := mul_le_mul_of_nonneg_right
      (hround.drift_mono (by omega : 1 ≤ roundings + 6)) hbuffers
    have hsix := mul_le_mul_of_nonneg_right hraised hbuffers
    have hsplit := pow_mul_eq_drift u 2 (available - fixed')
    linarith [hrequired.le_add, hfixed.sub_le, mul_nonneg hdrift hproduct,
      mul_nonneg hdrift hbuffers]

end Requirements

section Tolerances

variable (u : ℚ) (inputs : ArbitrageInputs) (qty : ℚ)

/-- What a quantity amounts to at the dearest ask. -/
def dearestCost : ℚ := qty * topPrice inputs.baseOrderbook.asks

/-- What a quantity's quote requirement amounts to when no part of it cancels another. -/
def quoteWeight : ℚ :=
  dearestCost inputs qty *
      (1 + |inputs.riskConfig.takerFeeBpsBuy / 10000| +
        |inputs.riskConfig.slippageBufferBps / 10000|) +
    (|inputs.riskConfig.unwindBufferQuote| + |inputs.riskConfig.rebalanceBufferQuote|)

/-- By how much a cost may exceed a cap it was sized from. -/
def capTolerance : ℚ :=
  2 * drift u (2 * inputs.baseOrderbook.asks.length + 3) * dearestCost inputs qty

/-- By how much a quote requirement may exceed the balance it was sized from. -/
def quoteTolerance : ℚ :=
  5 * drift u (2 * inputs.baseOrderbook.asks.length + 9) * quoteWeight inputs qty

end Tolerances

section Sized

variable {ctx : DecimalContext} {u : ℚ} {inputs : ArbitrageInputs} {size : CandidateSizeResult}
  {edge : ExecutableEdgeResult}

theorem BuyLeg.cost_le_cap (hround : RoundsWithin u ctx.round)
    (hasks : Positive inputs.baseOrderbook.asks) {qty limit : ℚ}
    (hleg : BuyLeg ctx inputs qty edge)
    (hsize : qty ≤ maxQtyWithQuoteLimit ctx inputs.baseOrderbook.asks limit) :
    edge.executableBuyCostQuote ≤ limit + capTolerance u inputs qty := by
  obtain ⟨price, hvwap, hcost⟩ := hleg.priced
  rw [hcost]
  exact repriced_le_limit hround hasks hleg.qty_pos hsize hvwap

/-- The quote requirement, term by term. -/
theorem BuyLeg.quoteRequired_drifts (hround : RoundsWithin u ctx.round)
    (hleg : BuyLeg ctx inputs size.targetQty edge) :
    DriftsFrom u 6 (reserveCapacity ctx inputs size edge).quoteRequired
      (edge.executableBuyCostQuote * (1 + inputs.riskConfig.takerFeeBpsBuy / 10000 +
          inputs.riskConfig.slippageBufferBps / 10000) +
        (inputs.riskConfig.unwindBufferQuote + inputs.riskConfig.rebalanceBufferQuote))
      (edge.executableBuyCostQuote * (1 + |inputs.riskConfig.takerFeeBpsBuy / 10000| +
          |inputs.riskConfig.slippageBufferBps / 10000|) +
        (|inputs.riskConfig.unwindBufferQuote| + |inputs.riskConfig.rebalanceBufferQuote|)) := by
  have hcost := DriftsFrom.refl u edge.executableBuyCostQuote
  have hexact (buffer : ℚ) (k : ℕ) := (DriftsFrom.refl u buffer).mono hround (Nat.zero_le k)
  have hshare (bps : ℚ) : DriftsFrom u 2
      (ctx.div (ctx.mul edge.executableBuyCostQuote bps) 10000)
      (edge.executableBuyCostQuote * bps / 10000)
      (|edge.executableBuyCostQuote| * |bps| / |10000|) :=
    (((hcost.mul_right bps).rounded hround).div_right 10000).rounded hround
  have hfee := ((hexact edge.executableBuyCostQuote 2).add
    (hshare inputs.riskConfig.takerFeeBpsBuy)).rounded hround
  have hslippage := (hfee.add ((hshare inputs.riskConfig.slippageBufferBps).mono hround
    (by omega : 2 ≤ 3))).rounded hround
  have hunwind := (hslippage.add (hexact inputs.riskConfig.unwindBufferQuote 4)).rounded hround
  have hrebalance :=
    (hunwind.add (hexact inputs.riskConfig.rebalanceBufferQuote 5)).rounded hround
  have hpositive := abs_of_pos hleg.cost_pos
  convert hrebalance using 1
  · rw [reserveCapacity, hleg.fee, hleg.slippage, hleg.unwind, hleg.rebalance]
    rfl
  · ring
  · rw [hpositive, abs_div, abs_div]
    ring

/-- The quote requirement of an order sized from the budget of the quote balance. -/
theorem BuyLeg.quoteRequired_le (hround : RoundsWithin u ctx.round)
    (hasks : Positive inputs.baseOrderbook.asks)
    (hleg : BuyLeg ctx inputs size.targetQty edge)
    (hsize : size.targetQty ≤ maxQtyWithQuoteLimit ctx inputs.baseOrderbook.asks
      (grossBuyCostBudgetForQuoteRequirement ctx inputs)) :
    (reserveCapacity ctx inputs size edge).quoteRequired ≤
      inputs.baseBalance.availableQuote + quoteTolerance u inputs size.targetQty := by
  have hwithin := hleg.cost_le_cap hround hasks hsize
  have hworth : edge.executableBuyCostQuote ≤
      (1 + u) ^ (2 * inputs.baseOrderbook.asks.length + 3) *
        dearestCost inputs size.targetQty := by
    obtain ⟨price, hvwap, hcost⟩ := hleg.priced
    rw [hcost]
    exact repriced_le_topPrice hround hasks hleg.qty_pos hvwap
  have hfixed := ((DriftsFrom.refl u inputs.riskConfig.unwindBufferQuote).add
    (DriftsFrom.refl u inputs.riskConfig.rebalanceBufferQuote)).rounded hround
  have hshare (bps : ℚ) := ((DriftsFrom.refl u (bps / 10000)).rounded hround)
  have hone := (DriftsFrom.refl u (1 : ℚ)).mono hround (by omega : 0 ≤ 1)
  have hmultiplier := (((hone.add (hshare inputs.riskConfig.takerFeeBpsBuy)).rounded hround).add
    ((hshare inputs.riskConfig.slippageBufferBps).mono hround (by omega : 0 + 1 ≤ 2))).rounded
      hround
  rw [abs_one] at hmultiplier
  rw [grossBuyCostBudgetForQuoteRequirement] at hsize hwithin
  dsimp only at hsize hwithin
  split at hsize
  next =>
    rw [maxQtyWithQuoteLimit, if_pos le_rfl] at hsize
    exact absurd hleg.qty_pos (not_lt.mpr hsize)
  next hleft =>
    split at hsize
    next =>
      rw [maxQtyWithQuoteLimit, if_pos le_rfl] at hsize
      exact absurd hleg.qty_pos (not_lt.mpr hsize)
    next hpositive =>
      rw [if_neg hleft, if_neg hpositive] at hwithin
      exact required_le hround (hleg.quoteRequired_drifts hround) hfixed hmultiplier
        (hround.round_pos_iff.mp (not_le.mp hleft)) (not_le.mp hpositive) hleg.cost_pos.le
        hworth hwithin

end Sized

section Evaluation

variable {inputs : ArbitrageInputs}

/-- Half a unit of the last of the 28 digits, in parts of a number. -/
def halfUlp : ℚ := 5 / 10 ^ 28

theorem default_roundsWithin : RoundsWithin halfUlp DecimalContext.default.round :=
  roundsWithin_roundSignificant (by norm_num)

/-- An order costs at most what it was sized from, within the tolerances, and is rejected
for a cap or a balance only within them. -/
structure SizedWithinTolerances (inputs : ArbitrageInputs) : Prop where
  caps : ∀ edge, sizedEdge .default inputs = some edge → ∀ cap ∈ notionalCaps inputs,
    edge.executableBuyCostQuote ≤
      cap + capTolerance halfUlp inputs (computeCandidateSize .default inputs).targetQty
  quote : ∀ edge, sizedEdge .default inputs = some edge →
    (reserveCapacity .default inputs (computeCandidateSize .default inputs) edge).quoteRequired ≤
      inputs.baseBalance.availableQuote +
        quoteTolerance halfUlp inputs (computeCandidateSize .default inputs).targetQty
  base : ∀ edge, sizedEdge .default inputs = some edge →
    (reserveCapacity .default inputs (computeCandidateSize .default inputs) edge).baseRequired ≤
      inputs.hedgeBalance.availableBase
  capRejection : (validateGateConditions inputs).2 = none →
    (evaluateArbitrage .default inputs).reasonCode = .riskLimitBlocked →
    ∃ edge, sizedEdge .default inputs = some edge ∧
      (inputs.riskConfig.maxSpreadBps < DecimalContext.default.mul (DecimalContext.default.div
          (DecimalContext.default.sub edge.sellVwap edge.buyVwap) edge.buyVwap) 10000 ∨
        ∃ cap ∈ notionalCaps inputs, edge.executableBuyCostQuote ∈ Set.Ioc cap
          (cap + capTolerance halfUlp inputs (computeCandidateSize .default inputs).targetQty))
  reservationRejection : (validateGateConditions inputs).2 = none →
    (evaluateArbitrage .default inputs).reasonCode = .reservationFailed →
    ∃ edge, sizedEdge .default inputs = some edge ∧
      (reserveCapacity .default inputs (computeCandidateSize .default inputs) edge).quoteRequired ∈
        Set.Ioc inputs.baseBalance.availableQuote (inputs.baseBalance.availableQuote +
          quoteTolerance halfUlp inputs (computeCandidateSize .default inputs).targetQty)

/-- What a rejection of a sized order for a limit or a reservation rests on. -/
theorem sizedEdge_of_rejected (ctx : DecimalContext)
    (hgate : (validateGateConditions inputs).2 = none) :
    ((evaluateArbitrage ctx inputs).reasonCode = .riskLimitBlocked →
      ∃ edge, sizedEdge ctx inputs = some edge ∧ edgeOverLimits ctx inputs edge = true) ∧
    ((evaluateArbitrage ctx inputs).reasonCode = .reservationFailed →
      ∃ edge, sizedEdge ctx inputs = some edge ∧
        (reserveCapacity ctx inputs (computeCandidateSize ctx inputs) edge).reservationPassed =
          false) := by
  have houtcome : (evaluateArbitrage ctx inputs).reasonCode = (sizedOutcome ctx inputs).2 := by
    have hpair := evaluateArbitrage_outcome ctx inputs
    rw [hgate, Option.elim_none] at hpair
    exact congrArg Prod.snd hpair
  rw [houtcome, sizedOutcome]
  split
  · constructor <;> intro h <;> cases h
  split
  · constructor <;> intro h <;> cases h
  split
  next hlimits =>
    refine ⟨fun _ => ?_, fun h => absurd h (by decide)⟩
    obtain ⟨edge, hedge, hover⟩ := (Option.any_eq_true _ _).mp hlimits
    exact ⟨edge, hedge, hover⟩
  split
  next hreservation =>
    refine ⟨fun h => absurd h (by decide), fun _ => ?_⟩
    obtain ⟨edge, hedge, hfailed⟩ := (Option.any_eq_true _ _).mp hreservation
    exact ⟨edge, hedge, by simpa using hfailed⟩
  · constructor <;> intro h <;> cases h

theorem evaluateArbitrage_withinTolerances (hasks : Positive inputs.baseOrderbook.asks) :
    SizedWithinTolerances inputs := by
  have hleg {edge : ExecutableEdgeResult} (hedge : sizedEdge .default inputs = some edge) :=
    buyLeg_of_edge hedge
  have hcaps : ∀ edge, sizedEdge .default inputs = some edge → ∀ cap ∈ notionalCaps inputs,
      edge.executableBuyCostQuote ≤
        cap + capTolerance halfUlp inputs (computeCandidateSize .default inputs).targetQty := by
    intro edge hedge cap hcap
    exact (hleg hedge).cost_le_cap default_roundsWithin hasks
      ((targetQty_le_components hasks (hleg hedge).qty_pos).2.2 cap hcap)
  have hquote {edge : ExecutableEdgeResult} (hedge : sizedEdge .default inputs = some edge) :=
    (hleg hedge).quoteRequired_le default_roundsWithin hasks
      (targetQty_le_components hasks (hleg hedge).qty_pos).1
  have hbase {edge : ExecutableEdgeResult} (hedge : sizedEdge .default inputs = some edge) :=
    (targetQty_le_components hasks (hleg hedge).qty_pos).2.1
  refine ⟨hcaps, fun edge hedge => hquote hedge, fun edge hedge => hbase hedge, ?_, ?_⟩
  · intro hgate hreason
    obtain ⟨edge, hedge, hover⟩ := (sizedEdge_of_rejected .default hgate).1 hreason
    refine ⟨edge, hedge, ?_⟩
    rw [edgeOverLimits, Bool.or_eq_true, decide_eq_true_eq, isRiskCapBlocked_iff] at hover
    rcases hover with ⟨cap, hcap, hexceeds⟩ | hspread
    · exact .inr ⟨cap, hcap, hexceeds, hcaps edge hedge cap hcap⟩
    · exact .inl hspread
  · intro hgate hreason
    obtain ⟨edge, hedge, hfailed⟩ := (sizedEdge_of_rejected .default hgate).2 hreason
    refine ⟨edge, hedge, ?_, hquote hedge⟩
    by_contra hcovered
    rw [reserveCapacity] at hfailed hcovered
    simp [hcovered, not_lt.mpr (hbase hedge)] at hfailed

end Evaluation

section Examples

/-- One ask at 7 and one bid at 8, with the quote and the cap of an order given. -/
def sevens (availableQuote maxNotionalPerOrder : ℚ) : ArbitrageInputs :=
  { crossedBooks with
    baseOrderbook := { crossedBooks.baseOrderbook with asks := [⟨7, 200⟩] }
    hedgeOrderbook := { crossedBooks.hedgeOrderbook with bids := [⟨8, 300⟩] }
    baseBalance := { crossedBooks.baseBalance with availableQuote := availableQuote }
    hedgeBalance := { crossedBooks.hedgeBalance with availableBase := 500 }
    riskConfig := { crossedBooks.riskConfig with
      maxNotionalPerOrder := maxNotionalPerOrder, maxTotalNotionalPerBot := 10000 } }

/-- What is evaluated down to its caps and its reservation. -/
structure Profitable (inputs : ArbitrageInputs) : Prop where
  asks : Positive inputs.baseOrderbook.asks
  bids : Positive inputs.hedgeOrderbook.bids
  gate : (validateGateConditions inputs).2 = none
  depth : fails .default inputs .depthInsufficient = false
  profit : ∃ edge, sizedEdge .default inputs = some edge ∧ belowThreshold inputs edge = false

theorem profitable_of_any {inputs : ArbitrageInputs}
    (hasks : Positive inputs.baseOrderbook.asks) (hbids : Positive inputs.hedgeOrderbook.bids)
    (hgate : (validateGateConditions inputs).2 = none)
    (hdepth : fails .default inputs .depthInsufficient = false)
    (hprofit : (sizedEdge .default inputs).any (fun edge => !belowThreshold inputs edge) = true) :
    Profitable inputs := by
  obtain ⟨edge, hedge, habove⟩ := (Option.any_eq_true _ _).mp hprofit
  exact ⟨hasks, hbids, hgate, hdepth, edge, hedge, by simpa using habove⟩

/-- A seventh of 900 rounds up: bought with all the quote it costs more than the quote, and
bought up to a cap more than the cap. -/
theorem not_profitable_accepted :
    ¬ (∀ inputs, Profitable inputs →
      (evaluateArbitrage .default inputs).reasonCode ≠ .reservationFailed) ∧
    ¬ (∀ inputs, Profitable inputs → ∀ edge, sizedEdge .default inputs = some edge →
      isRiskCapBlocked inputs edge.executableBuyCostQuote = false) := by
  constructor
  · intro hnever
    exact hnever (sevens 900 10000)
      (profitable_of_any (by simp [Positive, sevens]) (by simp [Positive, sevens])
        (by decide +kernel) (by decide +kernel) (by decide +kernel)) (by decide +kernel)
  · intro hnever
    have hblocked : (sizedEdge .default (sevens 10000 900)).any
        (fun edge => isRiskCapBlocked (sevens 10000 900) edge.executableBuyCostQuote) = true := by
      decide +kernel
    obtain ⟨edge, hedge, hover⟩ := (Option.any_eq_true _ _).mp hblocked
    have hclear := hnever (sevens 10000 900)
      (profitable_of_any (by simp [Positive, sevens]) (by simp [Positive, sevens])
        (by decide +kernel) (by decide +kernel) (by decide +kernel)) edge hedge
    rw [hclear] at hover
    cases hover

/-- The reservation fails within the tolerance. -/
theorem evaluateArbitrage_withinTolerances_sevens :
    (evaluateArbitrage .default (sevens 900 10000)).reasonCode = .reservationFailed ∧
      SizedWithinTolerances (sevens 900 10000) :=
  ⟨by decide +kernel, evaluateArbitrage_withinTolerances (by simp [Positive, sevens])⟩

end Examples

end TradingPlatform.Strategy

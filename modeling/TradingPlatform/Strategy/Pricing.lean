import TradingPlatform.Strategy.Models

/-! # Candidate size and executable edge

The sizing and pricing code, in an arithmetic context. In the exact context
the loops are the walks of the price ladder.
-/

namespace TradingPlatform.Strategy

open PriceLadder

section Code

variable (ctx : DecimalContext)

def sumDepthQty (levels : List OrderbookLevel) : ℚ := ctx.sum (levels.map Rung.quantity)

def sumDepthNotional (levels : List OrderbookLevel) : ℚ :=
  ctx.sum (levels.map fun level => ctx.mul level.price level.quantity)

/-- The walk of `vwap`: what is left to take and the notional so far. -/
def vwapLoop : List OrderbookLevel → ℚ → ℚ → ℚ × ℚ
  | [], remaining, totalNotional => (remaining, totalNotional)
  | level :: rest, remaining, totalNotional =>
      let takeQty := min level.quantity remaining
      let totalNotional := ctx.add totalNotional (ctx.mul takeQty level.price)
      let remaining := ctx.sub remaining takeQty
      if remaining ≤ 0 then (remaining, totalNotional)
      else vwapLoop rest remaining totalNotional

def vwap (levels : List OrderbookLevel) (targetQty : ℚ) : Option ℚ :=
  let (remaining, totalNotional) := vwapLoop ctx levels targetQty 0
  if 0 < remaining then none else some (ctx.div totalNotional targetQty)

/-- The walk of `maxQtyWithQuoteLimit`; levels that are not positive are skipped. -/
def maxQtyLoop : List OrderbookLevel → ℚ → ℚ → ℚ
  | [], _, totalQty => totalQty
  | level :: rest, remainingQuote, totalQty =>
      if level.price ≤ 0 ∨ level.quantity ≤ 0 then maxQtyLoop rest remainingQuote totalQty
      else
        let levelNotional := ctx.mul level.price level.quantity
        if levelNotional ≤ remainingQuote then
          maxQtyLoop rest (ctx.sub remainingQuote levelNotional) (ctx.add totalQty level.quantity)
        else ctx.add totalQty (ctx.div remainingQuote level.price)

def maxQtyWithQuoteLimit (levels : List OrderbookLevel) (quoteLimit : ℚ) : ℚ :=
  if quoteLimit ≤ 0 then 0 else maxQtyLoop ctx levels quoteLimit 0

def grossBuyCostBudgetForQuoteRequirement (inputs : ArbitrageInputs) : ℚ :=
  let config := inputs.riskConfig
  let fixedQuoteBuffer := ctx.add config.unwindBufferQuote config.rebalanceBufferQuote
  let quoteBudget := ctx.sub inputs.baseBalance.availableQuote fixedQuoteBuffer
  if quoteBudget ≤ 0 then 0
  else
    let multiplier :=
      ctx.add (ctx.add 1 (ctx.div config.takerFeeBpsBuy 10000))
        (ctx.div config.slippageBufferBps 10000)
    if multiplier ≤ 0 then 0 else ctx.div quoteBudget multiplier

/-- The minimum of the seven candidates, in the order the source lists them. -/
def SizeComponents.targetQty (components : SizeComponents) : ℚ :=
  min (min (min (min (min (min components.buyDepthQty components.sellDepthQty)
    components.buyQuoteAvailableQty) components.sellBaseAvailableQty)
    components.maxNotionalPerOrderQty) components.maxTotalNotionalPerBotQty)
    components.remainingBotNotionalQty

def sizeComponents (inputs : ArbitrageInputs) : SizeComponents :=
  let asks := inputs.baseOrderbook.asks
  let bids := inputs.hedgeOrderbook.bids
  let budget := grossBuyCostBudgetForQuoteRequirement ctx inputs
  { buyDepthLevels := asks.length
    sellDepthLevels := bids.length
    buyDepthQty := sumDepthQty ctx asks
    sellDepthQty := sumDepthQty ctx bids
    buyDepthNotionalQuote := sumDepthNotional ctx asks
    sellDepthNotionalQuote := sumDepthNotional ctx bids
    buyQuoteAvailable := inputs.baseBalance.availableQuote
    sellBaseAvailable := inputs.hedgeBalance.availableBase
    buyQuoteBudgetForGrossCost := budget
    buyQuoteAvailableQty := maxQtyWithQuoteLimit ctx asks budget
    sellBaseAvailableQty := inputs.hedgeBalance.availableBase
    maxNotionalPerOrderQty := maxQtyWithQuoteLimit ctx asks inputs.riskConfig.maxNotionalPerOrder
    maxTotalNotionalPerBotQty :=
      maxQtyWithQuoteLimit ctx asks inputs.riskConfig.maxTotalNotionalPerBot
    remainingBotNotionalQty :=
      match inputs.runtimeState.remainingBotNotional with
      | some remaining => maxQtyWithQuoteLimit ctx asks remaining
      | none => sumDepthQty ctx asks }

def computeCandidateSize (inputs : ArbitrageInputs) : CandidateSizeResult :=
  match inputs.baseOrderbook.asks, inputs.hedgeOrderbook.bids with
  | bestAsk :: _, _ :: _ =>
      if bestAsk.price ≤ 0 then ⟨0, .error "non_positive_best_ask"⟩
      else
        let components := sizeComponents ctx inputs
        ⟨components.targetQty, .ok components⟩
  | _, _ => ⟨0, .error "missing_orderbook_depth"⟩

def simulateExecutableEdge (inputs : ArbitrageInputs) (candidateSize : CandidateSizeResult) :
    Option ExecutableEdgeResult :=
  let config := inputs.riskConfig
  let qty := candidateSize.targetQty
  if qty ≤ 0 then none
  else
    match vwap ctx inputs.baseOrderbook.asks qty, vwap ctx inputs.hedgeOrderbook.bids qty with
    | some buyVwap, some sellVwap =>
        if buyVwap ≤ 0 then none
        else
          let grossBuyCost := ctx.mul buyVwap qty
          if grossBuyCost ≤ 0 then none
          else
            let grossSellProceeds := ctx.mul sellVwap qty
            let grossProfitQuote := ctx.sub grossSellProceeds grossBuyCost
            let feeBuy := ctx.div (ctx.mul grossBuyCost config.takerFeeBpsBuy) 10000
            let feeSell := ctx.div (ctx.mul grossSellProceeds config.takerFeeBpsSell) 10000
            let spreadBps := ctx.mul (ctx.div (ctx.sub sellVwap buyVwap) buyVwap) 10000
            let buySlippageBuffer :=
              ctx.div (ctx.mul grossBuyCost config.slippageBufferBps) 10000
            let sellSlippageBuffer :=
              ctx.div (ctx.mul grossSellProceeds config.slippageBufferBps) 10000
            let totalCostAdjustmentQuote :=
              ctx.add (ctx.add (ctx.add (ctx.add (ctx.add feeBuy feeSell) buySlippageBuffer)
                sellSlippageBuffer) config.unwindBufferQuote) config.rebalanceBufferQuote
            let executableProfitQuote := ctx.sub grossProfitQuote totalCostAdjustmentQuote
            let executableProfitBps := ctx.mul (ctx.div executableProfitQuote grossBuyCost) 10000
            some
              { executableBuyCostQuote := grossBuyCost
                executableSellProceedsQuote := grossSellProceeds
                grossProfitQuote := grossProfitQuote
                executableProfitQuote := executableProfitQuote
                executableProfitBps := executableProfitBps
                buyVwap := buyVwap
                sellVwap := sellVwap
                feeBuyQuote := feeBuy
                feeSellQuote := feeSell
                buySlippageBufferQuote := buySlippageBuffer
                sellSlippageBufferQuote := sellSlippageBuffer
                unwindBufferQuote := config.unwindBufferQuote
                rebalanceBufferQuote := config.rebalanceBufferQuote
                totalFeeQuote := ctx.add feeBuy feeSell
                totalCostAdjustmentQuote := totalCostAdjustmentQuote
                passed := config.minProfitQuote ≤ executableProfitQuote &&
                  config.minProfitBps ≤ executableProfitBps && spreadBps ≤ config.maxSpreadBps }
    | _, _ => none

end Code

/-! ## The exact context walks the ladder -/

section Exact

variable {levels : List OrderbookLevel}

theorem sumDepthQty_exact (levels : List OrderbookLevel) :
    sumDepthQty .exact levels = depth levels := by
  simp [sumDepthQty, depth, DecimalContext.exact_sum]

theorem sumDepthNotional_exact (levels : List OrderbookLevel) :
    sumDepthNotional .exact levels = notional levels := by
  simp [sumDepthNotional, notional, DecimalContext.exact_sum]

/-- The loop leaves what the book cannot fill and has added the list-walk cost. -/
theorem vwapLoop_exact (hpos : Positive levels) {remaining : ℚ} (hremaining : 0 < remaining)
    (total : ℚ) :
    (0 < (vwapLoop .exact levels remaining total).1 ↔ depth levels < remaining) ∧
      (remaining ≤ depth levels →
        (vwapLoop .exact levels remaining total).2 = total + cost levels remaining) := by
  induction levels generalizing remaining total with
  | nil =>
      refine ⟨by simp [vwapLoop], fun hle => ?_⟩
      exact absurd hle (not_le.mpr hremaining)
  | cons level rest ih =>
      have hquantity := hpos.head.2
      simp only [vwapLoop, DecimalContext.exact_add, DecimalContext.exact_sub,
        DecimalContext.exact_mul, depth_cons, cost]
      rcases le_or_gt remaining level.quantity with hle | hlt
      · -- This level fills the rest of the quantity.
        have hrest := hpos.tail.depth_nonneg
        simp only [min_eq_right hle, sub_self, le_refl, ite_true, hpos.tail.cost_zero, add_zero]
        refine ⟨⟨fun h => absurd h (lt_irrefl 0), fun h => ?_⟩, fun _ => trivial⟩
        linarith
      · have hleft : 0 < remaining - level.quantity := sub_pos.mpr hlt
        simp only [min_eq_left hlt.le, not_le.mpr hleft, ite_false]
        obtain ⟨hexhausted, hcost⟩ :=
          ih hpos.tail hleft (total + level.quantity * level.price)
        refine ⟨hexhausted.trans ?_, fun hle => ?_⟩
        · constructor <;> intro h <;> linarith
        · rw [hcost (by linarith)]
          ring

theorem vwap_exact (hpos : Positive levels) {qty : ℚ} (hqty : 0 < qty)
    (hdepth : qty ≤ depth levels) :
    vwap .exact levels qty = some (cost levels qty / qty) := by
  obtain ⟨hexhausted, hcost⟩ := vwapLoop_exact hpos hqty 0
  have hfilled : ¬ 0 < (vwapLoop .exact levels qty 0).1 :=
    fun h => absurd (hexhausted.mp h) (not_lt.mpr hdepth)
  simp only [vwap, hfilled, ite_false, hcost hdepth, zero_add, DecimalContext.exact_div]

theorem maxQtyLoop_exact (hpos : Positive levels) (quote total : ℚ) :
    maxQtyLoop .exact levels quote total = total + reach levels quote := by
  induction levels generalizing quote total with
  | nil => simp [maxQtyLoop, reach]
  | cons level rest ih =>
      have hskip : ¬ (level.price ≤ 0 ∨ level.quantity ≤ 0) := by
        rintro (h | h)
        · exact absurd hpos.head.1 (not_lt.mpr h)
        · exact absurd hpos.head.2 (not_lt.mpr h)
      simp only [maxQtyLoop, hskip, ite_false, reach, DecimalContext.exact_mul,
        DecimalContext.exact_sub, DecimalContext.exact_add, DecimalContext.exact_div]
      by_cases hfits : level.price * level.quantity ≤ quote
      · simp only [hfits, ite_true, ih hpos.tail, add_assoc]
      · simp only [hfits, ite_false]

theorem maxQtyWithQuoteLimit_exact (hpos : Positive levels) (quoteLimit : ℚ) :
    maxQtyWithQuoteLimit .exact levels quoteLimit = capacity levels quoteLimit := by
  simp only [maxQtyWithQuoteLimit, capacity, maxQtyLoop_exact hpos, zero_add]

end Exact

end TradingPlatform.Strategy

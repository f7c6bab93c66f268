import TradingPlatform.Foundation.RoundingErrors
import TradingPlatform.Strategy.Evaluate

/-! # Sizes in a rounding context

The walks that size and price an order, when every operation is rounded. Each
result is the one of the exact walk, up to a power of the growth of one rounding.
-/

namespace TradingPlatform.Strategy

open PriceLadder

section Walks

variable {ctx : DecimalContext} {u : ℚ} {levels : List OrderbookLevel}

/-- The rounded walk sizes at most what the exact one reaches with a little more quote. -/
theorem maxQtyLoop_le (hround : RoundsWithin u ctx.round) (hpos : Positive levels)
    {quote total : ℚ} (hquote : 0 ≤ quote) (htotal : 0 ≤ total) :
    maxQtyLoop ctx levels quote total ≤ (1 + u) ^ levels.length * total +
      (1 + u) ^ (levels.length + 2) * reach levels ((1 + u) ^ levels.length * quote) := by
  induction levels generalizing quote total with
  | nil => simp [maxQtyLoop, reach]
  | cons level rest ih =>
      obtain ⟨hprice, hquantity⟩ := hpos.head
      have hworth := mul_pos hprice hquantity
      have hskip := not_or.mpr ⟨not_le.mpr hprice, not_le.mpr hquantity⟩
      simp only [maxQtyLoop, hskip, ite_false, List.length_cons]
      split
      next hfits =>
        -- The level is bought whole; a rounded notional charges almost all of it.
        have hleft := sub_nonneg.mpr hfits
        have hbought := add_nonneg htotal hquantity.le
        have hcharged : (1 + u) ^ rest.length *
            ctx.sub quote (ctx.mul level.price level.quantity) ≤
              (1 + u) ^ (rest.length + 1) * quote - level.price * level.quantity := by
          have hrounded := hround.pow_mul_round_le rest.length hleft
          have hpaid := hround.le_pow_mul_round rest.length hworth.le
          rw [DecimalContext.mul] at *
          rw [DecimalContext.sub]
          linarith
        have hcarried : 0 ≤ (1 + u) ^ rest.length *
            ctx.sub quote (ctx.mul level.price level.quantity) :=
          mul_nonneg (hround.pow_nonneg rest.length) (hround.round_nonneg hleft)
        have hcovered := sub_nonneg.mp (hcarried.trans hcharged)
        have hreach := mul_le_mul_of_nonneg_left (hpos.tail.reach_mono hcarried hcharged)
          (hround.pow_nonneg (rest.length + 2))
        have hrest := hround.pow_mul_mono (by omega : rest.length + 2 ≤ rest.length + 3)
          (hpos.tail.reach_nonneg (hcarried.trans hcharged))
        have hadded := hround.pow_mul_round_le rest.length hbought
        have htaken := hround.pow_mul_mono (by omega : rest.length + 1 ≤ rest.length + 3)
          hquantity.le
        have hstep := @ih hpos.tail (ctx.sub quote (ctx.mul level.price level.quantity))
          (ctx.add total level.quantity) (hround.round_nonneg hleft)
          (hround.round_nonneg hbought)
        rw [DecimalContext.add] at hstep ⊢
        rw [reach, if_pos hcovered]
        linarith
      next hexceeds =>
        -- The level is bought in part, which ends the walk.
        have hpart : 0 ≤ quote / level.price := div_nonneg hquote hprice.le
        have hsum := hround.round_le (add_nonneg htotal (hround.round_nonneg hpart))
        have hdivided := hround.pow_mul_round_le 1 hpart
        have hheld : quote / level.price ≤ (1 + u) * level.quantity := by
          rw [div_le_iff₀ hprice, mul_assoc, mul_comm level.quantity]
          exact (not_le.mp hexceeds).le.trans (hround.round_le hworth.le)
        have hmore := hround.le_pow_mul (rest.length + 1) hquote
        have hreached := mul_le_mul_of_nonneg_left
          (hpos.div_price_le_reach hquote hmore hround.one_le_growth hheld) (hround.pow_nonneg 2)
        have hgrown := hround.pow_mul_mono (by omega : 3 ≤ rest.length + 3)
          (hpos.reach_nonneg (hquote.trans hmore))
        have hbefore := hround.pow_mul_mono (by omega : 1 ≤ rest.length + 1) htotal
        rw [← mul_assoc, ← pow_succ] at hreached
        rw [pow_one] at hdivided hbefore
        rw [DecimalContext.add, DecimalContext.div]
        linarith

/-- The rounded walk pays at most what a little more of the quantity costs. -/
theorem vwapLoop_le (hround : RoundsWithin u ctx.round) (hpos : Positive levels)
    {remaining total : ℚ} (hremaining : 0 ≤ remaining) (htotal : 0 ≤ total) :
    (vwapLoop ctx levels remaining total).2 ≤ (1 + u) ^ levels.length * total +
      (1 + u) ^ (levels.length + 1) * cost levels ((1 + u) ^ levels.length * remaining) := by
  induction levels generalizing remaining total with
  | nil => simp [vwapLoop, cost]
  | cons level rest ih =>
      obtain ⟨hprice, hquantity⟩ := hpos.head
      have htake : 0 ≤ min level.quantity remaining := le_min hquantity.le hremaining
      have hpaid := mul_nonneg htake hprice.le
      have hsum := add_nonneg htotal (hround.round_nonneg hpaid)
      have hleft := sub_nonneg.mpr (min_le_right level.quantity remaining)
      -- A level takes no less of a little more of the quantity, and leaves no less of it.
      obtain ⟨htaken, hkept⟩ := min_sub_mono level.quantity
        (hround.le_pow_mul (rest.length + 1) hremaining)
      have hafter := hpos.tail.cost_mono (hleft.trans hkept)
      rw [hpos.tail.cost_zero] at hafter
      have hpaidMore := mul_le_mul_of_nonneg_left
        (mul_le_mul_of_nonneg_right htaken hprice.le) (hround.pow_nonneg (rest.length + 2))
      have hproduct := hround.pow_mul_round_le (rest.length + 1) hpaid
      have hadded := hround.pow_mul_round_le rest.length hsum
      have hrest := mul_nonneg (hround.pow_nonneg (rest.length + 2)) hafter
      simp only [vwapLoop, cost, List.length_cons]
      split
      next hfilled =>
        have hlast := hround.le_pow_mul rest.length (hround.round_nonneg hsum)
        simp only [DecimalContext.add, DecimalContext.mul]
        linarith
      next hopen =>
        have hwhole : min level.quantity remaining = level.quantity := by
          have hpositive := sub_pos.mp (hround.round_pos_iff.mp (not_le.mp hopen))
          exact min_eq_left (min_lt_iff.mp hpositive |>.resolve_right (lt_irrefl _)).le
        have hcarried : (1 + u) ^ rest.length *
            ctx.sub remaining (min level.quantity remaining) ≤
              (1 + u) ^ (rest.length + 1) * remaining -
                min level.quantity ((1 + u) ^ (rest.length + 1) * remaining) := by
          have hrounded := hround.pow_mul_round_le rest.length hleft
          have hquantityMore := hround.le_pow_mul (rest.length + 1) hquantity.le
          have hheld := min_le_left level.quantity ((1 + u) ^ (rest.length + 1) * remaining)
          rw [hwhole] at hrounded ⊢
          rw [DecimalContext.sub]
          linarith
        have hcost := mul_le_mul_of_nonneg_left (hpos.tail.cost_mono hcarried)
          (hround.pow_nonneg (rest.length + 1))
        have hraised := hround.pow_mul_mono (by omega : rest.length + 1 ≤ rest.length + 2) hafter
        have hstep := @ih hpos.tail (ctx.sub remaining (min level.quantity remaining))
          (ctx.add total (ctx.mul (min level.quantity remaining) level.price))
          (hround.round_nonneg hleft) (hround.round_nonneg hsum)
        simp only [DecimalContext.add, DecimalContext.mul] at hstep ⊢
        linarith

theorem vwapLoop_nonneg (hround : RoundsWithin u ctx.round) (hpos : Positive levels)
    {remaining total : ℚ} (hremaining : 0 ≤ remaining) (htotal : 0 ≤ total) :
    0 ≤ (vwapLoop ctx levels remaining total).2 := by
  induction levels generalizing remaining total with
  | nil => exact htotal
  | cons level rest ih =>
      have hpaid := mul_nonneg (le_min hpos.head.2.le hremaining) hpos.head.1.le
      have hsum := hround.round_nonneg (add_nonneg htotal (hround.round_nonneg hpaid))
      have hleft := hround.round_nonneg
        (sub_nonneg.mpr (min_le_right level.quantity remaining))
      simp only [vwapLoop]
      split
      · exact hsum
      · exact ih hpos.tail hleft hsum

section Repricing

variable {qty price limit : ℚ}

/-- A quantity priced again through its average price. -/
theorem repriced_le_cost (hround : RoundsWithin u ctx.round) (hpos : Positive levels)
    (hqty : 0 < qty) (hprice : vwap ctx levels qty = some price) :
    ctx.mul price qty ≤
      (1 + u) ^ (levels.length + 3) * cost levels ((1 + u) ^ levels.length * qty) := by
  have hpaid := vwapLoop_nonneg hround hpos hqty.le le_rfl
  have hwalk := vwapLoop_le hround hpos hqty.le le_rfl
  rw [mul_zero, zero_add] at hwalk
  simp only [vwap] at hprice
  split at hprice
  next => cases hprice
  next =>
    cases hprice
    have haverage := div_nonneg hpaid hqty.le
    have hquotient := mul_le_mul_of_nonneg_right (hround.round_le haverage) hqty.le
    rw [mul_assoc, div_mul_cancel₀ _ hqty.ne'] at hquotient
    have hproduct := hround.round_le (mul_nonneg (hround.round_nonneg haverage) hqty.le)
    have hgrown := mul_le_mul_of_nonneg_left hquotient (hround.pow_nonneg 1)
    have hscaled := mul_le_mul_of_nonneg_left hwalk (hround.pow_nonneg 2)
    calc ctx.mul (ctx.div (vwapLoop ctx levels qty 0).2 qty) qty
        ≤ (1 + u) * (ctx.div (vwapLoop ctx levels qty 0).2 qty * qty) := hproduct
      _ ≤ (1 + u) * ((1 + u) * (vwapLoop ctx levels qty 0).2) := by rwa [pow_one] at hgrown
      _ = (1 + u) ^ 2 * (vwapLoop ctx levels qty 0).2 := by ring
      _ ≤ _ := hscaled
      _ = _ := by ring

/-- A priced quantity costs what it amounts to at the dearest price, at most. -/
theorem repriced_le_topPrice (hround : RoundsWithin u ctx.round) (hpos : Positive levels)
    (hqty : 0 < qty) (hprice : vwap ctx levels qty = some price) :
    ctx.mul price qty ≤ (1 + u) ^ (2 * levels.length + 3) * (qty * topPrice levels) := by
  have hmore := hpos.cost_le_topPrice (hqty.le.trans (hround.le_pow_mul levels.length hqty.le))
  calc ctx.mul price qty
      ≤ (1 + u) ^ (levels.length + 3) * cost levels ((1 + u) ^ levels.length * qty) :=
        repriced_le_cost hround hpos hqty hprice
    _ ≤ (1 + u) ^ (levels.length + 3) * ((1 + u) ^ levels.length * qty * topPrice levels) :=
        mul_le_mul_of_nonneg_left hmore (hround.pow_nonneg _)
    _ = (1 + u) ^ (2 * levels.length + 3) * (qty * topPrice levels) := by
        rw [two_mul, add_assoc, pow_add _ levels.length (levels.length + 3)]
        ring

/-- The cost of a grown quantity that is within the growth of what a limit reaches: what
lies beyond the limit's reach is charged at the dearest price. -/
theorem grown_cost_le (hround : RoundsWithin u ctx.round) (hpos : Positive levels)
    (hqty : 0 ≤ qty) (hlimit : 0 ≤ limit)
    (hsize : qty ≤ (1 + u) ^ (levels.length + 2) *
      reach levels ((1 + u) ^ levels.length * limit)) :
    (1 + u) ^ (levels.length + 3) * cost levels ((1 + u) ^ levels.length * qty) ≤
      (1 + u) ^ (2 * levels.length + 3) * limit +
        drift u (2 * levels.length + 3) * (qty * topPrice levels) := by
  have hgrown := mul_nonneg (hround.pow_nonneg levels.length) hlimit
  have hpow := hround.pow_nonneg (levels.length + 3)
  have hsum : (1 + u) ^ (levels.length + 3) * (1 + u) ^ levels.length =
      (1 + u) ^ (2 * levels.length + 3) := by
    rw [← pow_add]
    congr 1
    omega
  have hwithin := mul_le_mul_of_nonneg_left (hpos.cost_reach_le hgrown) hpow
  rw [← mul_assoc, hsum] at hwithin
  have hworth := mul_nonneg hqty (topPrice_nonneg levels)
  rcases le_total ((1 + u) ^ levels.length * qty)
    (reach levels ((1 + u) ^ levels.length * limit)) with hinside | hbeyond
  · have hcheaper := mul_le_mul_of_nonneg_left (hpos.cost_mono hinside) hpow
    have hdrifted := mul_nonneg (hround.drift_nonneg (2 * levels.length + 3)) hworth
    linarith
  · have hmore := mul_le_mul_of_nonneg_left
      (cost_le_add (fun _ hmem => price_le_topPrice hmem) (topPrice_nonneg levels) hbeyond) hpow
    have hreached := hsize.trans (hround.pow_mul_mono (by omega : _ ≤ levels.length + 3)
      (hpos.reach_nonneg hgrown))
    have hcharged := mul_le_mul_of_nonneg_right hreached (topPrice_nonneg levels)
    have hsplit := pow_mul_eq_drift u (2 * levels.length + 3) (qty * topPrice levels)
    rw [← hsum] at hsplit hwithin ⊢
    linarith

/-- A quantity sized from a limit costs more than the limit by the drift at most, once
for the limit and once for what the quantity amounts to. -/
theorem repriced_le_limit (hround : RoundsWithin u ctx.round) (hpos : Positive levels)
    (hqty : 0 < qty) (hsize : qty ≤ maxQtyWithQuoteLimit ctx levels limit)
    (hprice : vwap ctx levels qty = some price) :
    ctx.mul price qty ≤
      limit + 2 * drift u (2 * levels.length + 3) * (qty * topPrice levels) := by
  have hlimit : 0 < limit := by
    by_contra hnone
    rw [maxQtyWithQuoteLimit, if_pos (not_lt.mp hnone)] at hsize
    exact absurd hqty (not_lt.mpr hsize)
  have hsized : qty ≤ (1 + u) ^ (levels.length + 2) *
      reach levels ((1 + u) ^ levels.length * limit) := by
    have hloop := maxQtyLoop_le hround hpos hlimit.le le_rfl
    rw [mul_zero, zero_add] at hloop
    rw [maxQtyWithQuoteLimit, if_neg (not_le.mpr hlimit)] at hsize
    exact hsize.trans hloop
  have hworth := mul_nonneg hqty.le (topPrice_nonneg levels)
  have hdrifted := mul_nonneg (hround.drift_nonneg (2 * levels.length + 3)) hworth
  have hsplit := pow_mul_eq_drift u (2 * levels.length + 3)
  rcases le_total (qty * topPrice levels) limit with hample | htight
  · -- The limit covers the quantity at the dearest price.
    have htop := repriced_le_topPrice hround hpos hqty hprice
    linarith [hsplit (qty * topPrice levels)]
  · have hcost := repriced_le_cost hround hpos hqty hprice
    have hwithin := grown_cost_le hround hpos hqty.le hlimit.le hsized
    have hlimitDrift := mul_le_mul_of_nonneg_left htight
      (hround.drift_nonneg (2 * levels.length + 3))
    linarith [hsplit limit]

end Repricing

end Walks

end TradingPlatform.Strategy

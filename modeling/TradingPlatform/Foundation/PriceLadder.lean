import Mathlib.Algebra.Order.Field.Basic
import Mathlib.Order.Bounds.Basic
import Mathlib.Tactic.Linarith
import Mathlib.Tactic.FieldSimp
import Mathlib.Tactic.Ring

/-! # Price ladders

A ladder offers quantities at successive prices. `cost` walks it for a
quantity, `reach` inverts the walk for a budget. On a ladder of positive rungs
the two form an adjunction on the quantities the ladder holds, which makes a
minimum of reaches the greatest quantity satisfying every budget at once.
-/

namespace PriceLadder

variable {K : Type*} [Field K] [LinearOrder K]

/-- One offer: any part of `quantity` at unit price `price`. -/
structure Rung (K : Type*) where
  price : K
  quantity : K
deriving DecidableEq, Repr

/-- Everything the ladder holds. -/
def depth (ladder : List (Rung K)) : K := (ladder.map Rung.quantity).sum

/-- The price of everything the ladder holds. -/
def notional (ladder : List (Rung K)) : K :=
  (ladder.map fun rung => rung.price * rung.quantity).sum

/-- List-walk cost of taking a quantity, rung by rung. -/
def cost : List (Rung K) → K → K
  | [], _ => 0
  | rung :: rest, qty =>
      min rung.quantity qty * rung.price + cost rest (qty - min rung.quantity qty)

/-- The quantity a budget buys, rung by rung; the rung that exceeds what is
left of the budget is bought in part and ends the walk. -/
def reach : List (Rung K) → K → K
  | [], _ => 0
  | rung :: rest, budget =>
      if rung.price * rung.quantity ≤ budget then
        rung.quantity + reach rest (budget - rung.price * rung.quantity)
      else budget / rung.price

/-- What a budget buys when a budget that is not positive buys nothing. -/
def capacity (ladder : List (Rung K)) (budget : K) : K :=
  if budget ≤ 0 then 0 else reach ladder budget

/-- Every rung offers a positive quantity at a positive price. -/
def Positive (ladder : List (Rung K)) : Prop :=
  ∀ rung ∈ ladder, 0 < rung.price ∧ 0 < rung.quantity

/-- The dearest price of a ladder. -/
def topPrice (ladder : List (Rung K)) : K := (ladder.map Rung.price).foldr max 0

omit [LinearOrder K] in
@[simp] theorem depth_nil : depth ([] : List (Rung K)) = 0 := rfl

omit [LinearOrder K] in
@[simp] theorem depth_cons (rung : Rung K) (rest : List (Rung K)) :
    depth (rung :: rest) = rung.quantity + depth rest := by
  simp [depth]

theorem Positive.head {rung : Rung K} {rest : List (Rung K)}
    (hpos : Positive (rung :: rest)) : 0 < rung.price ∧ 0 < rung.quantity :=
  hpos rung List.mem_cons_self

theorem Positive.tail {rung : Rung K} {rest : List (Rung K)}
    (hpos : Positive (rung :: rest)) : Positive rest :=
  fun other hmem => hpos other (List.mem_cons_of_mem rung hmem)

/-- Taking nothing costs nothing: the rest of a walk after the quantity ran out. -/
theorem Positive.cost_zero {ladder : List (Rung K)} (hpos : Positive ladder) :
    cost ladder 0 = 0 := by
  induction ladder with
  | nil => rfl
  | cons rung rest ih =>
      have hmin : min rung.quantity 0 = 0 := min_eq_right hpos.head.2.le
      simp [cost, hmin, ih hpos.tail]

theorem topPrice_nonneg (ladder : List (Rung K)) : 0 ≤ topPrice ladder := by
  induction ladder with
  | nil => exact le_rfl
  | cons rung rest ih => exact ih.trans (le_max_right _ _)

theorem price_le_topPrice {ladder : List (Rung K)} {rung : Rung K} (hmem : rung ∈ ladder) :
    rung.price ≤ topPrice ladder := by
  induction ladder with
  | nil => exact absurd hmem List.not_mem_nil
  | cons first rest ih =>
      rcases List.mem_cons.mp hmem with rfl | hrest
      · exact le_max_left _ _
      · exact (ih hrest).trans (le_max_right _ _)

variable [IsStrictOrderedRing K]

theorem Positive.depth_nonneg {ladder : List (Rung K)} (hpos : Positive ladder) :
    0 ≤ depth ladder := by
  induction ladder with
  | nil => simp
  | cons rung rest ih =>
      have hrest := ih hpos.tail
      have hhead := hpos.head.2
      simp only [depth_cons]
      linarith

theorem Positive.cost_pos {ladder : List (Rung K)} (hpos : Positive ladder)
    {qty : K} (hqty : 0 < qty) (hdepth : qty ≤ depth ladder) : 0 < cost ladder qty := by
  induction ladder generalizing qty with
  | nil => exact absurd hdepth (not_le.mpr hqty)
  | cons rung rest ih =>
      have htake : 0 < min rung.quantity qty := lt_min hpos.head.2 hqty
      have hfirst := mul_pos htake hpos.head.1
      simp only [cost]
      rcases le_total rung.quantity qty with hle | hle
      · rw [min_eq_left hle] at hfirst ⊢
        rcases hle.eq_or_lt with heq | hlt
        · rw [heq, sub_self, hpos.tail.cost_zero, ← heq]
          linarith
        · have hleft : qty - rung.quantity ≤ depth rest := by
            simp only [depth_cons] at hdepth
            linarith
          have htail := ih hpos.tail (sub_pos.mpr hlt) hleft
          linarith
      · rw [min_eq_right hle] at hfirst ⊢
        rw [sub_self, hpos.tail.cost_zero]
        linarith

theorem Positive.cost_nonneg {ladder : List (Rung K)} (hpos : Positive ladder)
    {qty : K} (hqty : 0 ≤ qty) (hdepth : qty ≤ depth ladder) : 0 ≤ cost ladder qty := by
  rcases hqty.eq_or_lt with heq | hlt
  · rw [← heq, hpos.cost_zero]
  · exact (hpos.cost_pos hlt hdepth).le

/-- What a rung takes of a greater quantity, and what it leaves of it, is no less. -/
theorem min_sub_mono (quantity : K) {x y : K} (hle : x ≤ y) :
    min quantity x ≤ min quantity y ∧ x - min quantity x ≤ y - min quantity y := by
  refine ⟨min_le_min_left quantity hle, ?_⟩
  rcases le_total quantity x with hx | hx
  · rw [min_eq_left hx, min_eq_left (hx.trans hle)]
    linarith
  · rw [min_eq_right hx, sub_self]
    exact sub_nonneg.mpr (min_le_right quantity y)

theorem Positive.cost_mono {ladder : List (Rung K)} (hpos : Positive ladder) {x y : K}
    (hle : x ≤ y) : cost ladder x ≤ cost ladder y := by
  induction ladder generalizing x y with
  | nil => exact le_rfl
  | cons rung rest ih =>
      obtain ⟨htaken, hleft⟩ := min_sub_mono rung.quantity hle
      simp only [cost]
      exact add_le_add (mul_le_mul_of_nonneg_right htaken hpos.head.1.le) (ih hpos.tail hleft)

/-- More of a quantity costs the dearest price at most. -/
theorem cost_le_add {ladder : List (Rung K)} {top : K}
    (htop : ∀ rung ∈ ladder, rung.price ≤ top) (hnonneg : 0 ≤ top) {x y : K} (hle : x ≤ y) :
    cost ladder y ≤ cost ladder x + (y - x) * top := by
  induction ladder generalizing x y with
  | nil =>
      have hmore := mul_nonneg (sub_nonneg.mpr hle) hnonneg
      simpa [cost] using hmore
  | cons rung rest ih =>
      obtain ⟨htaken, hleft⟩ := min_sub_mono rung.quantity hle
      have hfirst := mul_le_mul_of_nonneg_left (htop rung List.mem_cons_self)
        (sub_nonneg.mpr htaken)
      have hrest := ih (fun other hmem => htop other (List.mem_cons_of_mem rung hmem)) hleft
      simp only [cost]
      calc min rung.quantity y * rung.price + cost rest (y - min rung.quantity y)
          ≤ (min rung.quantity x * rung.price +
              (min rung.quantity y - min rung.quantity x) * top) +
            (cost rest (x - min rung.quantity x) +
              (y - min rung.quantity y - (x - min rung.quantity x)) * top) :=
            add_le_add (by linarith) hrest
        _ = min rung.quantity x * rung.price + cost rest (x - min rung.quantity x) +
              (y - x) * top := by ring

/-- A quantity costs what it amounts to at the dearest price, at most. -/
theorem Positive.cost_le_topPrice {ladder : List (Rung K)} (hpos : Positive ladder) {qty : K}
    (hqty : 0 ≤ qty) : cost ladder qty ≤ qty * topPrice ladder := by
  have hmore := cost_le_add (fun _ hmem => price_le_topPrice hmem) (topPrice_nonneg ladder) hqty
  rwa [hpos.cost_zero, zero_add, sub_zero] at hmore

/-- A budget never buys more than the ladder holds. -/
theorem Positive.reach_le_depth {ladder : List (Rung K)} (hpos : Positive ladder)
    (budget : K) : reach ladder budget ≤ depth ladder := by
  induction ladder generalizing budget with
  | nil => simp [reach]
  | cons rung rest ih =>
      simp only [reach, depth_cons]
      split
      · have htail := ih hpos.tail (budget - rung.price * rung.quantity)
        linarith
      next hexceeds =>
        have hpart : budget / rung.price ≤ rung.quantity := by
          rw [div_le_iff₀ hpos.head.1]
          linarith [not_le.mp hexceeds, mul_comm rung.price rung.quantity]
        linarith [hpos.tail.depth_nonneg]

theorem Positive.reach_nonneg {ladder : List (Rung K)} (hpos : Positive ladder)
    {budget : K} (hbudget : 0 ≤ budget) : 0 ≤ reach ladder budget := by
  induction ladder generalizing budget with
  | nil => exact le_rfl
  | cons rung rest ih =>
      simp only [reach]
      split
      next hfits => linarith [ih hpos.tail (sub_nonneg.mpr hfits), hpos.head.2]
      · exact div_nonneg hbudget hpos.head.1.le

/-- The adjunction: within the ladder's depth, a quantity costs at most a
budget exactly when the budget reaches it. -/
theorem Positive.cost_le_iff {ladder : List (Rung K)} (hpos : Positive ladder)
    {qty budget : K} (hqty : 0 ≤ qty) (hdepth : qty ≤ depth ladder) (hbudget : 0 ≤ budget) :
    cost ladder qty ≤ budget ↔ qty ≤ reach ladder budget := by
  induction ladder generalizing qty budget with
  | nil =>
      simp only [depth_nil] at hdepth
      simp [cost, reach, hbudget, hdepth]
  | cons rung rest ih =>
      obtain ⟨hprice, hquantity⟩ := hpos.head
      simp only [cost, reach, depth_cons] at hdepth ⊢
      rcases le_total rung.quantity qty with hle | hle
      · -- The whole rung is taken; the walk goes on with what is left.
        rw [min_eq_left hle]
        split
        next hfits =>
          have htail := @ih hpos.tail (qty - rung.quantity) (budget - rung.price * rung.quantity)
            (by linarith) (by linarith) (by linarith)
          rw [mul_comm rung.quantity rung.price]
          constructor
          · intro hcost
            linarith [htail.mp (by linarith)]
          · intro hreach
            linarith [htail.mpr (by linarith)]
        next hexceeds =>
          have hrest := hpos.tail.cost_nonneg (sub_nonneg.mpr hle) (by linarith)
          have hcostly : budget < rung.quantity * rung.price := by
            linarith [not_le.mp hexceeds, mul_comm rung.price rung.quantity]
          have hpart : budget / rung.price < rung.quantity := by
            rw [div_lt_iff₀ hprice]
            exact hcostly
          constructor
          · intro hcost; linarith
          · intro hreach; linarith
      · -- The walk ends inside this rung.
        rw [min_eq_right hle, sub_self, hpos.tail.cost_zero, add_zero]
        split
        next hfits =>
          have hcost : qty * rung.price ≤ budget := by
            have hmul := mul_le_mul_of_nonneg_right hle hprice.le
            linarith [mul_comm rung.price rung.quantity]
          have hreach := hpos.tail.reach_nonneg (sub_nonneg.mpr hfits)
          exact ⟨fun _ => by linarith, fun _ => hcost⟩
        · rw [le_div_iff₀ hprice]

/-- What a budget reaches is within it. -/
theorem Positive.cost_reach_le {ladder : List (Rung K)} (hpos : Positive ladder) {budget : K}
    (hbudget : 0 ≤ budget) : cost ladder (reach ladder budget) ≤ budget :=
  (hpos.cost_le_iff (hpos.reach_nonneg hbudget) (hpos.reach_le_depth budget) hbudget).mpr le_rfl

theorem Positive.reach_mono {ladder : List (Rung K)} (hpos : Positive ladder) {budget more : K}
    (hbudget : 0 ≤ budget) (hle : budget ≤ more) : reach ladder budget ≤ reach ladder more :=
  (hpos.cost_le_iff (hpos.reach_nonneg hbudget) (hpos.reach_le_depth budget)
    (hbudget.trans hle)).mp ((hpos.cost_reach_le hbudget).trans hle)

/-- What a budget buys of the first rung alone, when the rung holds that up to a factor. -/
theorem Positive.div_price_le_reach {rung : Rung K} {rest : List (Rung K)}
    (hpos : Positive (rung :: rest)) {budget more factor : K} (hbudget : 0 ≤ budget)
    (hle : budget ≤ more) (hfactor : 1 ≤ factor)
    (hheld : budget / rung.price ≤ factor * rung.quantity) :
    budget / rung.price ≤ factor * reach (rung :: rest) more := by
  have hnonneg := le_trans zero_le_one hfactor
  rw [reach]
  split
  next hfits =>
    have hrest := hpos.tail.reach_nonneg (sub_nonneg.mpr hfits)
    exact hheld.trans (mul_le_mul_of_nonneg_left (by linarith) hnonneg)
  next hexceeds =>
    have hpart := div_le_div_of_nonneg_right hle hpos.head.1.le
    have hmore := div_nonneg (hbudget.trans hle) hpos.head.1.le
    exact hpart.trans (le_mul_of_one_le_left hmore hfactor)

/-- The adjunction for every budget, on the positive quantities. -/
theorem Positive.cost_le_iff_le_capacity {ladder : List (Rung K)} (hpos : Positive ladder)
    {qty : K} (hqty : 0 < qty) (hdepth : qty ≤ depth ladder) (budget : K) :
    cost ladder qty ≤ budget ↔ qty ≤ capacity ladder budget := by
  unfold capacity
  split
  next hnone =>
    have hcost := hpos.cost_pos hqty hdepth
    exact ⟨fun h => by linarith, fun h => by linarith⟩
  next hsome => exact hpos.cost_le_iff hqty.le hdepth (le_of_lt (not_le.mp hsome))

end PriceLadder

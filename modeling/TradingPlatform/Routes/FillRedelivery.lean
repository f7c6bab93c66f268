import Mathlib.Data.List.Pairwise
import TradingPlatform.Routes.OrderWrite
import TradingPlatform.Storage.IntentStatus

/-! # Redelivered fills

A fill that is reported twice should be recognised by its trade identifier. The
store looks at the status of the order first.
-/

namespace TradingPlatform.Routes

open Storage MemoryStore

section Specification

variable (p : Platform) (ctx : DecimalContext) (s : MemoryStore)

/-- A fill reported for the order and the trade of a recorded one. -/
structure Redelivers (fill : Fill) (new : NewFill) : Prop where
  order : new.orderId = fill.orderId
  trade : new.exchangeTradeId = fill.exchangeTradeId

/-- The store and the fill route recognise a redelivered fill, and nothing changes. -/
structure Recognised (fill : Fill) (new : NewFill) : Prop where
  stored : MemoryStore.createFill p ctx new s = (⟨.conflict, some fill⟩, s)
  answered : ∀ body, fillRequest ctx body = .ok new →
    createFillResponse p ctx body s = ⟨.error (fillRefusal .conflict), s⟩

/-- The order takes fills still. -/
def OpenForFills (orderId : String) : Prop :=
  ∀ order, s.findOrder orderId = some order → order.status ∉ terminalOrderStatuses

end Specification

section Recognition

variable {p : Platform} {ctx : DecimalContext} {s : MemoryStore} {fill : Fill} {new : NewFill}

/-- A key that occurs once is the key of one item. -/
theorem eq_of_nodup_filterMap {α β : Type} {f : α → Option β} {items : List α}
    (hnodup : (items.filterMap f).Nodup) {a b : α} (ha : a ∈ items) (hb : b ∈ items) {key : β}
    (hakey : f a = some key) (hbkey : f b = some key) : a = b := by
  have hpairwise := List.pairwise_filterMap.mp hnodup
  have hsymm : Std.Symm fun a b =>
      ∀ key, f a = some key → ∀ other, f b = some other → key ≠ other :=
    ⟨fun a b hab key hb other ha heq => hab other ha key hb heq.symm⟩
  by_contra hne
  exact hpairwise.forall ha hb hne key hakey key hbkey rfl

/-- The order of a recorded fill is recorded. -/
theorem exists_order_of_fill (hwf : WellFormed p s) (hfill : fill ∈ s.fills) :
    ∃ order, s.findOrder fill.orderId = some order := by
  obtain ⟨order, horder, hid, -⟩ := hwf.fills fill hfill
  exact ⟨order, hid ▸ hwf.findOrder_of_mem horder⟩

/-- A trade is found by its identifier, since no order has two fills of one trade. -/
theorem findTrade_of_mem (hwf : WellFormed p s) (hfill : fill ∈ s.fills)
    (htrade : fill.exchangeTradeId.isSome) :
    s.findTrade fill.orderId fill.exchangeTradeId = some fill := by
  obtain ⟨id, hid⟩ := Option.isSome_iff_exists.mp htrade
  have hkey : fill.tradeKey = some (fill.orderId, id) := by rw [Fill.tradeKey, hid, Option.map_some]
  rw [hid]
  cases hfind : s.findTrade fill.orderId (some id) with
  | none =>
      simp only [findTrade, Option.bind_some, List.find?_eq_none, decide_eq_true_eq] at hfind
      exact absurd ⟨rfl, hid⟩ (hfind fill hfill)
  | some other =>
      rw [findTrade, Option.bind_some] at hfind
      have hother : other.orderId = fill.orderId ∧ other.exchangeTradeId = some id := by
        simpa using List.find?_some hfind
      have hotherKey : other.tradeKey = some (fill.orderId, id) := by
        rw [Fill.tradeKey, hother.2, hother.1, Option.map_some]
      rw [eq_of_nodup_filterMap hwf.trades (List.mem_of_find?_eq_some hfind) hfill hotherKey hkey]

theorem respond_of_refused {New Row : Type} {request : Except RouteError New}
    {call : New → MemoryStore → StoreAnswer Row × MemoryStore}
    {refusal : StoreOutcome → RouteError} {new : New} {outcome : StoreOutcome} {row : Option Row}
    (hrequest : request = .ok new) (hcall : call new s = (⟨outcome, row⟩, s))
    (hrefused : outcome ≠ .created) :
    respond s request call refusal = ⟨.error (refusal outcome), s⟩ := by
  simp [respond, hrequest, hcall, StoreAnswer.createdRow, hrefused]

/-- A redelivered fill is recognised exactly while the order takes fills. -/
theorem recognised_redelivered_iff (hreach : Reachable p ctx s) (hfill : fill ∈ s.fills)
    (htrade : fill.exchangeTradeId.isSome) (hnew : Redelivers fill new) :
    Recognised p ctx s fill new ↔ OpenForFills s fill.orderId := by
  have hwf := hreach.wellFormed
  obtain ⟨order, horder⟩ := exists_order_of_fill hwf hfill
  have hfind := findTrade_of_mem hwf hfill htrade
  have hcall : MemoryStore.createFill p ctx new s =
      if order.status ∈ terminalOrderStatuses then (⟨.invalid, none⟩, s)
      else (⟨.conflict, some fill⟩, s) := by
    simp only [MemoryStore.createFill, hnew.order, hnew.trade, horder, hfind]
  constructor
  · intro hrecognised other hother hterminal
    obtain rfl := Option.some.inj (horder.symm.trans hother)
    rw [if_pos hterminal, hrecognised.stored] at hcall
    cases congrArg (fun answer => answer.1.outcome) hcall
  · intro hopen
    rw [if_neg (hopen order horder)] at hcall
    exact ⟨hcall, fun body hrequest => respond_of_refused hrequest hcall (by simp)⟩

end Recognition

section FilledOrder

def twoUnits : Numeral := ⟨"2", 2, by decide +kernel⟩

/-- The purchase is made and one unit of it is filled. -/
def purchaseFilled (qty : Numeral) : MemoryStore :=
  runCalls .counting .default [.createOrder (purchase qty), .createFill oneUnitTrade]
    (MemoryStore.withIntent .counting (Execution.oneUnitIntent "upbit" "bithumb"))

theorem reachable_purchaseFilled (qty : Numeral) :
    Reachable .counting .default (purchaseFilled qty) :=
  reachable_runCalls (reachable_withIntent _ _ _) _

/-- What is recorded is the trade. -/
theorem redelivers_oneUnitTrade {qty : Numeral}
    (hfills : ((purchaseFilled qty).fills.map fun fill => (fill.orderId, fill.exchangeTradeId)) =
      [(oneUnitTrade.orderId, oneUnitTrade.exchangeTradeId)]) :
    ∃ fill ∈ (purchaseFilled qty).fills, fill.exchangeTradeId.isSome ∧
      Redelivers fill oneUnitTrade := by
  obtain ⟨fill, hfill, hkey⟩ := List.mem_map.mp (hfills ▸ List.mem_singleton.mpr rfl)
  obtain ⟨horder, htrade⟩ := Prod.mk.inj hkey
  exact ⟨fill, hfill, by rw [htrade]; rfl, horder.symm, htrade.symm⟩

/-- A purchase of two units takes fills after the first, and the trade is recognised. -/
theorem recognised_partlyFilled :
    let s := purchaseFilled twoUnits
    ∃ fill ∈ s.fills, Recognised .counting .default s fill oneUnitTrade := by
  obtain ⟨fill, hfill, htrade, hnew⟩ :=
    @redelivers_oneUnitTrade twoUnits (by decide +kernel)
  refine ⟨fill, hfill, (recognised_redelivered_iff (reachable_purchaseFilled _) hfill htrade
    hnew).mpr ?_⟩
  have hopen : ((purchaseFilled twoUnits).findOrder oneUnitTrade.orderId).all
      (·.status ∉ terminalOrderStatuses) = true := by decide +kernel
  intro order horder
  rw [← hnew.order] at horder
  simpa [horder] using hopen

/-- A purchase of one unit is filled by the trade, which is not recognised then. -/
theorem not_recognised_filled :
    ¬ ∀ (p : Platform) (ctx : DecimalContext) (s : MemoryStore) (fill : Fill) (new : NewFill),
      Reachable p ctx s → fill ∈ s.fills → fill.exchangeTradeId.isSome → Redelivers fill new →
        Recognised p ctx s fill new := by
  intro hall
  obtain ⟨fill, hfill, htrade, hnew⟩ := @redelivers_oneUnitTrade .one (by decide +kernel)
  have hrecognised := hall _ _ _ fill _ (reachable_purchaseFilled .one) hfill htrade hnew
  have houtcome : (MemoryStore.createFill .counting .default oneUnitTrade
      (purchaseFilled .one)).1.outcome = .conflict :=
    congrArg (fun answer => answer.1.outcome) hrecognised.stored
  revert houtcome
  decide +kernel

end FilledOrder

end TradingPlatform.Routes

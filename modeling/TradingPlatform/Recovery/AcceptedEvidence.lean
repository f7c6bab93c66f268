import TradingPlatform.Foundation.TextCase
import TradingPlatform.Recovery.Handoff

/-! # Evidence that is taken for well formed

The checks of a trace read its evidence as lists without repetitions. They know
some order statuses and no instant to come.
-/

namespace TradingPlatform.Recovery

/-- The checks of a trace take its evidence for well formed. -/
structure AcceptedEvidence (trace : Dict) (now : Int) : Prop where
  orderIds : evidenceUnread trace observedStringIds "reconciliation_observed_order_ids" = false
  fillIds : evidenceUnread trace observedStringIds "reconciliation_observed_fill_ids" = false
  orderStatuses :
    evidenceUnread trace observedOrderStatuses "reconciliation_observed_order_statuses" = false
  balances : evidenceUnread trace observedBalances "reconciliation_observed_balances" = false
  observedAt : trace.get "reconciliation_observed_at" ≠ .null →
    ∃ instant ≤ now, parseIsoDatetime (trace.get "reconciliation_observed_at") = some instant

/-- A trace with accepted evidence is not handed over for it. -/
theorem AcceptedEvidence.invalidEvidenceHandoffReason {trace : Dict} {now : Int}
    (haccepted : AcceptedEvidence trace now) : invalidEvidenceHandoffReason trace = none := by
  unfold Recovery.invalidEvidenceHandoffReason
  dsimp only
  split
  · rfl
  · simp only [failedFields, haccepted.orderIds, haccepted.fillIds, haccepted.orderStatuses,
      haccepted.balances]
    rfl

section Lists

variable {α β κ : Type} {read : Json → Option α} {key : α → κ} {k : β → κ}

/-- A list whose items have distinct keys is read when each of them is. -/
theorem exists_readsAs_iff {items : List β} {json : β → Json} {valid : β → Prop}
    (hvalid : ∀ b ∈ items, valid b → ∃ a, read (json b) = some a ∧ key a = k b)
    (hinvalid : ∀ b ∈ items, ¬ valid b → read (json b) = none) (hunique : (items.map k).Nodup) :
    (∃ as, ReadsAs read key (.arr (items.map json)) as) ↔ ∀ b ∈ items, valid b := by
  constructor
  · intro hreads b hb
    obtain ⟨as, ⟨others, hothers, hread⟩, -⟩ := hreads
    obtain rfl := Json.arr.inj hothers
    by_contra hnot
    have hnone : none ∈ (items.map json).map read :=
      List.mem_map.mpr ⟨json b, List.mem_map_of_mem hb, hinvalid b hb hnot⟩
    rw [hread] at hnone
    simp at hnone
  · intro hall
    have hexists : ∃ as : List α,
        (items.map json).map read = as.map some ∧ as.map key = items.map k := by
      clear hinvalid hunique
      induction items with
      | nil => exact ⟨[], rfl, rfl⟩
      | cons b rest ih =>
          obtain ⟨a, ha, hkey⟩ := hvalid b List.mem_cons_self (hall b List.mem_cons_self)
          obtain ⟨as, has, hkeys⟩ := ih
            (fun other hother => hvalid other (List.mem_cons_of_mem _ hother))
            (fun other hother => hall other (List.mem_cons_of_mem _ hother))
          refine ⟨a :: as, ?_, ?_⟩
          · rw [List.map_cons, List.map_cons, ha, has, List.map_cons]
          · rw [List.map_cons, hkey, hkeys, List.map_cons]
    obtain ⟨as, hread, hkeys⟩ := hexists
    refine ⟨as, ⟨_, rfl, hread⟩, ?_⟩
    rw [hkeys]
    exact hunique

theorem evidenceUnread_eq_false_iff [DecidableEq κ] {trace : Dict} {field : String}
    {items : List Json} (hfield : trace.get field = .arr items) :
    evidenceUnread trace (observedList read key) field = false ↔
      ∃ as, ReadsAs read key (.arr items) as := by
  unfold evidenceUnread
  rw [hfield]
  cases hread : observedList read key (.arr items) with
  | none =>
      refine iff_of_false (by simp [isNull]) ?_
      rintro ⟨as, has⟩
      rw [observedList_eq_some_iff.mpr has] at hread
      simp at hread
  | some as => exact iff_of_true (by simp) ⟨as, observedList_eq_some_iff.mp hread⟩

theorem evidenceUnread_null {read : Json → Option (List α)} {trace : Dict} {field : String}
    (hfield : trace.get field = .null) : evidenceUnread trace read field = false := by
  simp [evidenceUnread, hfield, isNull]

end Lists

section Rows

theorem observedText_of_plain {text : String} (hstrip : Text.strip text = text) (hne : text ≠ "") :
    observedText (.str text) = some text := by
  simp [observedText, nonBlank, hstrip, hne]

theorem ids_read {trace : Dict} {field : String} {ids : List String}
    (hfield : trace.get field = .arr (ids.map .str)) (hunique : ids.Nodup)
    (hplain : ∀ text ∈ ids, Text.strip text = text ∧ text ≠ "") :
    evidenceUnread trace observedStringIds field = false := by
  apply (evidenceUnread_eq_false_iff hfield).mpr
  refine ⟨ids, ⟨_, rfl, ?_⟩, by rwa [List.map_id]⟩
  rw [List.map_map]
  apply List.map_congr_left
  intro text htext
  obtain ⟨hstrip, hne⟩ := hplain text htext
  rw [Function.comp_apply, observedText_of_plain hstrip hne]

def statusJson (status : ObservedOrderStatus) : Json :=
  .obj [("order_id", .str status.orderId), ("status", .str status.status)]

/-- A status in the form it is written in: no blanks, lower case, of an order. -/
structure PlainStatus (status : ObservedOrderStatus) : Prop where
  orderId : Text.strip status.orderId = status.orderId
  named : status.orderId ≠ ""
  status : Text.lower (Text.strip status.status) = status.status

theorem observedOrderStatus_statusJson {status : ObservedOrderStatus}
    (hplain : PlainStatus status) :
    observedOrderStatus (statusJson status) =
      if status.status ∈ knownOrderStatuses then some status else none := by
  have hblank : "" ∉ knownOrderStatuses := by decide
  simp only [observedOrderStatus, statusJson, Dict.get, Dict.get?_cons, if_true, Option.getD_some]
  rw [if_neg (by decide : "status" ≠ "order_id")]
  simp only [Option.getD_some, hplain.orderId, hplain.status, hplain.named, false_or]
  by_cases hknown : status.status ∈ knownOrderStatuses
  · rw [if_neg, if_pos hknown]
    rintro (hempty | hunknown)
    · rw [hempty] at hknown
      exact hblank hknown
    · exact hunknown hknown
  · rw [if_pos (Or.inr hknown), if_neg hknown]

/-- Statuses of distinct orders are read exactly when all of them are known. -/
theorem statuses_read_iff {trace : Dict} {statuses : List ObservedOrderStatus}
    (hfield : trace.get "reconciliation_observed_order_statuses" = .arr (statuses.map statusJson))
    (hunique : (statuses.map ObservedOrderStatus.orderId).Nodup)
    (hplain : ∀ status ∈ statuses, PlainStatus status) :
    evidenceUnread trace observedOrderStatuses "reconciliation_observed_order_statuses" = false ↔
      ∀ status ∈ statuses, status.status ∈ knownOrderStatuses := by
  refine (evidenceUnread_eq_false_iff hfield).trans (exists_readsAs_iff ?_ ?_ hunique)
  · intro status hstatus hknown
    rw [observedOrderStatus_statusJson (hplain status hstatus), if_pos hknown]
    exact ⟨status, rfl, rfl⟩
  · intro status hstatus hunknown
    rw [observedOrderStatus_statusJson (hplain status hstatus), if_neg hunknown]

/-- A balance in the form it is written in. -/
structure BalanceRow where
  exchangeName : String
  asset : String
  free : String
  locked : String

namespace BalanceRow

def json (row : BalanceRow) : Json :=
  .obj [("exchange_name", .str row.exchangeName), ("asset", .str row.asset),
    ("free", .str row.free), ("locked", .str row.locked)]

def key (row : BalanceRow) : String × String := (row.exchangeName, row.asset)

/-- The text denotes a number that is not negative. -/
def IsAmount (text : String) : Prop := ∃ d, Decimal.ofText? text = some d ∧ 0 ≤ d.value

structure Plain (row : BalanceRow) : Prop where
  exchangeName : Text.strip row.exchangeName = row.exchangeName
  named : row.exchangeName ≠ ""
  asset : Text.upper (Text.strip row.asset) = row.asset
  free : IsAmount row.free
  locked : IsAmount row.locked

variable {row : BalanceRow}

theorem observedBalance_json (hplain : row.Plain) (hasset : row.asset ≠ "") :
    ∃ balance, observedBalance row.json = some balance ∧ balance.key = row.key := by
  obtain ⟨free, hfree, hfreePos⟩ := hplain.free
  obtain ⟨locked, hlocked, hlockedPos⟩ := hplain.locked
  have hstrip : Text.strip row.asset ≠ "" := by
    intro hblank
    have hsame := hplain.asset
    rw [hblank] at hsame
    exact hasset (hsame.symm.trans (by decide))
  refine ⟨⟨row.exchangeName, row.asset, free, locked⟩, ?_, rfl⟩
  simp [observedBalance, json, Dict.get, Dict.get?_cons, parseDecimal, hfree, hlocked,
    hplain.exchangeName, hplain.named, hplain.asset, hstrip, not_lt.mpr hfreePos,
    not_lt.mpr hlockedPos]

theorem observedBalance_nameless (hasset : row.asset = "") : observedBalance row.json = none := by
  have hblank : Text.strip "" = "" := by decide
  simp only [observedBalance, json, Dict.get, Dict.get?_cons, hasset]
  split
  next exchangeName asset free locked hexchange hname hfree hlocked =>
    have hempty : asset = "" := (Json.str.inj hname).symm
    rw [if_pos]
    rw [hempty, hblank]
    exact Or.inr (Or.inl rfl)
  next => rfl

/-- Balances of distinct assets are read exactly when each asset has a name. -/
theorem read_iff {trace : Dict} {rows : List BalanceRow}
    (hfield : trace.get "reconciliation_observed_balances" = .arr (rows.map json))
    (hunique : (rows.map key).Nodup) (hplain : ∀ row ∈ rows, row.Plain) :
    evidenceUnread trace observedBalances "reconciliation_observed_balances" = false ↔
      ∀ row ∈ rows, row.asset ≠ "" := by
  refine (evidenceUnread_eq_false_iff hfield).trans (exists_readsAs_iff ?_ ?_ hunique)
  · exact fun row hrow hasset => observedBalance_json (hplain row hrow) hasset
  · exact fun row _ hnot => observedBalance_nameless (not_not.mp hnot)

end BalanceRow

end Rows

end TradingPlatform.Recovery

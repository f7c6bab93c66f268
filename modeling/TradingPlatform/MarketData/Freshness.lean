import TradingPlatform.Foundation.Raises
import TradingPlatform.Foundation.Request

/-! # The instant a snapshot is dated by

A snapshot may name several instants; the one it is dated by tells how old it is
and which of two snapshots is the newer one. An instant that leaves the years of
the calendar once it is taken to UTC raises.
-/

namespace TradingPlatform.MarketData

section Instants

/-- An ISO text in UTC; other values and texts give nothing. -/
def normalizeIsoText : Json → Except HostError (Option String)
  | .str value =>
      let text := Text.strip value
      if text = "" then .ok none
      else
        match Datetime.instant? (zuluText text) with
        | some instant => .ok (some (Datetime.isoText instant))
        | none =>
            if (Datetime.fromIsoFormat (zuluText text)).isSome then
              .error (.other "date value out of range")
            else .ok none
  | _ => .ok none

def chooseFreshnessObservedAt (snapshot : Dict) (fallbackNow : String) :
    Except HostError (String × String) := do
  let explicitSource := Text.strip (snapshot.get "freshness_observed_at_source").textOrEmpty
  match ← normalizeIsoText (snapshot.get "freshness_observed_at") with
  | some observedAt =>
      return (observedAt, if explicitSource = "" then "explicit" else explicitSource)
  | none =>
      let exchange := normalizedText (snapshot.get "exchange")
      let sourceType := normalizedText (snapshot.get "source_type")
      let exchangeTimestamp ← normalizeIsoText (snapshot.get "exchange_timestamp")
      let receivedAt ← normalizeIsoText (snapshot.get "received_at")
      return match exchangeTimestamp, receivedAt with
        | some timestamp, some received =>
            if exchange = "coinone" ∧ sourceType = "public_ws" then (received, "received_at")
            else (timestamp, "exchange_timestamp")
        | some timestamp, none => (timestamp, "exchange_timestamp")
        | none, some received => (received, "received_at")
        | none, none => (fallbackNow, "fallback_now")

def snapshotSortDatetime (snapshot : Option Dict) (isoNow : String) :
    Except HostError (Option Int) :=
  match snapshot with
  | none => .ok none
  | some fields => do
      let (observedAt, _) ← chooseFreshnessObservedAt fields isoNow
      return Datetime.instant? (zuluText observedAt)

end Instants

section Newer

/-- The newer of two snapshots; both are dated before they are compared. -/
def newerSnapshot (left right : Option Dict) (isoNow : String) :
    Except HostError (Option Dict) := do
  let leftTime ← snapshotSortDatetime left isoNow
  let rightTime ← snapshotSortDatetime right isoNow
  return match left, right with
    | none, _ => right
    | _, none => left
    | some _, some _ =>
        match leftTime, rightTime with
        | none, _ => right
        | _, none => left
        | some leftTime, some rightTime => if rightTime ≤ leftTime then left else right

/-- A value that reads as an instant outside the calendar. -/
def OutOfCalendar (value : Json) : Prop := Raises (normalizeIsoText value)

/-- A snapshot that cannot be dated: its own date is outside the calendar, or it
gives none and one of its other instants is. -/
def Undatable (snapshot : Dict) : Prop :=
  OutOfCalendar (snapshot.get "freshness_observed_at") ∨
    normalizeIsoText (snapshot.get "freshness_observed_at") = .ok none ∧
      (OutOfCalendar (snapshot.get "exchange_timestamp") ∨
        OutOfCalendar (snapshot.get "received_at"))

theorem raises_chooseFreshnessObservedAt_iff {snapshot : Dict} {fallbackNow : String} :
    Raises (chooseFreshnessObservedAt snapshot fallbackNow) ↔ Undatable snapshot := by
  unfold chooseFreshnessObservedAt Undatable OutOfCalendar
  dsimp only
  rw [raises_bind_iff]
  refine or_congr Iff.rfl ?_
  have hothers : ∀ f : Option String → Option String → String × String,
      Raises (do
        let exchangeTimestamp ← normalizeIsoText (snapshot.get "exchange_timestamp")
        let receivedAt ← normalizeIsoText (snapshot.get "received_at")
        return f exchangeTimestamp receivedAt) ↔
      Raises (normalizeIsoText (snapshot.get "exchange_timestamp")) ∨
        Raises (normalizeIsoText (snapshot.get "received_at")) := by
    intro f
    exact raises_bind_iff_or fun timestamp => raises_bind_pure_iff
  constructor
  · rintro ⟨explicit, hexplicit, hraises⟩
    cases explicit with
    | some observedAt => exact absurd hraises (not_raises_pure _)
    | none => exact ⟨hexplicit, (hothers _).mp hraises⟩
  · rintro ⟨hexplicit, hraises⟩
    exact ⟨none, hexplicit, (hothers _).mpr hraises⟩

theorem raises_snapshotSortDatetime_iff {snapshot : Option Dict} {isoNow : String} :
    Raises (snapshotSortDatetime snapshot isoNow) ↔ ∃ fields ∈ snapshot, Undatable fields := by
  cases snapshot with
  | none => simp [snapshotSortDatetime]
  | some fields =>
      simp only [snapshotSortDatetime, Option.mem_def, Option.some.injEq, exists_eq_left']
      exact raises_bind_pure_iff.trans raises_chooseFreshnessObservedAt_iff

/-- Two snapshots cannot be compared when one of them cannot be dated. -/
theorem raises_newerSnapshot_iff {left right : Option Dict} {isoNow : String} :
    Raises (newerSnapshot left right isoNow) ↔
      (∃ fields ∈ left, Undatable fields) ∨ ∃ fields ∈ right, Undatable fields := by
  unfold newerSnapshot
  rw [raises_bind_iff_or, raises_snapshotSortDatetime_iff]
  intro leftTime
  exact raises_bind_pure_iff.trans raises_snapshotSortDatetime_iff

end Newer

end TradingPlatform.MarketData

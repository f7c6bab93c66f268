import Mathlib.Data.List.Dedup
import TradingPlatform.Execution.ResponseOrders
import TradingPlatform.Recovery.Evidence
import TradingPlatform.Storage.Reads

/-! # Reasons to hand a recovery trace over

The checks a trace goes through before it may be resolved. Each looks at the
trace's reconciliation fields, its intent or its linked unwind order, and gives
the reason and summary the trace is handed over with.
-/

namespace TradingPlatform.Recovery

open Storage

/-- Why a trace is handed over; the timeout of the whole recovery has no summary. -/
structure Handoff where
  reason : String
  summary : Option String
deriving DecidableEq, Repr

/-- Limits of the recovery runtime, in seconds and in mismatches. -/
structure RecoverySettings where
  handoffAfterSeconds : Int
  submitTimeoutSeconds : Int
  mismatchHandoffCount : Int
  staleAfterSeconds : Int
  handoffAfter_nonneg : 0 ≤ handoffAfterSeconds
  submitTimeout_pos : 0 < submitTimeoutSeconds
  mismatchHandoff_pos : 0 < mismatchHandoffCount
  staleAfter_pos : 0 < staleAfterSeconds

/-- Configured limits, raised to the least ones allowed. -/
def RecoverySettings.ofConfig (handoffAfter submitTimeout mismatchHandoff staleAfter : Int) :
    RecoverySettings where
  handoffAfterSeconds := max handoffAfter 0
  submitTimeoutSeconds := max submitTimeout 1
  mismatchHandoffCount := max mismatchHandoff 1
  staleAfterSeconds := max staleAfter 1
  handoffAfter_nonneg := by omega
  submitTimeout_pos := by omega
  mismatchHandoff_pos := by omega
  staleAfter_pos := by omega

def terminalOrderStatuses : List String := ["filled", "cancelled", "rejected", "expired", "failed"]

def terminalFailureOrderStatuses : List String := ["cancelled", "rejected", "expired", "failed"]

/-- A row's status in the form statuses are compared in. -/
def normalizedStatus (status : String) : String := Text.lower (Text.strip status)

def sortedTexts (texts : List String) : List String := texts.dedup.insertionSort (· ≤ ·)

theorem sortedTexts_eq_nil {texts : List String} : sortedTexts texts = [] ↔ texts = [] := by
  simp [List.eq_nil_iff_forall_not_mem, sortedTexts]

/-- Whole seconds from an instant to now, none for an instant to come. -/
def ageSeconds (now instant : Int) : Int := max 0 ((now - instant) / Datetime.microsPerSecond)

section Trace

variable (trace : Dict)

def reconciliationResult : String := normalizedText (trace.get "reconciliation_result")

def openOrderCount : Option Int := parseInt (trace.get "reconciliation_open_order_count")

def reconciliationResidual : Option Decimal :=
  parseDecimal (trace.get "reconciliation_residual_exposure_quote")

/-- Reconciliation reports a match with no open order and no residual. -/
def matchedWithoutResidual : Bool :=
  reconciliationResult trace = "matched" && openOrderCount trace = some 0 &&
    (reconciliationResidual trace).map Decimal.value = some 0

/-- The unwind action a trace is linked to, else the intent it was opened for. -/
def traceIntentId : String :=
  let linkedUnwindActionId := Text.strip (trace.get "linked_unwind_action_id").textOrEmpty
  if linkedUnwindActionId = "" then Text.strip (trace.get "intent_id").textOrEmpty
  else linkedUnwindActionId

def linkedUnwindOrderId : String := Text.strip (trace.get "linked_unwind_order_id").textOrEmpty

end Trace

section Reconciliation

variable (trace : Dict)

/-- The names of the fields whose checks fail. -/
def failedFields (checks : List (String × Bool)) : List String :=
  (checks.filter fun check => check.2).map Prod.fst

def invalidResultHandoffReason (now : Int) : Option Handoff :=
  let invalid (summary : String) : Handoff := ⟨"reconciliation_result_invalid", some summary⟩
  let result := reconciliationResult trace
  if result ≠ "matched" ∧ result ≠ "mismatch" then
    if !trace.has "reconciliation_result" && result = "" then
      if trace.any fun entry => Text.startsWith "reconciliation_" entry.1 &&
          entry.1 ≠ "reconciliation_result" then
        some (invalid "reconciliation result is missing while reconciliation fields are present")
      else none
    else some (invalid "reconciliation result contains invalid result value")
  else
    let streak := trace.get "reconciliation_mismatch_streak"
    let fields := failedFields [
      ("open_order_count", isBool (trace.get "reconciliation_open_order_count") ||
        !(openOrderCount trace).any (0 ≤ ·)),
      ("residual_exposure_quote", !(reconciliationResidual trace).any (0 ≤ ·.value)),
      ("observed_at", !isNull (trace.get "reconciliation_observed_at") &&
        !(parseIsoDatetime (trace.get "reconciliation_observed_at")).any (· ≤ now)),
      ("mismatch_streak", result = "mismatch" && trace.has "reconciliation_mismatch_streak" &&
        (isBool streak || !(parseInt streak).any (0 ≤ ·)))]
    if fields = [] then none
    else some (invalid ("reconciliation result contains invalid core fields: " ++
      Text.join ", " fields))

/-- The date of a reconciliation that is checked is outside the calendar. -/
def observationOverflows : Bool :=
  (reconciliationResult trace = "matched" || reconciliationResult trace = "mismatch") &&
    isoOverflows (trace.get "reconciliation_observed_at")

def staleHandoffReason (settings : RecoverySettings) (now : Int) : Option Handoff :=
  if !matchedWithoutResidual trace then none
  else
    match parseIsoDatetime (trace.get "reconciliation_observed_at") with
    | none => some ⟨"reconciliation_observation_missing",
        some "reconciliation matched result is missing observation timestamp"⟩
    | some observedAt =>
        if ageSeconds now observedAt < settings.staleAfterSeconds then none
        else some ⟨"reconciliation_observation_stale",
          some "reconciliation matched result is older than automatic resolution threshold"⟩

/-- A field that is present and not null but whose list is not read. -/
def evidenceUnread {α : Type} (read : Json → Option (List α)) (key : String) : Bool :=
  !isNull (trace.get key) && (read (trace.get key)).isNone

def invalidEvidenceHandoffReason : Option Handoff :=
  let result := reconciliationResult trace
  if (result ≠ "matched" ∧ result ≠ "mismatch") ∨ openOrderCount trace = none ∨
      reconciliationResidual trace = none then none
  else
    let fields := failedFields [
      ("observed_order_ids",
        evidenceUnread trace observedStringIds "reconciliation_observed_order_ids"),
      ("observed_fill_ids",
        evidenceUnread trace observedStringIds "reconciliation_observed_fill_ids"),
      ("observed_order_statuses",
        evidenceUnread trace observedOrderStatuses "reconciliation_observed_order_statuses"),
      ("observed_balances",
        evidenceUnread trace observedBalances "reconciliation_observed_balances")]
    if fields = [] then none
    else some ⟨"reconciliation_evidence_invalid",
      some ("reconciliation matched result contains invalid evidence fields: " ++
        Text.join ", " fields)⟩

/-- A list was observed and it is not empty. -/
def hasItems {α : Type} (items : Option (List α)) : Bool := items.any (!·.isEmpty)

def evidenceHandoffReason : Option Handoff :=
  if !matchedWithoutResidual trace then none
  else if hasItems (observedStringIds (trace.get "reconciliation_observed_fill_ids")) ||
      hasItems (observedOrderStatuses (trace.get "reconciliation_observed_order_statuses")) ||
      hasItems (observedBalances (trace.get "reconciliation_observed_balances")) then none
  else some ⟨"reconciliation_evidence_missing",
    some "reconciliation matched result is missing fill, status, or balance evidence"⟩

/-- The order statuses a trace observed; none where they are missing or not read. -/
def observedStatuses : List String :=
  ((observedOrderStatuses (trace.get "reconciliation_observed_order_statuses")).getD []).map
    (normalizedStatus ·.status)

def statusHandoffReason : Option Handoff :=
  if !matchedWithoutResidual trace then none
  else
    let failures := sortedTexts ((observedStatuses trace).filter
      (· ∈ terminalFailureOrderStatuses))
    let nonterminal := sortedTexts ((observedStatuses trace).filter (· ∉ terminalOrderStatuses))
    if failures ≠ [] then
      some ⟨"reconciliation_terminal_failure_status_conflict",
        some ("reconciliation matched result conflicts with terminal failure order statuses: " ++
          Text.join ", " failures)⟩
    else if nonterminal ≠ [] then
      some ⟨"reconciliation_open_order_status_conflict",
        some ("reconciliation matched result conflicts with non-terminal observed order " ++
          "statuses: " ++ Text.join ", " nonterminal)⟩
    else none

def resolutionReason : Option String :=
  if matchedWithoutResidual trace then some "reconciliation_matched_zero_residual" else none

def mismatchHandoffReason (settings : RecoverySettings) : Option Handoff :=
  if reconciliationResult trace ≠ "mismatch" then none
  else
    let statuses := observedStatuses trace
    let nonterminal := sortedTexts (statuses.filter (· ∉ terminalOrderStatuses))
    if (parseInt (trace.get "reconciliation_mismatch_streak")).any
        (settings.mismatchHandoffCount ≤ ·) then
      some ⟨"reconciliation_mismatch_repeated",
        some "reconciliation mismatch repeated beyond automatic recovery threshold"⟩
    else
      match openOrderCount trace with
      | none => none
      | some count =>
          let covered := 0 < count ∧ statuses ≠ [] ∧ count ≤ statuses.length
          if covered ∧ ∀ status ∈ statuses, status ∈ terminalFailureOrderStatuses then
            some ⟨"reconciliation_open_orders_terminal_failure",
              some ("reconciliation reports open orders but observed order statuses are all " ++
                "terminal failures")⟩
          else if covered ∧ ∀ status ∈ statuses, status ∈ terminalOrderStatuses then
            some ⟨"reconciliation_open_orders_terminal_status_conflict",
              some ("reconciliation reports open orders but observed order statuses are all " ++
                "terminal")⟩
          else if count < 0 then none
          else if count = 0 ∧ nonterminal ≠ [] then
            some ⟨"reconciliation_zero_open_orders_status_conflict",
              some ("reconciliation reports no open orders but observed order statuses are " ++
                "non-terminal: " ++ Text.join ", " nonterminal)⟩
          else
            match (reconciliationResidual trace).map Decimal.value with
            | none => none
            | some residual =>
                if count = 0 ∧ residual = 0 then
                  some ⟨"reconciliation_mismatch_zero_residual_conflict",
                    some ("reconciliation reports mismatch even though no open orders or " ++
                      "residual exposure remain")⟩
                else if count = 0 ∧ 0 < residual then
                  some ⟨"reconciliation_mismatch_residual_without_orders",
                    some "reconciliation reports no open orders while residual exposure remains"⟩
                else none

end Reconciliation

section Balances

variable (reads : ReadStore) (trace : Dict)

/-- The intent of a trace, when it names one the store has. -/
def traceIntent : Option OrderIntent :=
  if traceIntentId trace = "" then none else reads.getOrderIntent (traceIntentId trace)

def relevantExchanges : List String :=
  match traceIntent reads trace with
  | none => []
  | some intent =>
      (([intent.buyExchange, intent.sellExchange].map Text.strip).filter (· ≠ "")).dedup

/-- The parts of a text between separators, those that are blank left out. -/
def nonBlankParts (separator : Char) (text : String) : List String :=
  ((Text.split separator text).map Text.strip).filter (· ≠ "")

/-- The two assets a market is made of. -/
def relevantAssetsFromMarket (market : String) : List String :=
  let normalized := Text.upper (Text.strip market)
  if (nonBlankParts '-' normalized).length = 2 then nonBlankParts '-' normalized
  else if (nonBlankParts '/' normalized).length = 2 then nonBlankParts '/' normalized
  else []

def relevantAssets : List String :=
  match traceIntent reads trace with
  | none => []
  | some intent => relevantAssetsFromMarket intent.market

abbrev BalanceKey := String × String

def balanceKeyTexts (keys : List BalanceKey) : String :=
  let sorted := keys.dedup.insertionSort fun a b => a.1 < b.1 ∨ a.1 = b.1 ∧ a.2 ≤ b.2
  Text.join ", " (sorted.map fun key => if key.2 = "" then key.1 else key.1 ++ ":" ++ key.2)

/-- The key a balance is compared under. -/
def relevantKey (balance : ObservedBalance) : BalanceKey :=
  (Text.strip balance.exchangeName, Text.upper (Text.strip balance.asset))

def balanceHandoffReason : Option Handoff :=
  if !matchedWithoutResidual trace then none
  else
    let exchanges := relevantExchanges reads trace
    let assets := relevantAssets reads trace
    let required : List BalanceKey := exchanges.flatMap fun exchange => assets.map (exchange, ·)
    let balances := (observedBalances (trace.get "reconciliation_observed_balances")).getD []
    let relevant := balances.filter fun balance =>
      (relevantKey balance).1 ∈ exchanges && (relevantKey balance).2 ∈ assets
    let missing := required.filter (· ∉ relevant.map relevantKey)
    let locked := relevant.filter fun balance => 0 < balance.locked.value
    if exchanges.length < 2 then
      some ⟨"reconciliation_context_missing",
        some "reconciliation matched result is missing complete intent exchange context"⟩
    else if assets = [] then
      some ⟨"reconciliation_market_context_missing",
        some "reconciliation matched result is missing intent market asset context"⟩
    else if missing ≠ [] then
      some ⟨"reconciliation_balance_evidence_incomplete",
        some ("reconciliation matched result is missing observed balances for exchange/assets: " ++
          balanceKeyTexts missing)⟩
    else if locked ≠ [] then
      some ⟨"reconciliation_balance_locked",
        some ("reconciliation matched result still has locked balances: " ++
          Text.join ", " (locked.map fun balance => balance.exchangeName ++ ":" ++ balance.asset ++
            " locked=" ++ balance.locked.print))⟩
    else none

end Balances

section Unwind

variable (reads : ReadStore) (trace : Dict)

/-- The status of the linked unwind order, when the store has the order. -/
def linkedUnwindOrder : Option Order :=
  if linkedUnwindOrderId trace = "" then none
  else reads.getOrderDetail (linkedUnwindOrderId trace)

def unwindTerminalFailureHandoff : Option Handoff :=
  (linkedUnwindOrder reads trace).bind fun order =>
    let status := normalizedStatus order.status
    if status ∈ terminalFailureOrderStatuses then
      some ⟨"unwind_order_terminal_without_resolution",
        some ("linked unwind order became terminal without resolution: " ++ status)⟩
    else none

/-- The instant an order was last heard of. -/
def orderObservedAt (order : Order) : Option Int :=
  ((parseIsoDatetime (.str order.updatedAt)).or (parseIsoDatetime (.str order.submittedAt))).or
    (parseIsoDatetime (.str order.createdAt))

/-- The linked unwind order is open, and dating it leaves the calendar. -/
def unwindDateOverflows : Bool :=
  (linkedUnwindOrder reads trace).any fun order =>
    normalizedStatus order.status ∉ terminalOrderStatuses &&
      datesOverflow [.str order.updatedAt, .str order.submittedAt, .str order.createdAt]

def unwindStaleHandoff (settings : RecoverySettings) (now : Int) : Option Handoff :=
  (linkedUnwindOrder reads trace).bind fun order =>
    let status := normalizedStatus order.status
    if status ∈ terminalOrderStatuses then none
    else
      (orderObservedAt order).bind fun observedAt =>
        let age := ageSeconds now observedAt
        if age < settings.submitTimeoutSeconds then none
        else some ⟨"unwind_order_timeout_exceeded",
          some ("linked unwind order remained non-terminal beyond submit timeout: status=" ++
            status ++ " age_seconds=" ++ toString age)⟩

end Unwind

end TradingPlatform.Recovery

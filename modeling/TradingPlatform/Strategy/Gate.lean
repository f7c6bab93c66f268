import TradingPlatform.Strategy.Models

/-! # Gate checks

The nine checks an evaluation makes before it sizes an order, and the reason
code of the first one that fails.
-/

namespace TradingPlatform.Strategy

/-- The binary float nearest to a number: 53 significant bits, ties to even. -/
def nearestFloat (q : ℚ) : ℚ :=
  if q = 0 then 0
  else
    let ulp : ℚ := (2 : ℚ) ^ (Int.log 2 |q| + 1 - 53)
    roundHalfEven (q / ulp) * ulp

/-- Milliseconds of a span of microseconds: its seconds as a float, times a thousand,
truncated toward zero. A span of whole milliseconds may lose one. -/
def spanMs (span : Int) : Int :=
  let milliseconds := nearestFloat (nearestFloat (span / 1000000) * 1000)
  milliseconds.num.tdiv milliseconds.den

def ageMs (now observedAt : Int) : Int := max 0 (spanMs (now - observedAt))

def clockSkewMs (inputs : ArbitrageInputs) : Int :=
  |spanMs (inputs.baseOrderbook.observedAt - inputs.hedgeOrderbook.observedAt)|

/-- The two-sided age check shared by order books and balances. -/
def freshnessCheck (name : GateCheckName) (fresh : Bool) (baseAge hedgeAge : Int) :
    GateCheckResult where
  name := name
  passed := fresh
  detail := (if fresh then "ages=" else "stale ages=") ++
    toString baseAge ++ "/" ++ toString hedgeAge ++ "ms"

def orderbookFreshness (inputs : ArbitrageInputs) : GateCheckResult :=
  let baseAge := ageMs inputs.runtimeState.now inputs.baseOrderbook.observedAt
  let hedgeAge := ageMs inputs.runtimeState.now inputs.hedgeOrderbook.observedAt
  let limit := inputs.riskConfig.maxOrderbookAgeMs
  freshnessCheck .orderbookFreshness (baseAge ≤ limit && hedgeAge ≤ limit) baseAge hedgeAge

def balanceFreshness (inputs : ArbitrageInputs) : GateCheckResult :=
  let baseAge := ageMs inputs.runtimeState.now inputs.baseBalance.observedAt
  let hedgeAge := ageMs inputs.runtimeState.now inputs.hedgeBalance.observedAt
  let limit := inputs.riskConfig.maxBalanceAgeMs
  freshnessCheck .balanceFreshness
    (inputs.baseBalance.isFresh && inputs.hedgeBalance.isFresh &&
      baseAge ≤ limit && hedgeAge ≤ limit) baseAge hedgeAge

def quotePairLock (inputs : ArbitrageInputs) : GateCheckResult where
  name := .quotePairLock
  passed := clockSkewMs inputs ≤ inputs.riskConfig.maxClockSkewMs
  detail := "skew_ms=" ++ toString (clockSkewMs inputs)

def publicConnectorHealth (inputs : ArbitrageInputs) : GateCheckResult :=
  let healthy := inputs.baseOrderbook.connectorHealthy && inputs.hedgeOrderbook.connectorHealthy
  { name := .publicConnectorHealth
    passed := healthy
    detail := if healthy then "public connectors healthy" else "public connector degraded" }

def privateConnectorHealth (inputs : ArbitrageInputs) : GateCheckResult :=
  let healthy := inputs.runtimeState.connectorPrivateHealthy
  { name := .privateConnectorHealth
    passed := healthy
    detail := if healthy then "private connector healthy" else "private connector unhealthy" }

def unwindBlock (inputs : ArbitrageInputs) : GateCheckResult :=
  let unwinding := inputs.runtimeState.unwindInProgress
  { name := .unwindBlock
    passed := !unwinding
    detail := if unwinding then "recovery required" else "unwind not active" }

def openOrderCap (inputs : ArbitrageInputs) : GateCheckResult :=
  let state := inputs.runtimeState
  { name := .openOrderCap
    passed := state.openOrderCap ≤ 0 || state.openOrderCount < state.openOrderCap
    detail := toString state.openOrderCount ++ "/" ++ toString state.openOrderCap }

def duplicateIntent (inputs : ArbitrageInputs) : GateCheckResult :=
  let active := inputs.runtimeState.duplicateIntentActive
  { name := .duplicateIntent
    passed := !active
    detail := if active then "same symbol intent already active" else "no active duplicate intent" }

def reentryCooldown (inputs : ArbitrageInputs) : GateCheckResult :=
  let cooldownOk : Bool :=
    match inputs.runtimeState.recentUnwindAt with
    | none => true
    | some recentUnwindAt =>
        if 0 < inputs.riskConfig.reentryCooldownSeconds then
          inputs.riskConfig.reentryCooldownSeconds ≤
            (inputs.runtimeState.now - recentUnwindAt).tdiv 1000000
        else true
  { name := .reentryCooldown
    passed := cooldownOk
    detail := if cooldownOk then "cooldown ok" else "cooldown active" }

/-- The reason code reported for a failed check. -/
def failedCheckReason : GateCheckName → ReasonCode
  | .orderbookFreshness => .orderbookStale
  | .balanceFreshness => .balanceStale
  | .quotePairLock => .quotePairSkewTooHigh
  | .publicConnectorHealth => .publicConnectorDegraded
  | .privateConnectorHealth => .hedgeConfidenceTooLow
  | .reentryCooldown => .reentryCooldownActive
  | .duplicateIntent => .duplicateIntentBlocked
  | _ => .riskLimitBlocked

def gateChecks (inputs : ArbitrageInputs) : List GateCheckResult :=
  [orderbookFreshness inputs, balanceFreshness inputs, quotePairLock inputs,
    publicConnectorHealth inputs, privateConnectorHealth inputs, unwindBlock inputs,
    openOrderCap inputs, duplicateIntent inputs, reentryCooldown inputs]

/-- All checks in order, and the reason of the first failed one. -/
def validateGateConditions (inputs : ArbitrageInputs) :
    List GateCheckResult × Option ReasonCode :=
  (gateChecks inputs,
    ((gateChecks inputs).find? fun check => !check.passed).map
      fun check => failedCheckReason check.name)

/-- The gate gives no reason exactly when every check passes. -/
theorem validateGateConditions_reason_eq_none (inputs : ArbitrageInputs) :
    (validateGateConditions inputs).2 = none ↔
      ∀ check ∈ (validateGateConditions inputs).1, check.passed = true := by
  simp [validateGateConditions, List.find?_eq_none]

end TradingPlatform.Strategy

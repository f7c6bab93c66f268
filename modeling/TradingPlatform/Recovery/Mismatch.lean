import TradingPlatform.Recovery.MatchedEvidence

/-! # Resolving against a mismatch

A mismatch with open orders or a residual should keep its trace open. The step
looks at the mismatch once more before it falls through to the orders of the
store and the residual the trace names, and it lets some mismatches pass.
-/

namespace TradingPlatform.Recovery

open Storage Exchange

/-- Reconciliation found open orders or a residual. -/
def Mismatched (trace : Dict) : Prop :=
  reconciliationResult trace = "mismatch" ∧
    ((openOrderCount trace).any (0 < ·) ∨ (reconciliationResidual trace).any (0 < ·.value))

/-- The statuses a trace observed are those of all its open orders, and all are terminal. -/
def StatusesTerminal (trace : Dict) (count : Int) : Prop :=
  observedStatuses trace ≠ [] ∧ count ≤ (observedStatuses trace).length ∧
    ∀ status ∈ observedStatuses trace, status ∈ terminalOrderStatuses

instance (trace : Dict) (count : Int) : Decidable (StatusesTerminal trace count) :=
  inferInstanceAs (Decidable (_ ∧ _ ∧ _))

/-- A mismatch no check is concerned with: its fields are valid, it is young, it has
open orders that were not all seen terminal, and the linked unwind order has not
failed, can be dated and is not stale. -/
structure UnnoticedMismatch (c : TraceContext) (trace : Dict) : Prop where
  fields : invalidResultHandoffReason trace c.clock.resultChecked = none
  evidence : invalidEvidenceHandoffReason trace = none
  streak : ¬(parseInt (trace.get "reconciliation_mismatch_streak")).any
    (c.settings.mismatchHandoffCount ≤ ·)
  openOrders : ∃ count, openOrderCount trace = some count ∧ 0 < count ∧
    ¬StatusesTerminal trace count
  unwindLive : unwindTerminalFailureHandoff c.reads trace = none
  unwindDated : unwindDateOverflows c.reads trace = false
  unwindFresh : unwindStaleHandoff c.reads trace c.settings c.clock.unwindChecked = none

/-- What the last branch of a step looks at: no listed order is open, and the trace
names no residual. -/
structure SeemsFlat (orders : List Order) (trace : Dict) : Prop where
  orders : ∀ order ∈ orders, normalizedStatus order.status ∈ terminalOrderStatuses
  residual : (residualExposureQuote trace).map Decimal.value = some 0

/-- The checks made before a trace may be resolved without a match all pass. -/
structure PassesChecks (c : TraceContext) (trace : Dict) : Prop where
  noFailure : unwindFailureHandoff c trace = none
  dated : unwindDateOverflows c.reads trace = false
  fresh : unwindStaleHandoff c.reads trace c.settings c.clock.unwindChecked = none

section Verdict

variable {c : TraceContext} {orders : List Order} {trace : Dict}

theorem hasActiveOrders_eq_false : hasActiveOrders orders = false ↔
    ∀ order ∈ orders, normalizedStatus order.status ∈ terminalOrderStatuses := by
  simp [hasActiveOrders]

/-- A verdict to resolve is given on the match, or where the trace seems flat. -/
theorem traceVerdict_eq_resolved {reason : String} :
    traceVerdict c orders trace = .resolved reason ↔
      reconciliationHandoff c trace = none ∧
        ((matchedWithoutResidual trace = true ∧ reason = "reconciliation_matched_zero_residual") ∨
          (matchedWithoutResidual trace = false ∧ PassesChecks c trace ∧
            SeemsFlat orders trace ∧ reason = "no_active_orders_and_zero_residual")) := by
  unfold traceVerdict
  cases hhandoff : reconciliationHandoff c trace with
  | some handoff => split_ifs <;> simp
  | none =>
      rw [if_neg (by simp [observationOverflows_eq_false hhandoff])]
      cases hmatch : matchedWithoutResidual trace with
      | true => simp [resolutionReason, hmatch, eq_comm]
      | false =>
          simp only [resolutionReason, hmatch, Bool.false_eq_true, if_false, false_and, false_or,
            true_and]
          cases hfailure : unwindFailureHandoff c trace with
          | some handoff =>
              exact iff_of_false (by simp) fun h => by simpa [hfailure] using h.1.noFailure
          | none =>
              by_cases hdated : unwindDateOverflows c.reads trace = true
              · dsimp only
                rw [if_pos hdated]
                exact iff_of_false (by simp) fun h => by simpa [hdated] using h.1.dated
              · dsimp only
                rw [if_neg hdated]
                cases hstale : unwindStaleHandoff c.reads trace c.settings
                    c.clock.unwindChecked with
                | some handoff =>
                    exact iff_of_false (by simp) fun h => by simpa [hstale] using h.1.fresh
                | none =>
                    have hpasses : PassesChecks c trace :=
                      ⟨hfailure, Bool.eq_false_iff.mpr hdated, hstale⟩
                    by_cases hflat : SeemsFlat orders trace
                    · have hseems : (!hasActiveOrders orders) = true ∧
                          (residualExposureQuote trace).map Decimal.value = some 0 :=
                        ⟨by rw [hasActiveOrders_eq_false.mpr hflat.orders]; rfl, hflat.residual⟩
                      simp [hseems, hpasses, hflat, eq_comm]
                    · have hseems : ¬((!hasActiveOrders orders) = true ∧
                          (residualExposureQuote trace).map Decimal.value = some 0) :=
                        fun h => hflat ⟨hasActiveOrders_eq_false.mp (by simpa using h.1), h.2⟩
                      dsimp only
                      rw [if_neg hseems]
                      refine iff_of_false ?_ fun h => hflat h.2.1
                      split_ifs <;> simp

end Verdict

section Mismatch

variable {c : TraceContext} {trace : Dict}

theorem matchedWithoutResidual_of_mismatch (hresult : reconciliationResult trace = "mismatch") :
    matchedWithoutResidual trace = false := by
  simp [matchedWithoutResidual, hresult]

/-- Only the checks of fields and evidence concern a mismatch. -/
theorem reconciliationHandoff_of_mismatch (hresult : reconciliationResult trace = "mismatch") :
    reconciliationHandoff c trace = none ↔
      invalidResultHandoffReason trace c.clock.resultChecked = none ∧
        invalidEvidenceHandoffReason trace = none := by
  have hmatch := matchedWithoutResidual_of_mismatch hresult
  simp [reconciliationHandoff_eq_none, staleHandoffReason, evidenceHandoffReason,
    statusHandoffReason, balanceHandoffReason, hmatch]

/-- The core fields of a valid mismatch are numbers that are not negative. -/
theorem valid_mismatch {now : Int} (hresult : reconciliationResult trace = "mismatch")
    (hvalid : invalidResultHandoffReason trace now = none) :
    ∃ count residual, openOrderCount trace = some count ∧ 0 ≤ count ∧
      reconciliationResidual trace = some residual ∧ 0 ≤ residual.value := by
  simp only [invalidResultHandoffReason, hresult] at hvalid
  rw [if_neg (by decide)] at hvalid
  split_ifs at hvalid with hfields
  rw [failedFields_eq_nil] at hfields
  have hcount := hfields _ List.mem_cons_self
  have hresidual := hfields _ (List.mem_cons_of_mem _ List.mem_cons_self)
  simp only [Bool.or_eq_false_iff, Bool.not_eq_false', Option.any_eq_true, decide_eq_true_eq]
    at hcount hresidual
  obtain ⟨-, count, hsome, hcountNonneg⟩ := hcount
  obtain ⟨residual, hresidualSome, hresidualNonneg⟩ := hresidual
  exact ⟨count, residual, hsome, hcountNonneg, hresidualSome, hresidualNonneg⟩

theorem terminal_of_failure {status : String} (hfailure : status ∈ terminalFailureOrderStatuses) :
    status ∈ terminalOrderStatuses := List.mem_cons_of_mem _ hfailure

/-- A valid mismatch passes its own check while it is young and has open orders that
were not all seen terminal. -/
theorem mismatchHandoffReason_eq_none (hresult : reconciliationResult trace = "mismatch")
    {count : Int} {residual : Decimal} (hcount : openOrderCount trace = some count)
    (hcountNonneg : 0 ≤ count) (hresidual : reconciliationResidual trace = some residual)
    (hresidualNonneg : 0 ≤ residual.value) :
    mismatchHandoffReason trace c.settings = none ↔
      ¬(parseInt (trace.get "reconciliation_mismatch_streak")).any
          (c.settings.mismatchHandoffCount ≤ ·) ∧
        0 < count ∧ ¬StatusesTerminal trace count := by
  simp only [mismatchHandoffReason, hresult, hcount, hresidual, Option.map_some, ne_eq,
    not_true_eq_false, if_false]
  by_cases hstreak : (parseInt (trace.get "reconciliation_mismatch_streak")).any
      (c.settings.mismatchHandoffCount ≤ ·)
  · simp [hstreak]
  · rw [if_neg hstreak]
    rcases hcountNonneg.eq_or_lt with rfl | hpos
    · -- without open orders some check always fails
      refine iff_of_false ?_ (by simp)
      rw [if_neg (by simp), if_neg (by simp), if_neg (by simp)]
      split_ifs with hopen hzero hpositive
      · simp
      · simp
      · simp
      · exact absurd ⟨rfl, lt_of_le_of_ne hresidualNonneg fun heq => hzero ⟨rfl, heq.symm⟩⟩
          hpositive
    · by_cases hterminal : StatusesTerminal trace count
      · obtain ⟨hseen, hall, hstatuses⟩ := hterminal
        refine iff_of_false ?_ fun hpass => hpass.2.2 ⟨hseen, hall, hstatuses⟩
        split_ifs with hfailures hends
        · simp
        · simp
        all_goals exact absurd ⟨⟨hpos, hseen, hall⟩, hstatuses⟩ hends
      · rw [if_neg, if_neg, if_neg (by omega), if_neg (by omega), if_neg (by omega),
          if_neg (by omega)]
        · simp [hstreak, hpos, hterminal]
        · exact fun hends => hterminal ⟨hends.1.2.1, hends.1.2.2, hends.2⟩
        · exact fun hends => hterminal ⟨hends.1.2.1, hends.1.2.2, fun status hstatus =>
            terminal_of_failure (hends.2 status hstatus)⟩

/-- A mismatch passes all checks exactly when none of them is concerned with it. -/
theorem unnoticedMismatch_iff (hmismatch : Mismatched trace) :
    reconciliationHandoff c trace = none ∧ PassesChecks c trace ↔ UnnoticedMismatch c trace := by
  rw [reconciliationHandoff_of_mismatch hmismatch.1]
  constructor
  · rintro ⟨⟨hfields, hevidence⟩, hfailure, hdated, hfresh⟩
    obtain ⟨hself, hlive⟩ := Option.or_eq_none_iff.mp hfailure
    obtain ⟨count, residual, hcount, hcountNonneg, hresidual, hresidualNonneg⟩ :=
      valid_mismatch hmismatch.1 hfields
    obtain ⟨hstreak, hpos, hterminal⟩ := (mismatchHandoffReason_eq_none hmismatch.1 hcount
      hcountNonneg hresidual hresidualNonneg).mp hself
    exact ⟨hfields, hevidence, hstreak, ⟨count, hcount, hpos, hterminal⟩, hlive, hdated, hfresh⟩
  · intro hpass
    obtain ⟨count, residual, hcount, hcountNonneg, hresidual, hresidualNonneg⟩ :=
      valid_mismatch hmismatch.1 hpass.fields
    obtain ⟨other, hother, hpos, hterminal⟩ := hpass.openOrders
    obtain rfl := Option.some.inj (hcount.symm.trans hother)
    have hself := (mismatchHandoffReason_eq_none hmismatch.1 hcount hcountNonneg hresidual
      hresidualNonneg).mpr ⟨hpass.streak, hpos, hterminal⟩
    exact ⟨⟨hpass.fields, hpass.evidence⟩, Option.or_eq_none_iff.mpr ⟨hself, hpass.unwindLive⟩,
      hpass.unwindDated, hpass.unwindFresh⟩

/-- Against a mismatch a trace is resolved when no check is concerned with the mismatch
and the trace seems flat. -/
theorem traceVerdict_resolves_mismatch_iff {orders : List Order} (hmismatch : Mismatched trace) :
    (∃ reason, traceVerdict c orders trace = .resolved reason) ↔
      UnnoticedMismatch c trace ∧ SeemsFlat orders trace := by
  simp only [traceVerdict_eq_resolved, ← unnoticedMismatch_iff hmismatch,
    matchedWithoutResidual_of_mismatch hmismatch.1, Bool.false_eq_true, false_and, false_or,
    true_and, exists_and_left, exists_eq, and_true, and_assoc]

end Mismatch

/-- A step keeps its trace open against a mismatch exactly when some check is concerned
with the mismatch, an order is open or the trace names a residual. -/
theorem processTrace_keepsMismatch_iff (c : TraceContext) (trace : Dict)
    (redis : Runtime.RedisRuntime) :
    (∀ reconciled synced, autoRecordReconciliation c trace redis = .ok (reconciled, synced) →
      Mismatched reconciled → ∀ reason, (processTrace c trace redis).verdict ≠ .resolved reason) ↔
    (∀ reconciled synced, autoRecordReconciliation c trace redis = .ok (reconciled, synced) →
      Mismatched reconciled → traceText trace "recovery_trace_id" ≠ "" →
        ¬(UnnoticedMismatch c reconciled ∧
          SeemsFlat (relatedOrders c.reads trace) reconciled)) := by
  refine forall₄_congr fun reconciled synced hok hmismatch => ?_
  rw [← traceVerdict_resolves_mismatch_iff hmismatch]
  by_cases hid : traceText trace "recovery_trace_id" = ""
  · simp [processTrace, hid]
  · simp [processTrace, hid, hok]

/-- A step that reads an empty store and asks no exchange. -/
def quietContext (mismatchHandoffCount : Int) : TraceContext where
  settings := .ofConfig 300 15 mismatchHandoffCount 15
  connectors := []
  reads := (MemoryStore.empty []).reads .exact
  decimals := .exact
  clock := .still 0 fun _ => "2024-01-01T00:00:00Z"
  alertId := "alert"

/-- A first mismatch with an open order and a residual, recorded for a trace that was
opened without one. -/
def openMismatch : Dict :=
  [("recovery_trace_id", .str "rt"), ("bot_id", .str "bot"), ("run_id", .str "run"),
    ("status", .str "active"), ("residual_exposure_quote", .str "0"),
    ("reconciliation_result", .str "mismatch"), ("reconciliation_open_order_count", .int 1),
    ("reconciliation_residual_exposure_quote", .str "19"),
    ("reconciliation_mismatch_streak", .int 1)]

/-- An operator's mismatch does not keep a trace open whose intent has no order listed. -/
theorem processTrace_resolves_openMismatch :
    autoRecordReconciliation (quietContext 2) openMismatch .empty = .ok (openMismatch, .empty) ∧
      Mismatched openMismatch ∧
      (processTrace (quietContext 2) openMismatch .empty).verdict =
        .resolved "no_active_orders_and_zero_residual" := by
  refine ⟨rfl, ⟨by decide +kernel, Or.inl (by decide +kernel)⟩, by decide +kernel⟩

end TradingPlatform.Recovery

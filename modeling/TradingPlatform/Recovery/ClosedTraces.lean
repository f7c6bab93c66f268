import TradingPlatform.Recovery.ProcessTrace

/-! # Closed traces

What a step leaves in the store of traces. A step keeps its trace as closed for a
reason exactly when that is its verdict, unless the trace was closed before.
-/

namespace TradingPlatform.Recovery

open TradingPlatform.Runtime

section Specification

/-- A document says that its trace is closed, and why. -/
structure ClosedAs (reason : String) (document : Dict) : Prop where
  status : document.get "status" = .str "resolved"
  lifecycle : document.get "lifecycle_state" = .str "closed"
  reason : document.get "resolution_reason" = .str reason

/-- The keys a step may keep a trace under. -/
def IsKeyOf (trace : Dict) (key : String) : Prop :=
  key = traceText trace "recovery_trace_id" ∨ key = Text.strip (traceText trace "recovery_trace_id")

/-- The trace is kept as closed. -/
def KeptClosed (redis : RedisRuntime) (trace : Dict) (reason : String) : Prop :=
  ∃ key document, IsKeyOf trace key ∧ redis.getRecoveryTrace key = some document ∧
    ClosedAs reason document

end Specification

section Documents

variable {trace : Dict} {reason : String}

/-- What a write adds to a document is not about its being closed. -/
theorem closedAs_merge {patch : Dict}
    (hpatch : ∀ field ∈ ["status", "lifecycle_state", "resolution_reason"],
      field ∉ patch.map Prod.fst) :
    ClosedAs reason (trace.merge patch) ↔ ClosedAs reason trace := by
  have hkept : ∀ field ∈ ["status", "lifecycle_state", "resolution_reason"],
      (trace.merge patch).get field = trace.get field :=
    fun field hfield => Dict.get_merge_of_notMem _ _ (hpatch field hfield)
  have hstatus := hkept "status" (by simp)
  have hlifecycle := hkept "lifecycle_state" (by simp)
  have hreason := hkept "resolution_reason" (by simp)
  constructor
  · exact fun h => ⟨hstatus ▸ h.status, hlifecycle ▸ h.lifecycle, hreason ▸ h.reason⟩
  · exact fun h => ⟨hstatus.trans h.status, hlifecycle.trans h.lifecycle,
      hreason.trans h.reason⟩

theorem closedAs_resolvedTrace (other closedAt : String) :
    ClosedAs reason (resolvedTrace trace other closedAt) ↔ other = reason := by
  have hreason : (resolvedTrace trace other closedAt).get "resolution_reason" = .str other :=
    Dict.get_merge_of_mem (by simp) (by simp)
  constructor
  · exact fun h => Json.str.inj (hreason.symm.trans h.reason)
  · rintro rfl
    exact ⟨Dict.get_merge_of_mem (by simp) (by simp), Dict.get_merge_of_mem (by simp) (by simp),
      hreason⟩

theorem not_closedAs_handedOffTrace (handoff : Handoff) (alertId : String) :
    ¬ ClosedAs reason (handedOffTrace trace handoff alertId) := by
  intro h
  have hstatus : (handedOffTrace trace handoff alertId).get "status" = .str "handoff_required" :=
    Dict.get_merge_of_mem (by simp) List.mem_cons_self
  have hclosed := hstatus.symm.trans h.status
  simp at hclosed

end Documents

section Writes

variable {c : TraceContext} {trace : Dict} {redis : RedisRuntime} {reason : String}

@[simp] theorem recoveryTraces_syncTrace (key : String) (payload : Dict) (isoNow : Nat → String)
    (redis : RedisRuntime) : (syncTrace key payload isoNow redis).recoveryTraces =
      (redis.syncRecoveryTrace key payload (isoNow 0)).recoveryTraces := by
  unfold syncTrace
  dsimp only
  split_ifs
  · rfl
  · split
    · rfl
    · rw [RedisRuntime.syncArbitrageEvaluationRecoveryState_recoveryTraces]

/-- A written trace is kept under its key, every other one as it was. -/
theorem getRecoveryTrace_syncTrace (key other : String) (payload : Dict) (isoNow : Nat → String)
    (redis : RedisRuntime) :
    (syncTrace key payload isoNow redis).getRecoveryTrace other =
      if other = key then
        some (payload.merge [("recovery_trace_id", .str key), ("updated_at", .str (isoNow 0))])
      else redis.getRecoveryTrace other := by
  rw [RedisRuntime.getRecoveryTrace, recoveryTraces_syncTrace, ← RedisRuntime.getRecoveryTrace]
  split_ifs with hkey
  · rw [hkey, RedisRuntime.getRecoveryTrace_syncRecoveryTrace]
  · exact RedisRuntime.getRecoveryTrace_syncRecoveryTrace_of_ne redis hkey payload _

/-- A closed document that is written under a key of its trace keeps it as closed. -/
theorem keptClosed_syncTrace {key : String} {payload : Dict} {isoNow : Nat → String}
    (hkey : IsKeyOf trace key) (hclosed : ClosedAs reason payload) :
    KeptClosed (syncTrace key payload isoNow redis) trace reason := by
  refine ⟨key, _, hkey, by rw [getRecoveryTrace_syncTrace, if_pos rfl], ?_⟩
  exact (closedAs_merge (by simp)).mpr hclosed

/-- After a write the trace is kept as closed because the written document says so, or
because another one did before. -/
theorem KeptClosed.of_syncTrace {key : String} {payload : Dict} {isoNow : Nat → String}
    (hkept : KeptClosed (syncTrace key payload isoNow redis) trace reason) :
    ClosedAs reason payload ∨ KeptClosed redis trace reason := by
  obtain ⟨other, document, hother, hdocument, hclosed⟩ := hkept
  rw [getRecoveryTrace_syncTrace] at hdocument
  split_ifs at hdocument
  · obtain rfl := Option.some.inj hdocument
    exact Or.inl ((closedAs_merge (by simp)).mp hclosed)
  · exact Or.inr ⟨other, document, hother, hdocument, hclosed⟩

/-- A step goes on with the reconciliation that its trace carries: it asks no exchange, or
nothing comes of what they answer. -/
def LeavesReconciliation (c : TraceContext) (trace : Dict) : Prop :=
  keepsReconciliation trace (relatedOrders c.reads trace) c.connectors ∨
    buildAutoReconciliationSnapshot c.decimals c.connectors c.reads trace
      (relatedOrders c.reads trace) (relatedFills c.reads trace) (c.clock.isoNow 5) = .ok none

variable (c trace redis) in
/-- A trace goes on as it is, or with a snapshot that is written: then as it was written,
or as it is read back. -/
theorem autoRecordReconciliation_cases {reconciled : Dict} {synced : RedisRuntime}
    (hok : autoRecordReconciliation c trace redis = .ok (reconciled, synced)) :
    (reconciled = trace ∧ synced = redis ∧ LeavesReconciliation c trace) ∨
      ∃ snapshot stamp, buildAutoReconciliationSnapshot c.decimals c.connectors c.reads trace
          (relatedOrders c.reads trace) (relatedFills c.reads trace) (c.clock.isoNow 5) =
            .ok (some snapshot) ∧
        reconciled = (trace.merge (reconciliationPatch trace snapshot (c.clock.isoNow 6))).merge
          stamp ∧
        (stamp = [] ∨ stamp =
          [("recovery_trace_id", .str (Text.strip (traceText trace "recovery_trace_id"))),
            ("updated_at", .str (c.clock.isoNow 7))]) ∧
        synced = syncTrace (Text.strip (traceText trace "recovery_trace_id"))
          (trace.merge (reconciliationPatch trace snapshot (c.clock.isoNow 6)))
          (fun n => c.clock.isoNow (n + 7)) redis := by
  unfold autoRecordReconciliation at hok
  dsimp only at hok
  split_ifs at hok with hleft
  · obtain ⟨rfl, rfl⟩ := Prod.mk.inj (Except.ok.inj hok)
    exact Or.inl ⟨rfl, rfl, Or.inl hleft⟩
  · split at hok
    · cases hok
    next hnone =>
      obtain ⟨rfl, rfl⟩ := Prod.mk.inj (Except.ok.inj hok)
      exact Or.inl ⟨rfl, rfl, Or.inr hnone⟩
    next snapshot hsnapshot =>
      obtain ⟨hreconciled, hsynced⟩ := Prod.mk.inj (Except.ok.inj hok)
      rw [getRecoveryTrace_syncTrace, if_pos rfl, Option.getD_some] at hreconciled
      right
      split_ifs at hreconciled
      · exact ⟨snapshot, [], hsnapshot, hreconciled.symm, Or.inl rfl, hsynced.symm⟩
      · exact ⟨snapshot, _, hsnapshot, hreconciled.symm, Or.inr rfl, hsynced.symm⟩

/-- Reconciling keeps the keys of a trace and does not close it. -/
theorem autoRecordReconciliation_keeps {reconciled : Dict} {synced : RedisRuntime}
    (hok : autoRecordReconciliation c trace redis = .ok (reconciled, synced)) :
    IsKeyOf trace (traceText reconciled "recovery_trace_id") ∧
      ∀ reason, KeptClosed synced trace reason →
        ClosedAs reason trace ∨ KeptClosed redis trace reason := by
  rcases autoRecordReconciliation_cases c trace redis hok with
    ⟨rfl, rfl, -⟩ | ⟨snapshot, stamp, hsnapshot, rfl, hstamp, rfl⟩
  · exact ⟨Or.inl rfl, fun _ => Or.inr⟩
  · have hfields : (reconciliationPatch trace snapshot (c.clock.isoNow 6)).map Prod.fst =
        reconciliationFields := map_fst_reconciliationPatch (map_fst_snapshot hsnapshot)
    generalize reconciliationPatch trace snapshot (c.clock.isoNow 6) = patch at *
    constructor
    · -- the patch names no key; the stamp of a trace that is read back names the stripped one
      rcases hstamp with rfl | rfl
      · left
        rw [Dict.merge_nil, traceText, Dict.get_merge_of_notMem _ _ (by rw [hfields]; decide),
          traceText]
      · right
        rw [traceText, Dict.get_merge_of_mem (by simp) List.mem_cons_self, Json.textOrEmpty_str]
    · intro reason hkept
      refine hkept.of_syncTrace.imp_left (closedAs_merge ?_).mp
      rw [hfields]
      decide

/-- A verdict to resolve is kept, and nothing else closes the trace. -/
theorem keptClosed_apply {verdict : TraceVerdict} {reconciled : Dict}
    (hkey : IsKeyOf trace (traceText reconciled "recovery_trace_id")) :
    (verdict = .resolved reason → KeptClosed (verdict.apply c reconciled redis) trace reason) ∧
      (KeptClosed (verdict.apply c reconciled redis) trace reason →
        verdict = .resolved reason ∨ KeptClosed redis trace reason) := by
  constructor
  · rintro rfl
    rw [TraceVerdict.apply, resolveTrace]
    exact keptClosed_syncTrace hkey ((closedAs_resolvedTrace _ _).mpr rfl)
  · intro hkept
    cases verdict with
    | skipped | raised => exact Or.inr hkept
    | handedOff handoff =>
        rw [TraceVerdict.apply, markHandoffRequired] at hkept
        exact Or.inr (hkept.of_syncTrace.resolve_left (not_closedAs_handedOffTrace _ _))
    | resolved other =>
        rw [TraceVerdict.apply, resolveTrace] at hkept
        refine hkept.of_syncTrace.imp_left fun hclosed => ?_
        rw [(closedAs_resolvedTrace _ _).mp hclosed]

variable (c trace redis) in
/-- A step leaves the store as it is, or applies its verdict to the reconciled trace. -/
theorem processTrace_cases :
    (∀ reason, (processTrace c trace redis).verdict ≠ .resolved reason) ∧
        (processTrace c trace redis).redis = redis ∨
      ∃ reconciled synced, autoRecordReconciliation c trace redis = .ok (reconciled, synced) ∧
        (processTrace c trace redis).verdict =
          traceVerdict c (relatedOrders c.reads trace) reconciled ∧
        (processTrace c trace redis).redis =
          (processTrace c trace redis).verdict.apply c reconciled synced := by
  unfold processTrace
  by_cases hid : traceText trace "recovery_trace_id" = ""
  · rw [if_pos hid]
    exact Or.inl ⟨by simp, rfl⟩
  · rw [if_neg hid]
    cases hauto : autoRecordReconciliation c trace redis with
    | error text => exact Or.inl ⟨by simp, rfl⟩
    | ok result =>
        obtain ⟨reconciled, synced⟩ := result
        refine Or.inr ⟨reconciled, synced, rfl, ?_, ?_⟩ <;> dsimp only

variable (c) in
/-- A step that resolves its trace keeps it as closed. -/
theorem keptClosed_processTrace
    (hverdict : (processTrace c trace redis).verdict = .resolved reason) :
    KeptClosed (processTrace c trace redis).redis trace reason := by
  rcases processTrace_cases c trace redis with ⟨hnot, -⟩ | ⟨reconciled, synced, hok, -, hredis⟩
  · exact absurd hverdict (hnot reason)
  · rw [hredis]
    exact (keptClosed_apply (autoRecordReconciliation_keeps hok).1).1 hverdict

/-- A trace that a step keeps as closed was resolved by it, or was closed before. -/
theorem KeptClosed.of_processTrace
    (hkept : KeptClosed (processTrace c trace redis).redis trace reason) :
    (processTrace c trace redis).verdict = .resolved reason ∨ ClosedAs reason trace ∨
      KeptClosed redis trace reason := by
  rcases processTrace_cases c trace redis with ⟨-, hredis⟩ | ⟨reconciled, synced, hok, -, hredis⟩
  · rw [hredis] at hkept
    exact Or.inr (Or.inr hkept)
  · obtain ⟨hkey, hsynced⟩ := autoRecordReconciliation_keeps hok
    rw [hredis] at hkept
    exact ((keptClosed_apply hkey).2 hkept).imp_right (hsynced reason)

end Writes

end TradingPlatform.Recovery

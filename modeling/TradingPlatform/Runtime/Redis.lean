import Mathlib.Data.List.AList
import Mathlib.Data.List.Sort
import TradingPlatform.Foundation.Request

/-! # The Redis runtime

Recovery traces, latest evaluations and pair locks, as the commands that keep
them leave them. Every command succeeds; event streams are not kept, and no
pair lock expires between two commands.
-/

namespace TradingPlatform.Runtime

structure RedisRuntime where
  recoveryTraces : AList fun _ : String => Dict
  latestEvaluations : AList fun _ : String => Dict
  /-- Locks by market and quote pair. -/
  pairLocks : AList fun _ : String × String => Dict

namespace RedisRuntime

def empty : RedisRuntime := ⟨∅, ∅, ∅⟩

section Evaluations

def getArbitrageEvaluation (r : RedisRuntime) (runId : String) : Option Dict :=
  r.latestEvaluations.lookup runId

def syncArbitrageEvaluation (runId : String) (payload : Dict) (isoNow : String)
    (r : RedisRuntime) : RedisRuntime :=
  let stored := payload.merge [("strategy_run_id", .str runId), ("cached_at", .str isoNow)]
  { r with latestEvaluations := r.latestEvaluations.insert runId stored }

/-- The latest evaluation of a run with a recovery trace carried over to it. -/
def carriedOver (current recoveryTrace : Dict) : Dict :=
  let status := normalizedText (recoveryTrace.get "status")
  let lifecycleState := Text.strip (recoveryTrace.get "lifecycle_state").textOrEmpty
  let lifecyclePreview :=
    if status = "resolved" ∨ status = "cancelled" then "closed"
    else if status = "handoff_required" then "manual_handoff"
    else if lifecycleState = "" then (current.get "lifecycle_preview").textOrEmpty
    else lifecycleState
  current.merge [
    ("lifecycle_preview", .str lifecyclePreview),
    ("recovery_trace_id", recoveryTrace.get "recovery_trace_id"),
    ("recovery_status", recoveryTrace.get "status"),
    ("recovery_lifecycle_state", recoveryTrace.get "lifecycle_state"),
    ("recovery_updated_at", recoveryTrace.get "updated_at")]

/-- Carry a recovery trace over to the latest evaluation of its run, if there is one. -/
def syncArbitrageEvaluationRecoveryState (runId : String) (recoveryTrace : Dict) (isoNow : String)
    (r : RedisRuntime) : RedisRuntime :=
  match r.getArbitrageEvaluation runId with
  | none => r
  | some current => r.syncArbitrageEvaluation runId (carriedOver current recoveryTrace) isoNow

/-- The instant an evaluation is listed by: 1970-01-01 when it names none. -/
def cachedAt (evaluation : Dict) : Int :=
  (parseIsoDatetime (evaluation.get "cached_at")).getD (719163 * Datetime.microsPerDay)

/-- Sorting an evaluation in leaves the calendar. -/
def cachedDateOverflows (evaluation : Dict) : Bool := isoOverflows (evaluation.get "cached_at")

/-- The latest evaluations of all runs, the last cached first; their dates are taken to be
in the calendar. -/
def listArbitrageEvaluations (r : RedisRuntime) (limit : Nat) : List Dict :=
  let evaluations := r.latestEvaluations.entries.map Sigma.snd
  (evaluations.insertionSort fun a b => cachedAt b ≤ cachedAt a).take (max 1 (min limit 100))

end Evaluations

section RecoveryTraces

def getRecoveryTrace (r : RedisRuntime) (recoveryTraceId : String) : Option Dict :=
  r.recoveryTraces.lookup recoveryTraceId

def syncRecoveryTrace (recoveryTraceId : String) (payload : Dict) (isoNow : String)
    (r : RedisRuntime) : RedisRuntime :=
  let stored := payload.merge
    [("recovery_trace_id", .str recoveryTraceId), ("updated_at", .str isoNow)]
  { r with recoveryTraces := r.recoveryTraces.insert recoveryTraceId stored }

/-- The instant items are listed by: 1970-01-01 when a trace names none. -/
def listedAt (trace : Dict) : Int :=
  ((parseIsoDatetime (trace.get "updated_at")).or (parseIsoDatetime (trace.get "created_at"))).getD
    (719163 * Datetime.microsPerDay)

/-- Sorting a trace in leaves the calendar. -/
def listedDateOverflows (trace : Dict) : Bool :=
  datesOverflow [trace.get "updated_at", trace.get "created_at"]

def matchesFilters (botId runId status : String) (trace : Dict) : Bool :=
  (botId = "" || (trace.get "bot_id").textOrEmpty = botId) &&
    (runId = "" || (trace.get "run_id").textOrEmpty = runId) &&
    (status = "" || normalizedText (trace.get "status") = status)

/-- The traces of a bot and a run with a status, latest first; an empty filter keeps all,
and the dates are taken to be in the calendar. -/
def listRecoveryTraces (r : RedisRuntime) (limit : Nat) (botId runId status : String) :
    List Dict :=
  let items := (r.recoveryTraces.entries.map Sigma.snd).filter (matchesFilters botId runId status)
  (items.insertionSort fun a b => listedAt b ≤ listedAt a).take (max 1 (min limit 100))

/-- The latest trace that keeps a bot or a run from entering again. -/
def getBlockingRecoveryTrace (r : RedisRuntime) (botId runId : String) : Option Dict :=
  let candidates := ["handoff_required", "active"].flatMap (r.listRecoveryTraces 10 botId runId)
  (candidates.insertionSort fun a b => listedAt b ≤ listedAt a).head?

end RecoveryTraces

section PairLocks

inductive PairLockOutcome where
  | acquired
  | refreshed
  | conflict
  | missing
  | released
  | failed
deriving DecidableEq, Repr

def pairLockTtlSeconds : Nat := 180

def lockText (lock : Dict) (key : String) : String := Text.strip (lock.get key).textOrEmpty

/-- The lock is held by the same run of the same bot. -/
def sameRun (lock : Dict) (strategyRunId botId : String) : Bool :=
  strategyRunId ≠ "" && botId ≠ "" && lockText lock "strategy_run_id" = strategyRunId &&
    lockText lock "bot_id" = botId

/-- The lock as it is kept: stamped, and acquired now unless it says otherwise. -/
def storedPairLock (market quotePairId : String) (payload : Dict) (isoNow : String) : Dict :=
  let stamped := payload.merge [("market", .str market), ("quote_pair_id", .str quotePairId),
    ("updated_at", .str isoNow), ("ttl_seconds", .int pairLockTtlSeconds)]
  if (stamped.get "acquired_at").truthy then stamped else stamped.set "acquired_at" (.str isoNow)

def acquirePairLock (market quotePairId : String) (payload : Dict) (isoNow : String)
    (r : RedisRuntime) : PairLockOutcome × RedisRuntime :=
  let lock := storedPairLock market quotePairId payload isoNow
  let ownerId := lockText lock "owner_id"
  let held : RedisRuntime :=
    { r with pairLocks := r.pairLocks.insert (market, quotePairId) lock }
  match r.pairLocks.lookup (market, quotePairId) with
  | none => (.acquired, held)
  | some existing =>
      if (ownerId ≠ "" ∧ lockText existing "owner_id" = ownerId) ∨
          sameRun existing (lockText lock "strategy_run_id") (lockText lock "bot_id") then
        (.refreshed, held)
      else (.conflict, r)

def releasePairLock (market quotePairId ownerId : String) (r : RedisRuntime) :
    PairLockOutcome × RedisRuntime :=
  match r.pairLocks.lookup (market, quotePairId) with
  | none => (.missing, r)
  | some existing =>
      if ownerId ≠ "" ∧ lockText existing "owner_id" = ownerId then
        (.released, { r with pairLocks := r.pairLocks.erase (market, quotePairId) })
      else (.conflict, r)

end PairLocks

section Frames

variable (r : RedisRuntime)

@[simp] theorem syncArbitrageEvaluation_recoveryTraces (runId : String) (payload : Dict)
    (isoNow : String) :
    (r.syncArbitrageEvaluation runId payload isoNow).recoveryTraces = r.recoveryTraces := rfl

@[simp] theorem syncArbitrageEvaluationRecoveryState_recoveryTraces (runId : String)
    (recoveryTrace : Dict) (isoNow : String) :
    (r.syncArbitrageEvaluationRecoveryState runId recoveryTrace isoNow).recoveryTraces =
      r.recoveryTraces := by
  unfold syncArbitrageEvaluationRecoveryState
  split <;> simp

@[simp] theorem acquirePairLock_recoveryTraces (market quotePairId : String) (payload : Dict)
    (isoNow : String) :
    (r.acquirePairLock market quotePairId payload isoNow).2.recoveryTraces = r.recoveryTraces := by
  simp only [acquirePairLock]
  split
  · rfl
  · split_ifs <;> rfl

@[simp] theorem releasePairLock_recoveryTraces (market quotePairId ownerId : String) :
    (r.releasePairLock market quotePairId ownerId).2.recoveryTraces = r.recoveryTraces := by
  unfold releasePairLock
  split
  · rfl
  · split <;> rfl

theorem getRecoveryTrace_syncRecoveryTrace (recoveryTraceId : String) (payload : Dict)
    (isoNow : String) :
    (r.syncRecoveryTrace recoveryTraceId payload isoNow).getRecoveryTrace recoveryTraceId =
      some (payload.merge
        [("recovery_trace_id", .str recoveryTraceId), ("updated_at", .str isoNow)]) :=
  AList.lookup_insert _

theorem getRecoveryTrace_syncRecoveryTrace_of_ne {recoveryTraceId other : String}
    (hne : other ≠ recoveryTraceId) (payload : Dict) (isoNow : String) :
    (r.syncRecoveryTrace recoveryTraceId payload isoNow).getRecoveryTrace other =
      r.getRecoveryTrace other :=
  AList.lookup_insert_ne hne

end Frames

section Blocking

variable {r : RedisRuntime} {botId : String}

/-- A trace that keeps a bot from entering. -/
def IsOpenTrace (botId : String) (trace : Dict) : Prop :=
  (trace.get "bot_id").textOrEmpty = botId ∧
    (normalizedText (trace.get "status") = "active" ∨
      normalizedText (trace.get "status") = "handoff_required")

/-- An open trace of the bot is kept. -/
def HasOpenTrace (r : RedisRuntime) (botId : String) : Prop :=
  ∃ recoveryTraceId trace, r.getRecoveryTrace recoveryTraceId = some trace ∧
    IsOpenTrace botId trace

theorem listRecoveryTraces_ne_nil_iff {limit : Nat} {runId status : String} :
    r.listRecoveryTraces limit botId runId status ≠ [] ↔
      ∃ recoveryTraceId trace, r.getRecoveryTrace recoveryTraceId = some trace ∧
        matchesFilters botId runId status trace := by
  have hsorted : ∀ items : List Dict,
      (items.insertionSort fun a b => listedAt b ≤ listedAt a) = [] ↔
      items = [] := by
    intro items
    rw [← List.length_eq_zero_iff, List.length_insertionSort, List.length_eq_zero_iff]
  simp only [listRecoveryTraces, ne_eq, List.take_eq_nil_iff, hsorted, List.filter_eq_nil_iff,
    List.mem_map, not_or]
  constructor
  · rintro ⟨-, hsome⟩
    push Not at hsome
    obtain ⟨trace, ⟨entry, hentry, rfl⟩, hmatches⟩ := hsome
    exact ⟨entry.1, entry.2, AList.mem_lookup_iff.mpr hentry, hmatches⟩
  · rintro ⟨recoveryTraceId, trace, htrace, hmatches⟩
    refine ⟨by omega, fun hnone => hnone trace ⟨⟨recoveryTraceId, trace⟩, ?_, rfl⟩ hmatches⟩
    exact AList.mem_lookup_iff.mp (Option.mem_def.mpr htrace)

/-- A bot is blocked exactly while an open trace of it is kept. -/
theorem getBlockingRecoveryTrace_isSome_iff (hbot : botId ≠ "") :
    (r.getBlockingRecoveryTrace botId "").isSome ↔ r.HasOpenTrace botId := by
  have hsorted : ∀ items : List Dict,
      (items.insertionSort fun a b => listedAt b ≤ listedAt a).head?.isSome ↔ items ≠ [] := by
    intro items
    rw [List.isSome_head?, ← List.length_pos_iff, List.length_insertionSort, List.length_pos_iff]
  simp only [getBlockingRecoveryTrace, hsorted, List.flatMap_cons, List.flatMap_nil,
    List.append_nil, ne_eq, List.append_eq_nil_iff, not_and_or]
  simp only [← ne_eq, listRecoveryTraces_ne_nil_iff, matchesFilters, HasOpenTrace, IsOpenTrace]
  simp only [hbot, decide_false, Bool.false_or, decide_true, Bool.true_or, Bool.and_true,
    Bool.and_eq_true, decide_eq_true_eq, String.reduceEq]
  constructor
  · rintro (⟨id, trace, htrace, hmatches, hstatus⟩ | ⟨id, trace, htrace, hmatches, hstatus⟩)
    · exact ⟨id, trace, htrace, hmatches, Or.inr hstatus⟩
    · exact ⟨id, trace, htrace, hmatches, Or.inl hstatus⟩
  · rintro ⟨id, trace, htrace, hmatches, hstatus | hstatus⟩
    · exact Or.inr ⟨id, trace, htrace, hmatches, hstatus⟩
    · exact Or.inl ⟨id, trace, htrace, hmatches, hstatus⟩

end Blocking

end RedisRuntime

end TradingPlatform.Runtime

import Mathlib.Data.List.Dedup
import TradingPlatform.Exchange.Connectors
import TradingPlatform.Foundation.Programs
import TradingPlatform.Recovery.ProcessTrace

/-! # Recovery, command by command

The recovery runtime and the operator's recovery routes as programs: each Redis
command, each look at the store and each question to the outside is an operation
of its own, so that other clients may do theirs in between.
-/

namespace TradingPlatform.Recovery

open Programs Storage Exchange TradingPlatform.Runtime

/-- What a recovery program may ask for. -/
inductive RecoveryOp where
  | getTrace (recoveryTraceId : String)
  | setTrace (recoveryTraceId : String) (document : Dict)
  | scanTraces
  | getEvaluation (runId : String)
  | setEvaluation (runId : String) (document : Dict)
  | scanEvaluations
  | readStore
  | createOrderIntent (new : NewOrderIntent)
  | createOrder (new : NewOrder)
  | createFill (new : NewFill)
  | updateOrderStatus (orderId status : String)
  | emitAlert
  | pollConnectors
  | cancelOrder (exchangeName exchangeOrderId market : String)
  | now
  | isoNow
  | drawId
  | isStopping

@[reducible] def RecoveryOp.Reply : RecoveryOp → Type
  | getTrace _ | getEvaluation _ => Option Dict
  | setTrace _ _ | setEvaluation _ _ | isStopping => Bool
  | scanTraces | scanEvaluations => Option (List String)
  | readStore => ReadStore
  | createOrderIntent _ => StoreAnswer OrderIntent
  | createOrder _ | updateOrderStatus _ _ => StoreAnswer Order
  | createFill _ => StoreAnswer Fill
  | pollConnectors => List (String × StatusConnector)
  | cancelOrder _ _ _ => Except String (Option PrivateExchangeResult)
  | now => Int
  | emitAlert | isoNow | drawId => String

abbrev RecoveryProgram := Program RecoveryOp RecoveryOp.Reply

/-- What does not change while the service runs. -/
structure RecoverySetup where
  settings : RecoverySettings
  decimals : DecimalContext
  platform : Platform
  /-- The routes run a tick of their own after what they record. -/
  runtimeEnabled : Bool

structure RecoveryState where
  redis : RedisRuntime
  store : MemoryStore

/-- What the outside makes of an operation: whether Redis answers, which of the
keys a scan comes upon and in what order, and what clocks, exchanges and the
alert table say. -/
structure Surroundings where
  redisFails : Bool := false
  scan : List String → List String := id
  connectors : List (String × StatusConnector) := []
  cancellation : Except String (Option PrivateExchangeResult) := .ok none
  now : Int := 0
  isoNow : String := ""
  /-- The hexadecimal digits of a new identifier. -/
  drawn : List (Fin 16) := []
  alertId : String := ""
  stopping : Bool := false

section Execution

variable (setup : RecoverySetup) (around : Surroundings)

/-- The keys a scan answers: some of those kept, none of them twice. -/
def Surroundings.scanned (keys : List String) : List String :=
  ((around.scan keys).filter (· ∈ keys)).dedup

def hexDigit (digit : Fin 16) : Char :=
  Char.ofNat (if digit.val < 10 then 48 + digit.val else 87 + digit.val)

def hexText (digits : List (Fin 16)) : String := String.ofList (digits.map hexDigit)

/-- A call of the store and the state it leaves behind. -/
def RecoveryState.call {Answer : Type} (s : RecoveryState)
    (call : MemoryStore → Answer × MemoryStore) : Answer × RecoveryState :=
  ((call s.store).1, { s with store := (call s.store).2 })

/-- What an operation answers and leaves behind. -/
def RecoveryOp.exec : (op : RecoveryOp) → RecoveryState → op.Reply × RecoveryState
  | .getTrace recoveryTraceId, s =>
      (if around.redisFails then none else s.redis.getRecoveryTrace recoveryTraceId, s)
  | .setTrace recoveryTraceId document, s =>
      if around.redisFails then (false, s)
      else (true, { s with
        redis.recoveryTraces := s.redis.recoveryTraces.insert recoveryTraceId document })
  | .scanTraces, s =>
      (if around.redisFails then none
        else some (around.scanned s.redis.recoveryTraces.keys), s)
  | .getEvaluation runId, s =>
      (if around.redisFails then none else s.redis.getArbitrageEvaluation runId, s)
  | .setEvaluation runId document, s =>
      if around.redisFails then (false, s)
      else (true, { s with
        redis.latestEvaluations := s.redis.latestEvaluations.insert runId document })
  | .scanEvaluations, s =>
      (if around.redisFails then none
        else some (around.scanned s.redis.latestEvaluations.keys), s)
  | .readStore, s => (s.store.reads setup.decimals, s)
  | .createOrderIntent new, s => s.call (MemoryStore.createOrderIntent setup.platform new)
  | .createOrder new, s => s.call (MemoryStore.createOrder setup.platform new)
  | .createFill new, s => s.call (MemoryStore.createFill setup.platform setup.decimals new)
  | .updateOrderStatus orderId status, s =>
      s.call (MemoryStore.updateOrderStatus setup.platform orderId status)
  | .emitAlert, s => (around.alertId, s)
  | .pollConnectors, s => (around.connectors, s)
  | .cancelOrder _ _ _, s => (around.cancellation, s)
  | .now, s => (around.now, s)
  | .isoNow, s => (around.isoNow, s)
  | .drawId, s => (hexText around.drawn, s)
  | .isStopping, s => (around.stopping, s)

end Execution

namespace RecoveryProgram

open Program

section Operations

def ask (op : RecoveryOp) : RecoveryProgram op.Reply := operation op

def getRecoveryTrace (recoveryTraceId : String) : RecoveryProgram (Option Dict) :=
  ask (.getTrace recoveryTraceId)

def getArbitrageEvaluation (runId : String) : RecoveryProgram (Option Dict) :=
  ask (.getEvaluation runId)

end Operations

section Redis

def syncRecoveryTrace (recoveryTraceId : String) (payload : Dict) : RecoveryProgram Unit := do
  let updatedAt ← ask .isoNow
  let _ ← ask (.setTrace recoveryTraceId (payload.merge
    [("recovery_trace_id", .str recoveryTraceId), ("updated_at", .str updatedAt)]))

def syncArbitrageEvaluation (runId : String) (payload : Dict) : RecoveryProgram Unit := do
  let cachedAt ← ask .isoNow
  let _ ← ask (.setEvaluation runId (payload.merge
    [("strategy_run_id", .str runId), ("cached_at", .str cachedAt)]))

def syncArbitrageEvaluationRecoveryState (runId : String) (recoveryTrace : Dict) :
    RecoveryProgram Unit := do
  match ← getArbitrageEvaluation runId with
  | none => pure ()
  | some current => syncArbitrageEvaluation runId (RedisRuntime.carriedOver current recoveryTrace)

/-- Read a trace again and carry it over to the evaluation of its run, if it names one. -/
def carryOver (recoveryTraceId runId : String) : RecoveryProgram (Option Dict) :=
  if runId = "" then pure none
  else do
    match ← getRecoveryTrace recoveryTraceId with
    | none => pure none
    | some latest =>
        syncArbitrageEvaluationRecoveryState runId latest
        pure (some latest)

/-- Statuses a trace does not leave again. -/
def isTerminalTrace (trace : Dict) : Bool :=
  normalizedText (trace.get "status") ∈ ["resolved", "cancelled"]

/-- How a transition of a stored trace ends. -/
inductive Transition where
  | missing
  | terminal (current : Dict)
  | written (latest : Option Dict)

def transitionRecoveryTrace (recoveryTraceId status lifecycleState : String) (patch : Dict) :
    RecoveryProgram Transition := do
  match ← getRecoveryTrace recoveryTraceId with
  | none => pure .missing
  | some current =>
      if isTerminalTrace current then pure (.terminal current)
      else
        let payload := (current.merge
          [("status", .str status), ("lifecycle_state", .str lifecycleState)]).merge patch
        syncRecoveryTrace recoveryTraceId payload
        let _ ← carryOver recoveryTraceId (Text.strip (traceText payload "run_id"))
        let latest ← getRecoveryTrace recoveryTraceId
        pure (.written latest)

/-- The traces of a bot and a run with a status, latest first; a trace that is not
read is left out, and one that cannot be dated ends the listing. -/
def listRecoveryTraces (limit : Nat) (botId runId status : String) :
    RecoveryProgram (Option (List Dict)) := do
  match ← ask .scanTraces with
  | none => pure none
  | some keys =>
      let documents ← collect keys getRecoveryTrace
      let items := documents.filter (RedisRuntime.matchesFilters botId runId status)
      if items.any RedisRuntime.listedDateOverflows then raised dateOverflow
      else
        pure (some ((items.insertionSort fun a b =>
          RedisRuntime.listedAt b ≤ RedisRuntime.listedAt a).take (max 1 (min limit 100))))

def getBlockingRecoveryTrace (botId runId : String) : RecoveryProgram (Option Dict) := do
  match ← listRecoveryTraces 10 botId runId "handoff_required" with
  | none => raised "failed to read blocking recovery traces"
  | some handoffs =>
      match ← listRecoveryTraces 10 botId runId "active" with
      | none => raised "failed to read blocking recovery traces"
      | some actives =>
          pure ((handoffs ++ actives).insertionSort fun a b =>
            RedisRuntime.listedAt b ≤ RedisRuntime.listedAt a).head?

def listArbitrageEvaluations (limit : Nat) : RecoveryProgram (Option (List Dict)) := do
  match ← ask .scanEvaluations with
  | none => pure none
  | some runIds =>
      let evaluations ← collect runIds getArbitrageEvaluation
      if evaluations.any RedisRuntime.cachedDateOverflows then raised dateOverflow
      else
        pure (some ((evaluations.insertionSort fun a b =>
          RedisRuntime.cachedAt b ≤ RedisRuntime.cachedAt a).take (max 1 (min limit 100))))

end Redis

end RecoveryProgram

end TradingPlatform.Recovery

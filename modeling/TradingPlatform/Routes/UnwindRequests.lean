import TradingPlatform.Recovery.TickCoverage
import TradingPlatform.Routes.TimelyHandoff

/-! # Unwind requests that are disturbed

Starting an unwind and submitting its order first make a row of the store and
then link it to the trace. Redis may fail any command on the way, and someone
else may resolve the trace; what was made is not taken back.
-/

namespace TradingPlatform.Routes

open Programs Program Storage TradingPlatform.Runtime Recovery RecoveryProgram

section Disturbances

/-- What a trace links in a field. -/
def linked (field : String) (trace : Dict) : String :=
  textOr (optionalString (trace.get field)) ""

/-- What someone else makes of the stored trace before an operation: nothing, or the
trace is resolved, as it is stored now or as it was before it linked anything. -/
inductive Resolver (field : String) where
  | absent
  | fresh (patch : Dict) (hresolves : ∀ trace : Dict, isTerminalTrace (trace.merge patch) = true)
      (hspares : field ∉ patch.map Prod.fst)
  | stale (document : Dict) (hresolved : isTerminalTrace document = true)
      (hunlinked : linked field document = "")

variable {field : String}

def Resolver.write : Resolver field → Dict → Dict
  | .absent, trace => trace
  | .fresh patch _ _, trace => trace.merge patch
  | .stale document _ _, _ => document

def Resolver.isAbsent : Resolver field → Bool
  | .absent => true
  | _ => false

def Resolver.isStale : Resolver field → Bool
  | .stale _ _ _ => true
  | _ => false

/-- Someone else rewrites a stored trace. -/
def rewriteTrace (id : String) (write : Dict → Dict) (s : RecoveryState) : RecoveryState :=
  match s.redis.getRecoveryTrace id with
  | none => s
  | some trace =>
      { s with redis.recoveryTraces := s.redis.recoveryTraces.insert id (write trace) }

/-- The surroundings of each operation of a request, and who resolves the trace before it. -/
structure Disturbance (field : String) where
  around : Nat → Surroundings
  other : Nat → Resolver field

namespace Disturbance

variable (d : Disturbance field) (id : String)

def course : Course where
  around := d.around
  meanwhile := fun turn s =>
    match d.other turn with
    | .absent => s
    | other => rewriteTrace id other.write s

/-- What becomes of a stored trace over a number of turns in which the request does not
write it. -/
def drift : Nat → Nat → Dict → Dict
  | _, 0, trace => trace
  | turn, count + 1, trace => drift (turn + 1) count ((d.other turn).write trace)

variable {d id}

theorem drift_add (turn first second : Nat) (trace : Dict) :
    d.drift turn (first + second) trace =
      d.drift (turn + first) second (d.drift turn first trace) := by
  induction first generalizing turn trace with
  | zero => simp [drift]
  | succ first ih =>
      rw [Nat.succ_add_eq_add_succ, Nat.add_succ, drift, drift, ih, Nat.add_right_comm,
        Nat.add_assoc]

/-- Only a trace that nobody resolves stays open. -/
theorem isTerminalTrace_drift_iff (turn count : Nat) (trace : Dict) :
    isTerminalTrace (d.drift turn count trace) = false ↔
      isTerminalTrace trace = false ∧
        ∀ k < count, (d.other (turn + k)).isAbsent = true := by
  induction count generalizing turn trace with
  | zero => simp [drift]
  | succ count ih =>
      rw [drift, ih]
      have hwrite : isTerminalTrace ((d.other turn).write trace) = false ↔
          isTerminalTrace trace = false ∧ (d.other turn).isAbsent = true := by
        cases d.other turn with
        | absent => simp [Resolver.write, Resolver.isAbsent]
        | fresh patch hresolves hspares => simp [Resolver.write, Resolver.isAbsent, hresolves]
        | stale document hresolved hunlinked => simp [Resolver.write, Resolver.isAbsent, hresolved]
      rw [hwrite, and_assoc, and_congr_right_iff]
      intro _
      constructor
      · intro hall k hk
        cases k with
        | zero => exact hall.1
        | succ k =>
            rw [Nat.add_comm k 1, ← Nat.add_assoc]
            exact hall.2 k (by omega)
      · intro hall
        refine ⟨hall 0 (by omega), fun k hk => ?_⟩
        rw [Nat.add_assoc, Nat.add_comm 1 k]
        exact hall (k + 1) (by omega)

theorem linked_eq_of_get {field : String} {trace other : Dict}
    (hget : other.get field = trace.get field) : linked field other = linked field trace := by
  rw [linked, hget, linked]

/-- What links nothing still links nothing after someone else has resolved it. -/
theorem linked_write (other : Resolver field) {trace : Dict} (hunlinked : linked field trace = "") :
    linked field (other.write trace) = "" := by
  cases other with
  | absent => exact hunlinked
  | fresh patch hresolves hspares =>
      rw [Resolver.write, linked_eq_of_get (Dict.get_merge_of_notMem _ _ hspares)]
      exact hunlinked
  | stale document hresolved hdocument => exact hdocument

theorem linked_drift {turn count : Nat} {trace : Dict} (hunlinked : linked field trace = "") :
    linked field (d.drift turn count trace) = "" := by
  induction count generalizing turn trace with
  | zero => exact hunlinked
  | succ count ih => exact ih (linked_write _ hunlinked)

/-- A trace that nobody resolves stays as it is. -/
theorem drift_of_absent {turn count : Nat} (trace : Dict)
    (habsent : ∀ k < count, (d.other (turn + k)).isAbsent = true) :
    d.drift turn count trace = trace := by
  induction count generalizing turn trace with
  | zero => rfl
  | succ count ih =>
      have hfirst := habsent 0 (by omega)
      rw [Nat.add_zero] at hfirst
      have hwrite : (d.other turn).write trace = trace := by
        cases hother : d.other turn with
        | absent => rfl
        | _ =>
            rw [hother] at hfirst
            exact absurd hfirst Bool.false_ne_true
      rw [drift, hwrite]
      apply ih
      intro k hk
      rw [Nat.add_assoc, Nat.add_comm 1 k]
      exact habsent (k + 1) (by omega)

/-- Who resolves the trace as it is stored keeps what it links. -/
theorem get_drift {turn count : Nat} (trace : Dict)
    (hfresh : ∀ k < count, (d.other (turn + k)).isStale = false) :
    (d.drift turn count trace).get field = trace.get field := by
  induction count generalizing turn trace with
  | zero => rfl
  | succ count ih =>
      rw [drift, ih]
      · have hfirst := hfresh 0 (by omega)
        rw [Nat.add_zero] at hfirst
        cases hother : d.other turn with
        | absent => rfl
        | fresh patch hresolves hspares =>
            rw [Resolver.write]
            exact Dict.get_merge_of_notMem _ _ hspares
        | stale document hresolved hunlinked =>
            rw [hother] at hfirst
            exact absurd hfirst Bool.false_ne_true.symm
      · intro k hk
        rw [Nat.add_assoc, Nat.add_comm 1 k]
        exact hfresh (k + 1) (by omega)

/-- Who resolves an older copy of the trace loses what it links. -/
theorem linked_drift_of_stale {turn count k : Nat} {trace : Dict} (hk : k < count)
    (hstale : (d.other (turn + k)).isStale = true) :
    linked field (d.drift turn count trace) = "" := by
  induction count generalizing turn trace k with
  | zero => omega
  | succ count ih =>
      rw [drift]
      cases k with
      | zero =>
          apply linked_drift
          rw [Nat.add_zero] at hstale
          cases hother : d.other turn with
          | stale document hresolved hunlinked =>
              rw [Resolver.write]
              exact hunlinked
          | _ =>
              rw [hother] at hstale
              exact absurd hstale Bool.false_ne_true
      | succ k =>
          apply @ih (turn + 1) k _ (by omega)
          rw [Nat.add_assoc, Nat.add_comm 1 k]
          exact hstale

/-- Before an operation the stored trace is what someone else made of it. -/
theorem getRecoveryTrace_meanwhile (turn : Nat) (s : RecoveryState) :
    ((d.course id).meanwhile turn s).redis.getRecoveryTrace id =
      (s.redis.getRecoveryTrace id).map (d.other turn).write := by
  have hrewrite : ∀ write : Dict → Dict,
      (rewriteTrace id write s).redis.getRecoveryTrace id =
        (s.redis.getRecoveryTrace id).map write := by
    intro write
    unfold rewriteTrace
    cases htrace : s.redis.getRecoveryTrace id with
    | none => simp [htrace]
    | some trace => simp [RedisRuntime.getRecoveryTrace]
  unfold course
  dsimp only
  cases d.other turn with
  | absent =>
      change s.redis.getRecoveryTrace id = (s.redis.getRecoveryTrace id).map fun trace => trace
      simp
  | fresh patch hresolves hspares => exact hrewrite _
  | stale document hresolved hunlinked => exact hrewrite _

/-- Before an operation nothing but the recovery traces is rewritten. -/
theorem meanwhile_frame (turn : Nat) (s : RecoveryState) :
    ∃ traces, (d.course id).meanwhile turn s =
      { s with redis := { s.redis with recoveryTraces := traces } } := by
  have hrewrite : ∀ write : Dict → Dict, ∃ traces, rewriteTrace id write s =
      { s with redis := { s.redis with recoveryTraces := traces } } := by
    intro write
    unfold rewriteTrace
    cases s.redis.getRecoveryTrace id with
    | none => exact ⟨s.redis.recoveryTraces, rfl⟩
    | some trace => exact ⟨_, rfl⟩
  unfold course
  dsimp only
  cases d.other turn with
  | absent => exact ⟨s.redis.recoveryTraces, rfl⟩
  | fresh patch hresolves hspares => exact hrewrite _
  | stale document hresolved hunlinked => exact hrewrite _

@[simp] theorem store_meanwhile (turn : Nat) (s : RecoveryState) :
    ((d.course id).meanwhile turn s).store = s.store := by
  obtain ⟨traces, hframe⟩ := d.meanwhile_frame turn s
  rw [hframe]

theorem latestEvaluations_meanwhile (turn : Nat) (s : RecoveryState) :
    ((d.course id).meanwhile turn s).redis.latestEvaluations = s.redis.latestEvaluations := by
  obtain ⟨traces, hframe⟩ := d.meanwhile_frame turn s
  rw [hframe]

end Disturbance

end Disturbances

section Reading

variable {field : String} {d : Disturbance field} {id : String} {setup : RecoverySetup}

/-- Operations that write no trace and no row of the store. -/
def ReadsOnly : RecoveryOp → Prop
  | .setTrace _ _ | .createOrderIntent _ | .createOrder _ | .createFill _ |
      .updateOrderStatus _ _ => False
  | _ => True

/-- From one point of a request to a later one the store stays, and the trace is what
others make of it. -/
structure Drifted (d : Disturbance field) (id : String) (s after : RecoveryState × Nat) : Prop where
  later : s.2 ≤ after.2
  store : after.1.store = s.1.store
  trace : after.1.redis.getRecoveryTrace id =
    (s.1.redis.getRecoveryTrace id).map (d.drift s.2 (after.2 - s.2))

theorem Drifted.refl (s : RecoveryState × Nat) : Drifted d id s s := by
  refine ⟨le_rfl, rfl, ?_⟩
  rw [Nat.sub_self]
  exact Option.map_id'.symm

theorem Drifted.trans {s middle after : RecoveryState × Nat} (hfirst : Drifted d id s middle)
    (hsecond : Drifted d id middle after) : Drifted d id s after := by
  refine ⟨hfirst.later.trans hsecond.later, hsecond.store.trans hfirst.store, ?_⟩
  rw [hsecond.trace, hfirst.trace, Option.map_map]
  congr 1
  funext trace
  have hlength : after.2 - s.2 = (middle.2 - s.2) + (after.2 - middle.2) := by
    have := hfirst.later
    have := hsecond.later
    omega
  rw [hlength, Disturbance.drift_add, Nat.add_sub_cancel' hfirst.later]
  rfl

/-- An operation that only reads. -/
theorem drifted_exec {op : RecoveryOp} (hop : ReadsOnly op) (s : RecoveryState × Nat) :
    Drifted d id s ((d.course id).exec setup op s).2 := by
  refine ⟨Nat.le_succ _, ?_, ?_⟩
  · rw [← @Disturbance.store_meanwhile _ d id s.2 s.1]
    unfold Course.exec
    cases op with
    | setTrace | createOrderIntent | createOrder | createFill | updateOrderStatus =>
        exact False.elim hop
    | setEvaluation runId document =>
        simp only [RecoveryOp.exec]
        split_ifs <;> rfl
    | _ => rfl
  · have hcount : s.2 + 1 - s.2 = 1 := by omega
    have hexec : ((d.course id).exec setup op s).2.1.redis.getRecoveryTrace id =
        ((d.course id).meanwhile s.2 s.1).redis.getRecoveryTrace id := by
      simp only [RedisRuntime.getRecoveryTrace]
      refine congrArg (AList.lookup id) (exec_recoveryTraces ?_)
      intro key document hset
      subst hset
      exact hop
    rw [hexec, Disturbance.getRecoveryTrace_meanwhile]
    simp only [Course.exec, hcount, Disturbance.drift]

theorem drifted_run {α : Type} {p : RecoveryProgram α} (hp : p.Performs ReadsOnly)
    (s : RecoveryState × Nat) : Drifted d id s ((d.course id).run setup p s).2 :=
  hp.run Drifted.refl (fun _ _ _ => Drifted.trans) (fun _ s hop => drifted_exec hop s) s

theorem reads_carryOver (runId : String) : (carryOver id runId).Performs ReadsOnly := by
  unfold carryOver
  split
  · exact performs_pure _
  · apply (performs_operation trivial : (getRecoveryTrace id).Performs ReadsOnly).bind
    intro found
    cases found with
    | none => exact performs_pure _
    | some latest =>
        have hcarried : (syncArbitrageEvaluationRecoveryState runId latest).Performs ReadsOnly := by
          apply (performs_operation trivial :
            (getArbitrageEvaluation runId).Performs ReadsOnly).bind
          intro evaluation
          cases evaluation with
          | none => exact performs_pure _
          | some current =>
              apply (performs_operation trivial : (ask .isoNow).Performs ReadsOnly).bind
              intro cachedAt
              apply (performs_operation trivial :
                (ask (.setEvaluation runId _)).Performs ReadsOnly).bind
              exact fun _ => performs_pure _
        exact hcarried.bind fun _ => performs_pure _

/-- Carrying a trace over to an evaluation leaves the trace to others. -/
theorem drifted_carryOver (runId : String) (s : RecoveryState × Nat) :
    Drifted d id s ((d.course id).run setup (carryOver id runId) s).2 :=
  drifted_run (reads_carryOver runId) s

/-- The turns it takes to carry a trace over to the evaluation of its run. -/
def carryTurns (d : Disturbance field) (turn : Nat) (runId : String) (evaluated : Bool) : Nat :=
  if runId = "" then 0
  else if (d.around turn).redisFails then 1
  else if (d.around (turn + 1)).redisFails || !evaluated then 2
  else 4

theorem turns_carryOver (runId : String) {s : RecoveryState} {turn : Nat} {current : Dict}
    (htrace : s.redis.getRecoveryTrace id = some current) :
    ((d.course id).run setup (carryOver id runId) (s, turn)).2.2 =
      turn + carryTurns d turn runId (s.redis.getArbitrageEvaluation runId).isSome := by
  by_cases hrun : runId = ""
  · rw [carryOver, if_pos hrun, carryTurns, if_pos hrun]
    rfl
  · have hfound : ((RecoveryOp.getTrace id).exec setup ((d.course id).around turn)
        ((d.course id).meanwhile turn s)).1 =
          if (d.around turn).redisFails then none else some ((d.other turn).write current) := by
      simp only [RecoveryOp.exec, Disturbance.getRecoveryTrace_meanwhile, htrace, Option.map_some]
      rfl
    have hevaluation : ((RecoveryOp.getEvaluation runId).exec setup
        ((d.course id).around (turn + 1)) ((d.course id).meanwhile (turn + 1)
          ((d.course id).meanwhile turn s))).1 =
          if (d.around (turn + 1)).redisFails then none
          else s.redis.getArbitrageEvaluation runId := by
      simp only [RecoveryOp.exec, RedisRuntime.getArbitrageEvaluation,
        Disturbance.latestEvaluations_meanwhile]
      rfl
    rw [carryOver, if_neg hrun, carryTurns, if_neg hrun, getRecoveryTrace, Course.run_ask_bind,
      hfound]
    cases (d.around turn).redisFails with
    | true => rfl
    | false =>
        have hnext : ∀ (trace : Dict) (reached : RecoveryState),
            reached = (d.course id).meanwhile turn s →
            ((d.course id).run setup (syncArbitrageEvaluationRecoveryState runId trace >>= fun _ =>
              pure (some trace)) (reached, turn + 1)).2.2 = turn +
                if (d.around (turn + 1)).redisFails ||
                  !(s.redis.getArbitrageEvaluation runId).isSome then 2 else 4 := by
          rintro trace _ rfl
          rw [syncArbitrageEvaluationRecoveryState, getArbitrageEvaluation, bind_assoc,
            Course.run_ask_bind, hevaluation]
          cases (d.around (turn + 1)).redisFails with
          | true => rfl
          | false =>
              cases s.redis.getArbitrageEvaluation runId with
              | none => rfl
              | some evaluation => rfl
        exact hnext _ _ rfl

/-- How the writing half of a transition ends: what it wrote, if Redis took it, is what
others go on with, and the last read answers what is then stored. -/
theorem run_writeTransition (payload current : Dict) (s : RecoveryState) (turn : Nat)
    (htrace : s.redis.getRecoveryTrace id = some current) :
    ∃ found after updatedAt,
      (d.course id).run setup (writeTransition id payload) (s, turn) =
        (.ok (.written found), after) ∧
      after.2 = turn + 3 + carryTurns d (turn + 2) (Text.strip (traceText payload "run_id"))
        (s.redis.getArbitrageEvaluation (Text.strip (traceText payload "run_id"))).isSome ∧
      after.1.store = s.store ∧
      after.1.redis.getRecoveryTrace id = some (d.drift (turn + 2) (after.2 - (turn + 2))
        (if (d.around (turn + 1)).redisFails then d.drift turn 2 current
          else payload.merge [("recovery_trace_id", .str id), ("updated_at", updatedAt)])) ∧
      found = if (d.around (after.2 - 1)).redisFails then none
        else after.1.redis.getRecoveryTrace id := by
  let updatedAt := ((d.course id).around turn).isoNow
  let before := (d.course id).meanwhile (turn + 1) ((d.course id).meanwhile turn s)
  let stored := payload.merge [("recovery_trace_id", .str id), ("updated_at", .str updatedAt)]
  let wrote := ((RecoveryOp.setTrace id stored).exec setup ((d.course id).around (turn + 1))
    before).2
  -- a write that fails leaves what the others have made of the trace
  have hwrote : wrote.redis.getRecoveryTrace id = some
      (if (d.around (turn + 1)).redisFails then d.drift turn 2 current else stored) := by
    rw [getRecoveryTrace_exec_setTrace, Disturbance.getRecoveryTrace_meanwhile,
      Disturbance.getRecoveryTrace_meanwhile, htrace]
    change (if (d.around (turn + 1)).redisFails = false ∧ id = id then _ else _) = _
    cases (d.around (turn + 1)).redisFails with
    | false => simp
    | true => rfl
  have hstore : wrote.store = s.store := by
    have hbefore : before.store = s.store := by
      rw [Disturbance.store_meanwhile, Disturbance.store_meanwhile]
    rw [← hbefore]
    change ((RecoveryOp.setTrace id stored).exec setup _ before).2.store = _
    rw [RecoveryOp.exec]
    split_ifs <;> rfl
  have hevaluations : wrote.redis.latestEvaluations = s.redis.latestEvaluations := by
    have hbefore : before.redis.latestEvaluations = s.redis.latestEvaluations := by
      rw [Disturbance.latestEvaluations_meanwhile, Disturbance.latestEvaluations_meanwhile]
    rw [← hbefore]
    change ((RecoveryOp.setTrace id stored).exec setup _ before).2.redis.latestEvaluations = _
    rw [RecoveryOp.exec]
    split_ifs <;> rfl
  obtain ⟨latest, carried, hcarry, -⟩ := @completes_carryOver setup (d.course id) id
    (Text.strip (traceText payload "run_id")) wrote (turn + 2)
  have hcarried := @drifted_carryOver field d id setup (Text.strip (traceText payload "run_id"))
    (wrote, turn + 2)
  rw [hcarry] at hcarried
  let after : RecoveryState × Nat :=
    ((d.course id).meanwhile carried.2 carried.1, carried.2 + 1)
  have hread := @drifted_exec field d id setup (.getTrace id) trivial carried
  have hafter : Drifted d id (wrote, turn + 2) after := hcarried.trans hread
  refine ⟨if ((d.course id).around carried.2).redisFails then none
    else ((d.course id).meanwhile carried.2 carried.1).redis.getRecoveryTrace id,
    after, .str updatedAt, ?_, ?_, hafter.store.trans hstore, ?_, ?_⟩
  · have hsync : (d.course id).run setup (syncRecoveryTrace id payload) (s, turn) =
        (.ok (), (wrote, turn + 2)) := rfl
    unfold Course.run at hsync hcarry ⊢
    rw [writeTransition, run_bind_ok hsync, run_bind_ok hcarry]
    rfl
  · -- how long the carry over takes depends on the evaluation that it finds
    have hturns := @turns_carryOver _ d id setup (Text.strip (traceText payload "run_id")) wrote
      (turn + 2) _ hwrote
    rw [hcarry] at hturns
    change carried.2 = _ at hturns
    rw [RedisRuntime.getArbitrageEvaluation, hevaluations] at hturns
    change carried.2 + 1 = _
    rw [hturns, RedisRuntime.getArbitrageEvaluation]
    omega
  · rw [hafter.trace, hwrote, Option.map_some]
  · have hlast : after.2 - 1 = carried.2 := by
      change carried.2 + 1 - 1 = carried.2
      omega
    rw [hlast]
    rfl

end Reading

section Requests

/-- The requests that make a row and link it to a trace. -/
inductive UnwindRequest where
  | startUnwind
  | submitUnwindOrder
deriving DecidableEq, Repr

namespace UnwindRequest

variable (setup : RecoverySetup) (id : String) (body : Dict)

/-- The field a trace links the row in. -/
def field : UnwindRequest → String
  | startUnwind => "linked_unwind_action_id"
  | submitUnwindOrder => "linked_unwind_order_id"

def respond : UnwindRequest → RecoveryRoute
  | startUnwind => startUnwindRecoveryTraceResponse setup id body
  | submitUnwindOrder => submitUnwindOrderResponse setup id body

/-- The row an answer reports. -/
def reported (answer : TraceAnswer) : UnwindRequest → Option String
  | startUnwind => answer.createdUnwindIntent.map OrderIntent.intentId
  | submitUnwindOrder => answer.createdUnwindOrder.map Order.orderId

/-- The store makes a row for the request, given the trace it has read. -/
def Makes (store : MemoryStore) (current : Dict) : UnwindRequest → Prop
  | startUnwind =>
      optionalBool (optionalString (body.get "create_unwind_intent")) = some true ∧
        ¬ (body.has "residual_exposure_quote" ∧ !(jsonNumberText setup.decimals
          (body.get "residual_exposure_quote")).any isNonnegativeNumberText) ∧
        ∃ new, unwindIntentRequest setup id body current = .ok new ∧
          ((MemoryStore.createOrderIntent setup.platform new store).1.createdRow).isSome
  | submitUnwindOrder =>
      linked "linked_unwind_action_id" current ≠ "" ∧
        linked "linked_unwind_order_id" current = "" ∧
        ∃ new, orderTerms setup.decimals body [] (linked "linked_unwind_action_id" current) =
            .ok new ∧
          ((MemoryStore.createOrder setup.platform new store).1.createdRow).isSome

/-- An error leaves the intents and orders of the store as they were, and a success
reports a row that the stored trace links. -/
def Atomic (request : UnwindRequest) (before after : RecoveryState) :
    Except RouteError TraceAnswer → Prop
  | .error _ => after.store.orderIntents = before.store.orderIntents ∧
      after.store.orders = before.store.orders
  | .ok answer => ∀ rowId ∈ request.reported answer, ∃ trace,
      after.redis.getRecoveryTrace id = some trace ∧ trace.get request.field = .str rowId

end UnwindRequest

/-- The transition that links a row goes through: nobody resolves the trace before it is
read again, Redis answers the read, the write and the last read of the trace, and nobody
writes back a copy from before the link. -/
structure GoesThrough {field : String} (d : Disturbance field) (last : Nat) : Prop where
  reads : (d.around 3).redisFails = false
  isOpen : ∀ turn, 0 < turn → turn ≤ 3 → (d.other turn).isAbsent = true
  writes : (d.around 5).redisFails = false
  answers : (d.around last).redisFails = false
  keeps : ∀ turn, 5 < turn → turn ≤ last → (d.other turn).isStale = false

/-- The turn in which a request that found a trace open reads it last. -/
def lastTurn {field : String} (d : Disturbance field) (s : RecoveryState) (current : Dict) : Nat :=
  6 + carryTurns d 6 (Text.strip (traceText current "run_id"))
    (s.redis.getArbitrageEvaluation (Text.strip (traceText current "run_id"))).isSome

end Requests

section Linking

variable {setup : RecoverySetup} {id : String} {request : UnwindRequest}
  {d : Disturbance request.field}

/-- How a request goes on once its row is made. -/
def linkRow (id : String) (patch : String → Dict)
    (finish : Transition → Except RouteError TraceAnswer) : RecoveryRoute := do
  let linkedAt ← ask .isoNow
  let outcome ← transitionRecoveryTrace id "active" "unwind_in_progress" (patch linkedAt)
  pure (finish outcome)

/-- What a request reports at the end, whatever its transition comes to: an error when
the trace is not read, and its row when it is. -/
structure Reports (request : UnwindRequest) (rowId : String) (patch : String → Dict)
    (finish : Transition → Except RouteError TraceAnswer) : Prop where
  nonempty : rowId ≠ ""
  links : ∀ linkedAt current, (transitioned current "active" "unwind_in_progress"
    (patch linkedAt)).get request.field = .str rowId
  spares : ∀ linkedAt, "run_id" ∉ (patch linkedAt).map Prod.fst
  missing : ∃ error, finish .missing = .error error
  unread : ∃ error, finish (.written none) = .error error
  written : ∀ latest, ∃ answer, finish (.written (some latest)) = .ok answer ∧
    request.reported answer = some rowId
  terminal : ∀ current, (∃ error, finish (.terminal current) = .error error) ∨
    ∃ answer, finish (.terminal current) = .ok answer ∧ request.reported answer = some rowId

variable {rowId : String} {patch : String → Dict}
  {finish : Transition → Except RouteError TraceAnswer}

theorem linked_of_get {field : String} {trace : Dict} (hget : trace.get field = .str rowId) :
    linked field trace = rowId := by
  by_cases hempty : rowId = "" <;> simp [linked, hget, optionalString, textOr, hempty]

/-- An error after the row is made is not atomic. -/
theorem not_atomic_error {before after : RecoveryState} {error : RouteError}
    (hmade : ¬ (after.store.orderIntents = before.store.orderIntents ∧
      after.store.orders = before.store.orders)) :
    ¬ request.Atomic id before after (.error error) := hmade

/-- Nor is a report of a row that the trace does not link. -/
theorem not_atomic_unlinked {before after : RecoveryState} {answer : TraceAnswer} {trace : Dict}
    (hreported : request.reported answer = some rowId) (hrow : rowId ≠ "")
    (htrace : after.redis.getRecoveryTrace id = some trace)
    (hunlinked : linked request.field trace = "") :
    ¬ request.Atomic id before after (.ok answer) := by
  intro hatomic
  obtain ⟨stored, hstored, hget⟩ := hatomic rowId hreported
  rw [htrace, Option.some.injEq] at hstored
  subst hstored
  exact hrow ((linked_of_get hget).symm.trans hunlinked)

/-- The last turn of a transition of a trace that nobody has resolved. -/
theorem lastTurn_of_open {field : String} {d : Disturbance field} {link current : Dict}
    {before asked : RecoveryState} (hspares : "run_id" ∉ link.map Prod.fst)
    (hisOpen : ∀ k < 3, (d.other (1 + k)).isAbsent = true)
    (hevaluations : asked.redis.latestEvaluations = before.redis.latestEvaluations) :
    4 + 3 + carryTurns d (4 + 2) (Text.strip (traceText (transitioned (d.drift 1 3 current)
        "active" "unwind_in_progress" link) "run_id"))
      (asked.redis.getArbitrageEvaluation (Text.strip (traceText (transitioned
        (d.drift 1 3 current) "active" "unwind_in_progress" link) "run_id"))).isSome - 1 =
      lastTurn d before current := by
  have hrunId : traceText (transitioned (d.drift 1 3 current) "active" "unwind_in_progress" link)
      "run_id" = traceText current "run_id" := by
    rw [Disturbance.drift_of_absent _ hisOpen, traceText, transitioned,
      Dict.get_merge_of_notMem _ _ hspares, Dict.get_merge_of_notMem _ _ (by simp), traceText]
  rw [hrunId, lastTurn, RedisRuntime.getArbitrageEvaluation,
    RedisRuntime.getArbitrageEvaluation, hevaluations]
  change 4 + 3 + carryTurns d 6 _ _ - 1 = 6 + carryTurns d 6 _ _
  omega

/-- Once its row is made, a request is atomic exactly when its transition goes through. -/
theorem linkRow_atomic_iff (hreports : Reports request rowId patch finish)
    {before s : RecoveryState} {current : Dict}
    (hmade : ¬ (s.store.orderIntents = before.store.orderIntents ∧
      s.store.orders = before.store.orders))
    (htrace : s.redis.getRecoveryTrace id = some (d.drift 1 1 current))
    (hopen : isTerminalTrace current = false) (hunlinked : linked request.field current = "") :
    ∃ answer after, (d.course id).run setup (linkRow id patch finish) (s, 2) =
        (.ok answer, after) ∧
      (request.Atomic id before after.1 answer ↔ GoesThrough d (lastTurn d s current)) := by
  -- the state that the read of turn 3 finds: others have patched the trace, the row stays
  let asked := (d.course id).meanwhile 3 ((d.course id).meanwhile 2 s)
  have hasked : asked.redis.getRecoveryTrace id = some (d.drift 1 3 current) := by
    rw [Disturbance.getRecoveryTrace_meanwhile, Disturbance.getRecoveryTrace_meanwhile, htrace]
    rfl
  have hstore : asked.store = s.store := by
    rw [Disturbance.store_meanwhile, Disturbance.store_meanwhile]
  have hevaluations : asked.redis.latestEvaluations = s.redis.latestEvaluations := by
    rw [Disturbance.latestEvaluations_meanwhile, Disturbance.latestEvaluations_meanwhile]
  have hmadeAfter : ∀ after : RecoveryState, after.store = asked.store →
      ¬ (after.store.orderIntents = before.store.orderIntents ∧
        after.store.orders = before.store.orders) := by
    intro after hafter
    rw [hafter, hstore]
    exact hmade
  have hstays := @Disturbance.isTerminalTrace_drift_iff _ d 1 3 current
  have hrun : (d.course id).run setup (linkRow id patch finish) (s, 2) =
      (d.course id).run setup ((match (if (d.around 3).redisFails then none
          else asked.redis.getRecoveryTrace id) with
        | none => pure .missing
        | some found =>
            if isTerminalTrace found then pure (.terminal found)
            else writeTransition id (transitioned found "active" "unwind_in_progress"
              (patch (d.around 2).isoNow))) >>= fun outcome => pure (finish outcome))
        (asked, 4) := rfl
  rw [hrun]
  cases hreads : (d.around 3).redisFails with
  | true =>
      -- the read fails: the row is made, and an error is answered
      obtain ⟨error, herror⟩ := hreports.missing
      refine ⟨.error error, (asked, 4), ?_, iff_of_false ?_ ?_⟩
      · rw [← herror]
        rfl
      · exact not_atomic_error (hmadeAfter _ rfl)
      · intro hthrough
        exact absurd (hreads.symm.trans hthrough.reads) Bool.false_ne_true.symm
  | false =>
      rw [hasked]
      cases hterminal : isTerminalTrace (d.drift 1 3 current) with
      | true =>
          -- someone closed the trace in the meantime: the row is made, and no link to it is written
          have hresolved : ¬ GoesThrough d (lastTurn d s current) := by
            intro hthrough
            have hopened := hstays.mpr
              ⟨hopen, fun k hk => hthrough.isOpen _ (by omega) (by omega)⟩
            exact Bool.false_ne_true (hopened.symm.trans hterminal)
          rcases hreports.terminal (d.drift 1 3 current) with
            ⟨error, herror⟩ | ⟨answer, hanswer, hreported⟩
          · refine ⟨.error error, (asked, 4), ?_, iff_of_false ?_ hresolved⟩
            · rw [← herror]
              simp only [Bool.false_eq_true, if_false, hterminal, if_true]
              rfl
            · exact not_atomic_error (hmadeAfter _ rfl)
          · refine ⟨.ok answer, (asked, 4), ?_, iff_of_false ?_ hresolved⟩
            · rw [← hanswer]
              simp only [Bool.false_eq_true, if_false, hterminal, if_true]
              rfl
            · exact not_atomic_unlinked hreported hreports.nonempty hasked
                (Disturbance.linked_drift hunlinked)
      | false =>
          -- the trace is still open, so it is written, carried over and read back
          have hisOpen := (hstays.mp hterminal).2
          obtain ⟨found, after, updatedAt, hwriting, hlater, hkept, hstored, hfound⟩ :=
            @run_writeTransition _ d id setup (transitioned (d.drift 1 3 current) "active"
              "unwind_in_progress" (patch (d.around 2).isoNow)) _ asked 4 hasked
          have hlast : after.2 - 1 = lastTurn d s current := by
            rw [hlater, lastTurn_of_open (hreports.spares _) hisOpen hevaluations]
          rw [hlast] at hfound
          have hfinish : (d.course id).run setup ((match (if false = true then none
                else some (d.drift 1 3 current)) with
              | none => pure .missing
              | some found =>
                  if isTerminalTrace found then pure (.terminal found)
                  else writeTransition id (transitioned found "active" "unwind_in_progress"
                    (patch (d.around 2).isoNow))) >>= fun outcome => pure (finish outcome))
              (asked, 4) = (.ok (finish (.written found)), after) := by
            simp only [Bool.false_eq_true, if_false, hterminal]
            unfold Course.run at hwriting ⊢
            rw [run_bind_ok hwriting]
            rfl
          cases hanswers : (d.around (lastTurn d s current)).redisFails with
          | true =>
              obtain ⟨error, herror⟩ := hreports.unread
              have hnone : found = none := by rw [hfound, hanswers, if_pos rfl]
              rw [hnone, herror] at hfinish
              refine ⟨.error error, after, hfinish, iff_of_false ?_ ?_⟩
              · exact not_atomic_error (hmadeAfter _ hkept)
              · intro hthrough
                exact absurd (hanswers.symm.trans hthrough.answers) Bool.false_ne_true.symm
          | false =>
              have hsome := hfound
              rw [hanswers, if_neg Bool.false_ne_true, hstored] at hsome
              obtain ⟨answer, hanswer, hreported⟩ := hreports.written _
              rw [hsome, hanswer] at hfinish
              refine ⟨.ok answer, after, hfinish, ?_⟩
              cases hwrites : (d.around 5).redisFails with
              | true =>
                  -- a write that is lost leaves the trace without the link that is reported
                  refine iff_of_false ?_ ?_
                  · apply not_atomic_unlinked hreported hreports.nonempty hstored
                    rw [hwrites, if_pos rfl]
                    exact Disturbance.linked_drift
                      (Disturbance.linked_drift (Disturbance.linked_drift hunlinked))
                  · intro hthrough
                    exact absurd (hwrites.symm.trans hthrough.writes) Bool.false_ne_true.symm
              | false =>
                  rw [hwrites, if_neg Bool.false_ne_true] at hstored
                  constructor
                  · intro hatomic
                    refine ⟨hreads, fun turn hfirst hlast => ?_, hwrites, hanswers,
                      fun turn hafter hbefore => ?_⟩
                    · have hturn := hisOpen (turn - 1) (by omega)
                      rwa [Nat.add_sub_cancel' hfirst] at hturn
                    · -- a stale copy that is written after the link takes the link away again
                      by_contra hstale
                      refine not_atomic_unlinked hreported hreports.nonempty hstored ?_ hatomic
                      apply Disturbance.linked_drift_of_stale (k := turn - 6) (by omega)
                      rw [Nat.add_sub_cancel' hafter]
                      exact Bool.eq_true_of_not_eq_false hstale
                  · intro hthrough rowReported hrow
                    rw [hreported, Option.mem_some_iff] at hrow
                    subst hrow
                    refine ⟨_, hstored, ?_⟩
                    rw [Disturbance.get_drift, Dict.get_merge_of_notMem]
                    · exact hreports.links _ _
                    · cases request <;> simp [UnwindRequest.field]
                    · exact fun k hk => hthrough.keeps (6 + k) (by omega) (by omega)

end Linking

section Starting

variable {setup : RecoverySetup} {id : String} {body : Dict}

theorem uuid_ne_empty (p : Platform) (n : Nat) : p.uuid n ≠ "" :=
  (jsonText_eq_some (p.uuid_plain n)).2

/-- What an unwind reports that was started for an intent. -/
def reportStarted (intent : OrderIntent) : Transition → Except RouteError TraceAnswer :=
  answerTransition fun latest => { trace := latest, createdUnwindIntent := some intent }

theorem reports_startUnwind {intent : OrderIntent} (residual : Option Numeral)
    (hintent : intent.intentId ≠ "") :
    Reports .startUnwind intent.intentId (unwindPatch body (some intent) residual)
      (reportStarted intent) := by
  refine ⟨hintent, fun linkedAt current => ?_, fun linkedAt => by simp [unwindPatch], ⟨_, rfl⟩,
    ⟨_, rfl⟩, fun latest => ⟨_, rfl, rfl⟩, fun current => Or.inl ⟨_, rfl⟩⟩
  exact Dict.get_merge_of_mem (by simp [unwindPatch]) List.mem_cons_self

/-- What a submitted unwind order reports, also of a trace that was found finished. -/
def reportSubmitted (order : Order) (outcome : Transition) : Except RouteError TraceAnswer :=
  match Transition.trace outcome with
  | none => .error traceNotFound
  | some trace => .ok { status := 201, trace := trace, createdUnwindOrder := some order }

theorem reports_submitUnwindOrder {order : Order} (horder : order.orderId ≠ "") :
    Reports .submitUnwindOrder order.orderId
      (fun createdAt => [("linked_unwind_order_id", .str order.orderId),
        ("unwind_order_created_at", .str createdAt)]) (reportSubmitted order) := by
  refine ⟨horder, fun linkedAt current => ?_, fun linkedAt => by simp, ⟨_, rfl⟩, ⟨_, rfl⟩,
    fun latest => ⟨_, rfl, rfl⟩, fun current => Or.inr ⟨_, rfl, rfl⟩⟩
  exact Dict.get_merge_of_mem (by simp) List.mem_cons_self

end Starting

section Atomicity

variable (setup : RecoverySetup) (request : UnwindRequest) (d : Disturbance request.field)
  (id : String) (body : Dict) (s : RecoveryState)

/-- The trace a request finds when it first reads it. -/
def firstRead : Option Dict :=
  if (d.around 0).redisFails then none
  else (s.redis.getRecoveryTrace id).map (d.other 0).write

/-- The request finds the trace open and makes a row of the store for it. -/
def MakesRow (current : Dict) : Prop :=
  firstRead request d id s = some current ∧ isTerminalTrace current = false ∧
    request.Makes setup id body s.store current

/-- Whenever the request makes a row, its link goes through. -/
def LinkGoesThrough : Prop :=
  ∀ current, MakesRow setup request d id body s current → GoesThrough d (lastTurn d s current)

/-- The request answers, and its answer is atomic. -/
def AnswersAtomically : Prop :=
  ∃ answer after, (d.course id).run setup (request.respond setup id body) (s, 0) =
    (.ok answer, after) ∧ request.Atomic id s after.1 answer

variable {setup request d id body s}

/-- A request that makes no row is atomic when it leaves the store alone and reports none. -/
theorem atomically_iff_of_not_makes {answer : Except RouteError TraceAnswer}
    {after : RecoveryState × Nat} (hmakes : ∀ current, ¬ MakesRow setup request d id body s current)
    (hrun : (d.course id).run setup (request.respond setup id body) (s, 0) = (.ok answer, after))
    (hstore : after.1.store = s.store)
    (hreported : ∀ success, answer = .ok success → request.reported success = none) :
    AnswersAtomically setup request d id body s ↔ LinkGoesThrough setup request d id body s := by
  refine iff_of_true ⟨answer, after, hrun, ?_⟩ fun current h => absurd h (hmakes current)
  cases answer with
  | error error => exact ⟨by rw [hstore], by rw [hstore]⟩
  | ok success =>
      intro rowId hrow
      rw [hreported success rfl] at hrow
      cases hrow

/-- So is one that answers an error and leaves the store alone. -/
theorem atomically_iff_of_refused {error : RouteError} {after : RecoveryState × Nat}
    (hmakes : ∀ current, ¬ MakesRow setup request d id body s current)
    (hrun : (d.course id).run setup (request.respond setup id body) (s, 0) =
      (.ok (.error error), after)) (hstore : after.1.store = s.store) :
    AnswersAtomically setup request d id body s ↔ LinkGoesThrough setup request d id body s := by
  apply atomically_iff_of_not_makes hmakes hrun hstore
  intro success hsuccess
  cases hsuccess

/-- A request that makes a row is atomic exactly when its link goes through. -/
theorem atomically_iff_of_makes {rowId : String} {patch : String → Dict}
    {finish : Transition → Except RouteError TraceAnswer} {made : RecoveryState} {current : Dict}
    (hmakes : MakesRow setup request d id body s current)
    (hreports : Reports request rowId patch finish)
    (hrun : (d.course id).run setup (request.respond setup id body) (s, 0) =
      (d.course id).run setup (linkRow id patch finish) (made, 2))
    (hmade : ¬ (made.store.orderIntents = s.store.orderIntents ∧
      made.store.orders = s.store.orders))
    (hredis : made.redis = ((d.course id).meanwhile 1 ((d.course id).meanwhile 0 s)).redis)
    (hunlinked : linked request.field current = "") :
    AnswersAtomically setup request d id body s ↔ LinkGoesThrough setup request d id body s := by
  have htrace : made.redis.getRecoveryTrace id = some (d.drift 1 1 current) := by
    have hread := hmakes.1
    unfold firstRead at hread
    split at hread
    · cases hread
    · rw [hredis, Disturbance.getRecoveryTrace_meanwhile, Disturbance.getRecoveryTrace_meanwhile,
        hread]
      rfl
  have hlast : lastTurn d made current = lastTurn d s current := by
    have hevaluations : made.redis.latestEvaluations = s.redis.latestEvaluations := by
      rw [hredis, Disturbance.latestEvaluations_meanwhile, Disturbance.latestEvaluations_meanwhile]
    rw [lastTurn, lastTurn, RedisRuntime.getArbitrageEvaluation,
      RedisRuntime.getArbitrageEvaluation, hevaluations]
  obtain ⟨answer, after, hlink, hatomic⟩ :=
    @linkRow_atomic_iff setup id request d rowId patch finish hreports s made current hmade htrace
      hmakes.2.1 hunlinked
  have hwhole := hrun.trans hlink
  rw [hlast] at hatomic
  have hanswers : AnswersAtomically setup request d id body s ↔
      request.Atomic id s after.1 answer := by
    constructor
    · intro hsome
      obtain ⟨found, last, hfound, hholds⟩ := hsome
      rw [hwhole, Prod.mk.injEq, Except.ok.injEq] at hfound
      obtain ⟨rfl, rfl⟩ := hfound
      exact hholds
    · exact fun hholds => ⟨answer, after, hwhole, hholds⟩
  rw [hanswers, hatomic]
  constructor
  · intro hthrough found hfound
    have hsame : some current = some found := hmakes.1.symm.trans hfound.1
    rw [Option.some.injEq] at hsame
    exact hsame ▸ hthrough
  · exact fun hthrough => hthrough current hmakes

end Atomicity

section Answers

variable {setup : RecoverySetup} {id : String} {body : Dict} {s : RecoveryState}

/-- A request begins with reading the trace. -/
theorem run_firstRead {request : UnwindRequest} {d : Disturbance request.field}
    (rest : Option Dict → RecoveryRoute) :
    (d.course id).run setup (getRecoveryTrace id >>= rest) (s, 0) =
      (d.course id).run setup (rest (firstRead request d id s))
        ((d.course id).meanwhile 0 s, 1) := by
  have hreply : ((RecoveryOp.getTrace id).exec setup ((d.course id).around 0)
      ((d.course id).meanwhile 0 s)).1 = firstRead request d id s := by
    rw [firstRead, ← Disturbance.getRecoveryTrace_meanwhile]
    rfl
  rw [← hreply]
  rfl

/-- A store that makes an order does not stay as it was. -/
theorem createOrder_made {p : Platform} {new : NewOrder} {store : MemoryStore} {order : Order}
    (hrow : (MemoryStore.createOrder p new store).1.createdRow = some order) :
    order.orderId ≠ "" ∧ ¬ ((MemoryStore.createOrder p new store).2.orderIntents =
      store.orderIntents ∧ (MemoryStore.createOrder p new store).2.orders = store.orders) := by
  have hrows := (createOrder_rows p new store).1
  rw [hrow] at hrows
  constructor
  · rcases MemoryStore.createOrder_cases p new store with
      ⟨intent, -, -, -, -, hcreated⟩ | ⟨hnot, -⟩
    · rw [hcreated, StoreAnswer.createdRow_created, Option.some.injEq] at hrow
      rw [← hrow]
      exact uuid_ne_empty p store.serial
    · rw [StoreAnswer.createdRow_of_ne hnot] at hrow
      cases hrow
  · rintro ⟨-, hsame⟩
    rw [hsame] at hrows
    simp at hrows

/-- Nor does one that makes an intent. -/
theorem createOrderIntent_made {p : Platform} {new : NewOrderIntent} {store : MemoryStore}
    {intent : OrderIntent}
    (hrow : (MemoryStore.createOrderIntent p new store).1.createdRow = some intent) :
    intent.intentId ≠ "" ∧ ¬ ((MemoryStore.createOrderIntent p new store).2.orderIntents =
      store.orderIntents ∧
        (MemoryStore.createOrderIntent p new store).2.orders = store.orders) := by
  rcases MemoryStore.createOrderIntent_cases p new store with
    ⟨created, hanswer, hid, -, hintents, -⟩ | ⟨hnone, -⟩
  · constructor
    · rw [hanswer, StoreAnswer.createdRow_created, Option.some.injEq] at hrow
      rw [← hrow, hid]
      exact uuid_ne_empty p store.serial
    · rintro ⟨hsame, -⟩
      rw [hsame] at hintents
      simp at hintents
  · rw [hnone] at hrow
    cases hrow

/-- Submitting an unwind order ends with linking it, if the store made it. -/
theorem submitUnwindOrder_linkRow (id : String) (answer : StoreAnswer Order) :
    (match answer.createdRow with
      | none => pure (.error (unwindOrderRefusal answer.outcome))
      | some order => do
          let createdAt ← ask .isoNow
          let outcome ← transitionRecoveryTrace id "active" "unwind_in_progress"
            [("linked_unwind_order_id", .str order.orderId),
              ("unwind_order_created_at", .str createdAt)]
          match Transition.trace outcome with
          | none => pure (.error traceNotFound)
          | some trace =>
              pure (.ok { status := 201, trace := trace, createdUnwindOrder := some order })) =
    (match answer.createdRow with
      | none => (pure (.error (unwindOrderRefusal answer.outcome)) : RecoveryRoute)
      | some order => linkRow id (fun createdAt =>
          [("linked_unwind_order_id", .str order.orderId),
            ("unwind_order_created_at", .str createdAt)]) (reportSubmitted order)) := by
  cases answer.createdRow with
  | none => rfl
  | some order =>
      apply bind_congr
      intro createdAt
      apply bind_congr
      intro outcome
      unfold reportSubmitted
      cases Transition.trace outcome with
      | none => rfl
      | some trace => rfl

theorem submitUnwindOrder_atomically_iff
    (d : Disturbance (UnwindRequest.field .submitUnwindOrder)) :
    AnswersAtomically setup .submitUnwindOrder d id body s ↔
      LinkGoesThrough setup .submitUnwindOrder d id body s := by
  have hrun := @run_firstRead setup id s .submitUnwindOrder d
  have hrespond : UnwindRequest.respond setup id body .submitUnwindOrder =
      submitUnwindOrderResponse setup id body := rfl
  -- a request that is refused after the read makes no row, and both sides hold
  have hrefused : ∀ error, (∀ current, ¬ MakesRow setup .submitUnwindOrder d id body s current) →
      (d.course id).run setup (UnwindRequest.respond setup id body .submitUnwindOrder) (s, 0) =
        (.ok (.error error), ((d.course id).meanwhile 0 s, 1)) →
      (AnswersAtomically setup .submitUnwindOrder d id body s ↔
        LinkGoesThrough setup .submitUnwindOrder d id body s) :=
    fun error hmakes hanswer =>
      atomically_iff_of_refused hmakes hanswer (Disturbance.store_meanwhile 0 s)
  cases hfirst : firstRead .submitUnwindOrder d id s with
  | none =>
      refine hrefused traceNotFound (by simp [MakesRow, hfirst]) ?_
      rw [hrespond, submitUnwindOrderResponse, hrun, hfirst]
      rfl
  | some current =>
      have hmakes : ∀ found, MakesRow setup .submitUnwindOrder d id body s found ↔
          found = current ∧ isTerminalTrace current = false ∧
            UnwindRequest.Makes setup id body s.store current .submitUnwindOrder := by
        intro found
        rw [MakesRow, hfirst, Option.some.injEq, eq_comm]
        constructor
        · rintro ⟨rfl, hfound⟩
          exact ⟨rfl, hfound⟩
        · rintro ⟨rfl, hfound⟩
          exact ⟨rfl, hfound⟩
      by_cases hterminal : isTerminalTrace current = true
      · refine hrefused traceTerminal (by simp [hmakes, hterminal]) ?_
        rw [hrespond, submitUnwindOrderResponse, hrun, hfirst]
        dsimp only
        rw [if_pos hterminal]
        rfl
      by_cases hintent : linked "linked_unwind_action_id" current = ""
      · refine hrefused ⟨409, "RECOVERY_TRACE_UNWIND_INTENT_MISSING",
          "recovery trace does not have a linked unwind intent"⟩
          (by simp [hmakes, UnwindRequest.Makes, hintent]) ?_
        rw [hrespond, submitUnwindOrderResponse, hrun, hfirst]
        dsimp only
        rw [if_neg hterminal, ← linked, if_pos hintent]
        rfl
      by_cases horder : linked "linked_unwind_order_id" current = ""
      · cases hterms : orderTerms setup.decimals body []
            (linked "linked_unwind_action_id" current) with
        | error error =>
            refine hrefused error (by simp [hmakes, UnwindRequest.Makes, hterms]) ?_
            rw [hrespond, submitUnwindOrderResponse, hrun, hfirst]
            dsimp only
            rw [if_neg hterminal, ← linked, if_neg hintent, ← linked, if_neg (not_not.mpr horder),
              hterms]
            rfl
        | ok new =>
            -- the order is created in a store that nobody else has touched
            let entered := (d.course id).meanwhile 1 ((d.course id).meanwhile 0 s)
            have hentered : entered.store = s.store := by
              rw [Disturbance.store_meanwhile, Disturbance.store_meanwhile]
            have hcreate : (d.course id).run setup
                (UnwindRequest.respond setup id body .submitUnwindOrder) (s, 0) =
              (d.course id).run setup
                (match (MemoryStore.createOrder setup.platform new entered.store).1.createdRow with
                | none => pure (.error (unwindOrderRefusal
                    (MemoryStore.createOrder setup.platform new entered.store).1.outcome))
                | some order => linkRow id (fun createdAt =>
                    [("linked_unwind_order_id", .str order.orderId),
                      ("unwind_order_created_at", .str createdAt)]) (reportSubmitted order))
                (⟨entered.redis, (MemoryStore.createOrder setup.platform new entered.store).2⟩,
                  2) := by
              rw [hrespond, submitUnwindOrderResponse, hrun, hfirst]
              dsimp only
              rw [if_neg hterminal, ← linked, if_neg hintent, ← linked,
                if_neg (not_not.mpr horder), hterms]
              exact (@Course.run_ask_bind setup (d.course id) _ _ _ _ _).trans
                (congrArg (fun p => (d.course id).run setup p _) (submitUnwindOrder_linkRow id _))
            rw [hentered] at hcreate
            cases hrow : (MemoryStore.createOrder setup.platform new s.store).1.createdRow with
            | none =>
                rw [hrow] at hcreate
                refine atomically_iff_of_refused ?_ hcreate ?_
                · simp [hmakes, UnwindRequest.Makes, hterms, hrow]
                · rcases MemoryStore.createOrder_cases setup.platform new s.store with
                    ⟨intent, -, -, -, -, hcreated⟩ | ⟨-, hsame⟩
                  · rw [hcreated, StoreAnswer.createdRow_created] at hrow
                    cases hrow
                  · exact hsame
            | some order =>
                rw [hrow] at hcreate
                obtain ⟨hid, hmade⟩ := createOrder_made hrow
                apply atomically_iff_of_makes _ (reports_submitUnwindOrder hid) hcreate hmade rfl
                  horder
                rw [hmakes]
                refine ⟨rfl, Bool.eq_false_of_not_eq_true hterminal, hintent, horder, new, hterms,
                  ?_⟩
                rw [hrow]
                rfl
      · refine hrefused ⟨409, "RECOVERY_TRACE_UNWIND_ORDER_EXISTS",
          "recovery trace already has a linked unwind order"⟩
          (by simp [hmakes, UnwindRequest.Makes, horder]) ?_
        rw [hrespond, submitUnwindOrderResponse, hrun, hfirst]
        dsimp only
        rw [if_neg hterminal, ← linked, if_neg hintent, ← linked, if_pos horder]
        rfl

/-- An unwind that is started without an intent leaves the store alone and reports none. -/
theorem run_startUnwind_none (d : Disturbance (UnwindRequest.field .startUnwind))
    (residual : Option Numeral) (s : RecoveryState) (turn : Nat) :
    ∃ answer after, (d.course id).run setup (startUnwind id body none residual) (s, turn) =
        (.ok answer, after) ∧ after.1.store = s.store ∧
      ∀ success, answer = .ok success → success.createdUnwindIntent = none := by
  let asked := (d.course id).meanwhile (turn + 1) ((d.course id).meanwhile turn s)
  have hasked : asked.store = s.store := by
    rw [Disturbance.store_meanwhile, Disturbance.store_meanwhile]
  let finish : Transition → Except RouteError TraceAnswer :=
    answerTransition fun latest => { trace := latest, createdUnwindIntent := none }
  have hreports : ∀ outcome success, finish outcome = .ok success →
      success.createdUnwindIntent = none := by
    intro outcome success hsuccess
    unfold finish answerTransition at hsuccess
    split at hsuccess <;> cases hsuccess
    rfl
  have hrun : (d.course id).run setup (startUnwind id body none residual) (s, turn) =
      (d.course id).run setup ((match (if (d.around (turn + 1)).redisFails then none
          else asked.redis.getRecoveryTrace id) with
        | none => pure .missing
        | some found =>
            if isTerminalTrace found then pure (.terminal found)
            else writeTransition id (transitioned found "active" "unwind_in_progress"
              (unwindPatch body none residual (d.around turn).isoNow))) >>= fun outcome =>
            pure (finish outcome)) (asked, turn + 2) := rfl
  rw [hrun]
  cases (d.around (turn + 1)).redisFails with
  | true => exact ⟨_, _, rfl, hasked, hreports .missing⟩
  | false =>
      rw [if_neg Bool.false_ne_true]
      cases htrace : asked.redis.getRecoveryTrace id with
      | none => exact ⟨_, _, rfl, hasked, hreports .missing⟩
      | some current =>
          dsimp only
          split_ifs with hterminal
          · exact ⟨_, _, rfl, hasked, hreports (.terminal current)⟩
          · obtain ⟨found, after, updatedAt, hwriting, -, hkept, -⟩ :=
              @run_writeTransition _ d id setup (transitioned current "active" "unwind_in_progress"
                (unwindPatch body none residual (d.around turn).isoNow)) _ asked (turn + 2) htrace
            exact ⟨_, after, run_bind_ok hwriting, hkept.trans hasked, hreports (.written found)⟩

/-- How a request to start an unwind goes on with the intent it has asked for. -/
def startUnwindFor (id : String) (body : Dict) (residual : Option Numeral) :
    Except RouteError OrderIntent → RecoveryRoute
  | .error error => pure (.error error)
  | .ok intent => startUnwind id body (some intent) residual

def intentCreateFailed : RouteError :=
  ⟨409, "RECOVERY_TRACE_UNWIND_INTENT_CREATE_FAILED", "failed to create linked unwind intent"⟩

theorem startUnwindFor_created {residual : Option Numeral} (answer : StoreAnswer OrderIntent) :
    (match answer.createdRow with
      | none => pure (.error intentCreateFailed)
      | some intent => (pure (.ok intent) : RecoveryProgram (Except RouteError OrderIntent))) >>=
        startUnwindFor id body residual =
      answer.createdRow.elim (pure (.error intentCreateFailed))
        fun intent => startUnwind id body (some intent) residual := by
  cases answer.createdRow with
  | none => rfl
  | some intent => rfl

/-- The row of an intent that a request of an unwind asks for links nothing else. -/
theorem unlinked_of_unwindIntentRequest {current : Dict} {new : NewOrderIntent}
    (hrequest : unwindIntentRequest setup id body current = .ok new) :
    linked "linked_unwind_action_id" current = "" := by
  by_contra hlinked
  unfold unwindIntentRequest at hrequest
  dsimp only at hrequest
  rw [← linked, if_pos hlinked] at hrequest
  cases hrequest

theorem startUnwind_atomically_iff (d : Disturbance (UnwindRequest.field .startUnwind)) :
    AnswersAtomically setup .startUnwind d id body s ↔
      LinkGoesThrough setup .startUnwind d id body s := by
  let create := optionalBool (optionalString (body.get "create_unwind_intent"))
  let residual := jsonNumberText setup.decimals (body.get "residual_exposure_quote")
  have hrun := @run_firstRead setup id s .startUnwind d
  -- a body that is refused before the trace is read makes no row
  by_cases hcreate : (body.has "create_unwind_intent" && create.isNone) = true
  · have hrespond : UnwindRequest.respond setup id body .startUnwind =
        pure (.error (badRequest "create_unwind_intent must be true or false")) := by
      change startUnwindRecoveryTraceResponse setup id body = _
      unfold startUnwindRecoveryTraceResponse
      exact if_pos hcreate
    refine @atomically_iff_of_refused setup .startUnwind d id body s _ (s, 0) ?_
      (by rw [hrespond]; rfl) rfl
    intro current hmakes
    have hnone := (Bool.and_eq_true_iff.mp hcreate).2
    have hsome : create = some true := hmakes.2.2.1
    rw [hsome] at hnone
    cases hnone
  by_cases hresidual : (body.has "residual_exposure_quote" &&
      !residual.any isNonnegativeNumberText) = true
  · have hrespond : UnwindRequest.respond setup id body .startUnwind =
        pure (.error (badRequest
          "residual_exposure_quote must be a finite non-negative number")) := by
      change startUnwindRecoveryTraceResponse setup id body = _
      unfold startUnwindRecoveryTraceResponse
      exact (if_neg hcreate).trans (if_pos hresidual)
    refine @atomically_iff_of_refused setup .startUnwind d id body s _ (s, 0) ?_
      (by rw [hrespond]; rfl) rfl
    intro current hmakes
    exact hmakes.2.2.2.1 (Bool.and_eq_true_iff.mp hresidual)
  -- from here on the body is accepted, and the trace decides
  obtain ⟨rest, hrespond, hmissing, hfound⟩ : ∃ rest : Option Dict → RecoveryRoute,
      UnwindRequest.respond setup id body .startUnwind = getRecoveryTrace id >>= rest ∧
      rest none = pure (.error traceNotFound) ∧
      ∀ current, rest (some current) =
        if isTerminalTrace current then pure (.error traceTerminal)
        else if create = some true then
          createUnwindIntent setup id body current >>= startUnwindFor id body residual
        else startUnwind id body none residual := by
    refine ⟨_, (if_neg hcreate).trans (if_neg hresidual), rfl, fun current => rfl⟩
  have hrefused : ∀ error, (∀ current, ¬ MakesRow setup .startUnwind d id body s current) →
      (d.course id).run setup (UnwindRequest.respond setup id body .startUnwind) (s, 0) =
        (.ok (.error error), ((d.course id).meanwhile 0 s, 1)) →
      (AnswersAtomically setup .startUnwind d id body s ↔
        LinkGoesThrough setup .startUnwind d id body s) :=
    fun error hmakes hanswer =>
      atomically_iff_of_refused hmakes hanswer (Disturbance.store_meanwhile 0 s)
  cases hfirst : firstRead .startUnwind d id s with
  | none =>
      refine hrefused traceNotFound (by simp [MakesRow, hfirst]) ?_
      rw [hrespond, hrun, hfirst, hmissing]
      rfl
  | some current =>
      have hmakes : ∀ found, MakesRow setup .startUnwind d id body s found ↔
          found = current ∧ isTerminalTrace current = false ∧
            UnwindRequest.Makes setup id body s.store current .startUnwind := by
        intro found
        rw [MakesRow, hfirst, Option.some.injEq, eq_comm]
        constructor
        · rintro ⟨rfl, hfound⟩
          exact ⟨rfl, hfound⟩
        · rintro ⟨rfl, hfound⟩
          exact ⟨rfl, hfound⟩
      by_cases hterminal : isTerminalTrace current = true
      · refine hrefused traceTerminal (by simp [hmakes, hterminal]) ?_
        rw [hrespond, hrun, hfirst, hfound, if_pos hterminal]
        rfl
      by_cases hasked : create = some true
      · cases hnew : unwindIntentRequest setup id body current with
        | error error =>
            refine hrefused error (by simp [hmakes, UnwindRequest.Makes, hnew]) ?_
            rw [hrespond, hrun, hfirst, hfound, if_neg hterminal, if_pos hasked,
              createUnwindIntent, hnew]
            rfl
        | ok new =>
            -- the intent is created in a store that nobody else has touched
            let entered := (d.course id).meanwhile 1 ((d.course id).meanwhile 0 s)
            have hentered : entered.store = s.store := by
              rw [Disturbance.store_meanwhile, Disturbance.store_meanwhile]
            have hrest : (d.course id).run setup
                (UnwindRequest.respond setup id body .startUnwind) (s, 0) =
              (d.course id).run setup
                ((MemoryStore.createOrderIntent setup.platform new
                    entered.store).1.createdRow.elim (pure (.error intentCreateFailed))
                  fun intent => startUnwind id body (some intent) residual)
                (⟨entered.redis, (MemoryStore.createOrderIntent setup.platform new
                  entered.store).2⟩, 2) := by
              rw [hrespond, hrun, hfirst, hfound, if_neg hterminal, if_pos hasked,
                createUnwindIntent, hnew]
              exact congrArg (fun p => (d.course id).run setup p _) (startUnwindFor_created _)
            rw [hentered] at hrest
            cases hrow :
                (MemoryStore.createOrderIntent setup.platform new s.store).1.createdRow with
            | none =>
                rw [hrow] at hrest
                refine atomically_iff_of_refused ?_ hrest ?_
                · simp [hmakes, UnwindRequest.Makes, hnew, hrow]
                · rcases MemoryStore.createOrderIntent_cases setup.platform new s.store with
                    ⟨created, hanswer, -, -, -, -⟩ | ⟨-, hsame⟩
                  · rw [hanswer, StoreAnswer.createdRow_created] at hrow
                    cases hrow
                  · exact hsame
            | some intent =>
                rw [hrow] at hrest
                obtain ⟨hid, hmade⟩ := createOrderIntent_made hrow
                apply atomically_iff_of_makes _ (reports_startUnwind residual hid) hrest hmade rfl
                  (unlinked_of_unwindIntentRequest hnew)
                rw [hmakes]
                refine ⟨rfl, Bool.eq_false_of_not_eq_true hterminal, hasked, ?_, new, hnew, ?_⟩
                · exact fun hboth => hresidual (Bool.and_eq_true_iff.mpr hboth)
                · rw [hrow]
                  rfl
      · obtain ⟨answer, after, hstart, hstore, hreported⟩ :=
          @run_startUnwind_none setup id body d residual ((d.course id).meanwhile 0 s) 1
        have hwhole : (d.course id).run setup
            (UnwindRequest.respond setup id body .startUnwind) (s, 0) = (.ok answer, after) := by
          rw [hrespond, hrun, hfirst, hfound, if_neg hterminal, if_neg hasked]
          exact hstart
        refine atomically_iff_of_not_makes ?_ hwhole
          (hstore.trans (Disturbance.store_meanwhile 0 s)) ?_
        · intro found hfound
          exact hasked ((hmakes found).mp hfound).2.2.1
        · intro success hsuccess
          rw [UnwindRequest.reported, hreported success hsuccess]
          rfl

end Answers

section Results

/-- **Unwind requests under disturbance.** However Redis fails and whoever resolves the
trace meanwhile, starting an unwind and submitting its order are atomic exactly when the
link goes through whenever a row is made. -/
theorem answersAtomically_iff_linkGoesThrough (setup : RecoverySetup) (request : UnwindRequest)
    (d : Disturbance request.field) (id : String) (body : Dict) (s : RecoveryState) :
    AnswersAtomically setup request d id body s ↔ LinkGoesThrough setup request d id body s := by
  cases request with
  | startUnwind => exact startUnwind_atomically_iff d
  | submitUnwindOrder => exact submitUnwindOrder_atomically_iff d

def unwindingState : RecoveryState :=
  ⟨unwindingRedis, .withIntent .counting (Execution.oneUnitIntent "upbit" "bithumb")⟩

/-- Redis fails once, when the transition reads the trace. -/
def failingOnce : Disturbance (UnwindRequest.field .submitUnwindOrder) where
  around := fun turn => { minuteLater with redisFails := turn = 3 }
  other := fun _ => .absent

/-- The order that was made stays behind an answer that the trace is not found. -/
theorem not_answersAtomically : ¬ ∀ (setup : RecoverySetup) (request : UnwindRequest)
    (d : Disturbance request.field) (id : String) (body : Dict) (s : RecoveryState),
      AnswersAtomically setup request d id body s := by
  intro hall
  obtain ⟨answer, after, hrun, hatomic⟩ :=
    hall standardSetup .submitUnwindOrder failingOnce "rt_1" unwindOrderBody unwindingState
  have hrefuses : ((failingOnce.course "rt_1").run standardSetup
      (UnwindRequest.respond standardSetup "rt_1" unwindOrderBody .submitUnwindOrder)
        (unwindingState, 0)).1.toOption.any (fun answer => answer.toOption.isNone) = true := by
    decide +kernel
  have horders : ((failingOnce.course "rt_1").run standardSetup
      (UnwindRequest.respond standardSetup "rt_1" unwindOrderBody .submitUnwindOrder)
        (unwindingState, 0)).2.1.store.orders.length = 1 := by
    decide +kernel
  rw [hrun] at hrefuses horders
  cases answer with
  | error error =>
      rw [hatomic.2] at horders
      exact absurd horders (by decide +kernel)
  | ok success => exact absurd hrefuses Bool.false_ne_true

end Results

end TradingPlatform.Routes

import TradingPlatform.Recovery.Courses
import TradingPlatform.Recovery.Tick

/-! # A step by itself

Where Redis takes every command and nobody else writes, the operations of a step on a
trace add up to the step as a function of what it reads on its way.
-/

namespace TradingPlatform.Recovery

open Programs Program Storage TradingPlatform.Runtime RecoveryProgram

/-- Redis answers every command, and nobody else writes. -/
structure Course.Alone (course : Course) : Prop where
  answers : ∀ turn, (course.around turn).redisFails = false
  undisturbed : course.Undisturbed

section Writing

variable {setup : RecoverySetup} {course : Course} {s : RecoveryState} {turn : Nat} {α : Type}

theorem Course.Undisturbed.run_ask_bind (hsame : course.Undisturbed) (op : RecoveryOp)
    (f : op.Reply → RecoveryProgram α) :
    course.run setup (ask op >>= f) (s, turn) =
      course.run setup (f (op.exec setup (course.around turn) s).1)
        ((op.exec setup (course.around turn) s).2, turn + 1) := by
  rw [Course.run_ask_bind, hsame]

theorem Course.run_bind_ok {β : Type} {p : RecoveryProgram β} {f : β → RecoveryProgram α}
    {value : β} {before after : RecoveryState × Nat}
    (hrun : course.run setup p before = (.ok value, after)) :
    course.run setup (p >>= f) before = course.run setup (f value) after :=
  Program.run_bind_ok hrun

theorem Course.run_bind_error {β : Type} {p : RecoveryProgram β} {f : β → RecoveryProgram α}
    {text : String} {before after : RecoveryState × Nat}
    (hrun : course.run setup p before = (.error text, after)) :
    course.run setup (p >>= f) before = (.error text, after) :=
  Program.run_bind_error hrun

/-- A state with another Redis. -/
def RecoveryState.withRedis (s : RecoveryState) (redis : RedisRuntime) : RecoveryState :=
  { s with redis := redis }

theorem run_syncRecoveryTrace (halone : course.Alone) (recoveryTraceId : String)
    (payload : Dict) :
    course.run setup (RecoveryProgram.syncRecoveryTrace recoveryTraceId payload) (s, turn) =
      (.ok (), s.withRedis (s.redis.syncRecoveryTrace recoveryTraceId payload
        (course.around turn).isoNow), turn + 2) := by
  rw [RecoveryProgram.syncRecoveryTrace, halone.undisturbed.run_ask_bind,
    halone.undisturbed.run_ask_bind]
  simp only [RecoveryOp.exec, halone.answers, Bool.false_eq_true, if_false]
  rfl

theorem run_syncArbitrageEvaluation (halone : course.Alone) (runId : String) (payload : Dict) :
    course.run setup (RecoveryProgram.syncArbitrageEvaluation runId payload) (s, turn) =
      (.ok (), s.withRedis (s.redis.syncArbitrageEvaluation runId payload
        (course.around turn).isoNow), turn + 2) := by
  rw [RecoveryProgram.syncArbitrageEvaluation, halone.undisturbed.run_ask_bind,
    halone.undisturbed.run_ask_bind]
  simp only [RecoveryOp.exec, halone.answers, Bool.false_eq_true, if_false]
  rfl

theorem run_syncArbitrageEvaluationRecoveryState (halone : course.Alone) (runId : String)
    (trace : Dict) :
    ∃ after, course.run setup
        (RecoveryProgram.syncArbitrageEvaluationRecoveryState runId trace) (s, turn) =
      (.ok (), s.withRedis (s.redis.syncArbitrageEvaluationRecoveryState runId trace
        (course.around (turn + 1)).isoNow), after) := by
  rw [RecoveryProgram.syncArbitrageEvaluationRecoveryState, getArbitrageEvaluation,
    halone.undisturbed.run_ask_bind]
  simp only [RecoveryOp.exec, halone.answers, Bool.false_eq_true, if_false,
    RedisRuntime.syncArbitrageEvaluationRecoveryState]
  cases s.redis.getArbitrageEvaluation runId with
  | none => exact ⟨turn + 1, rfl⟩
  | some current => exact ⟨turn + 3, run_syncArbitrageEvaluation halone runId _⟩

/-- A trace is read again exactly when it names its run. -/
theorem run_carryOver (halone : course.Alone) (recoveryTraceId runId : String) :
    ∃ after, course.run setup (carryOver recoveryTraceId runId) (s, turn) =
      (.ok (if runId = "" then none else s.redis.getRecoveryTrace recoveryTraceId),
        s.withRedis (if runId = "" then s.redis
          else match s.redis.getRecoveryTrace recoveryTraceId with
            | none => s.redis
            | some latest => s.redis.syncArbitrageEvaluationRecoveryState runId latest
                (course.around (turn + 2)).isoNow), after) := by
  unfold carryOver
  by_cases hrun : runId = ""
  · simp only [hrun, if_true]
    exact ⟨turn, rfl⟩
  · simp only [hrun, if_false]
    rw [RecoveryProgram.getRecoveryTrace, halone.undisturbed.run_ask_bind]
    simp only [RecoveryOp.exec, halone.answers, Bool.false_eq_true, if_false]
    cases hfound : s.redis.getRecoveryTrace recoveryTraceId with
    | none => exact ⟨turn + 1, rfl⟩
    | some latest =>
        obtain ⟨after, hcarried⟩ := @run_syncArbitrageEvaluationRecoveryState setup course s
          (turn + 1) halone runId latest
        exact ⟨after, Course.run_bind_ok hcarried⟩

/-- A trace that is written and carried over, with the trace that was read again. -/
theorem run_syncTrace (halone : course.Alone) (recoveryTraceId : String) (payload : Dict)
    {isoNow : Nat → String} (hsynced : isoNow 0 = (course.around turn).isoNow)
    (hcarried : isoNow 1 = (course.around (turn + 4)).isoNow)
    (f : Option Dict → RecoveryProgram α) :
    ∃ after, course.run setup (do
        RecoveryProgram.syncRecoveryTrace recoveryTraceId payload
        let latest ← carryOver recoveryTraceId (Text.strip (traceText payload "run_id"))
        f latest) (s, turn) =
      course.run setup (f (if Text.strip (traceText payload "run_id") = "" then none
          else (syncTrace recoveryTraceId payload isoNow s.redis).getRecoveryTrace recoveryTraceId))
        (s.withRedis (syncTrace recoveryTraceId payload isoNow s.redis), after) := by
  have hwritten := @run_syncRecoveryTrace setup course s turn halone recoveryTraceId payload
  obtain ⟨after, hcarry⟩ := @run_carryOver setup course
    (s.withRedis (s.redis.syncRecoveryTrace recoveryTraceId payload (course.around turn).isoNow))
    (turn + 2) halone recoveryTraceId (Text.strip (traceText payload "run_id"))
  refine ⟨after, ?_⟩
  rw [Course.run_bind_ok hwritten, Course.run_bind_ok hcarry, syncTrace, hsynced, hcarried]
  by_cases hrun : Text.strip (traceText payload "run_id") = ""
  · simp only [hrun, if_true]
    rfl
  · simp only [hrun, if_false, RecoveryState.withRedis]
    cases hfound : (s.redis.syncRecoveryTrace recoveryTraceId payload
        (course.around turn).isoNow).getRecoveryTrace recoveryTraceId with
    | none => simp only [hfound]
    | some latest =>
        simp only [RedisRuntime.getRecoveryTrace,
          RedisRuntime.syncArbitrageEvaluationRecoveryState_recoveryTraces] at hfound ⊢
        rw [hfound]

end Writing

section Stores

variable {setup : RecoverySetup} {course : Course}

/-- An operation that leaves the store as it is. -/
def LeavesStore (op : RecoveryOp) : Prop :=
  ∀ setup around s, (op.exec setup around s).2.store = s.store

theorem leavesStore_setTrace (recoveryTraceId : String) (document : Dict) :
    LeavesStore (.setTrace recoveryTraceId document) := by
  intro setup around s
  simp only [RecoveryOp.exec]
  split <;> rfl

theorem leavesStore_setEvaluation (runId : String) (document : Dict) :
    LeavesStore (.setEvaluation runId document) := by
  intro setup around s
  simp only [RecoveryOp.exec]
  split <;> rfl

theorem performs_ask_bind {α : Type} (op : RecoveryOp) {f : op.Reply → RecoveryProgram α}
    (hop : LeavesStore op) (hf : ∀ reply, (f reply).Performs LeavesStore) :
    (ask op >>= f).Performs LeavesStore :=
  (performs_operation hop : (ask op).Performs LeavesStore).bind hf

theorem leavesStore_carryOver (recoveryTraceId runId : String) :
    (carryOver recoveryTraceId runId).Performs LeavesStore := by
  unfold carryOver
  split
  · exact performs_pure _
  · refine performs_ask_bind (.getTrace _) (fun _ _ _ => rfl) fun found => ?_
    cases found with
    | none => exact performs_pure _
    | some latest =>
        have hcarried : (syncArbitrageEvaluationRecoveryState runId latest).Performs
            LeavesStore := by
          refine performs_ask_bind (.getEvaluation _) (fun _ _ _ => rfl) fun evaluation => ?_
          cases evaluation with
          | none => exact performs_pure _
          | some current =>
              refine performs_ask_bind .isoNow (fun _ _ _ => rfl) fun cachedAt => ?_
              exact performs_ask_bind _ (leavesStore_setEvaluation _ _) fun _ => performs_pure _
        exact hcarried.bind fun _ => performs_pure _

theorem leavesStore_syncRecoveryTrace (recoveryTraceId : String) (payload : Dict) :
    (RecoveryProgram.syncRecoveryTrace recoveryTraceId payload).Performs LeavesStore := by
  refine performs_ask_bind .isoNow (fun _ _ _ => rfl) fun updatedAt => ?_
  exact performs_ask_bind _ (leavesStore_setTrace _ _) fun _ => performs_pure _

theorem leavesStore_autoRecordReconciliation (trace : Dict) (listing : ReadStore) :
    (RecoveryProgram.autoRecordReconciliation setup trace listing).Performs LeavesStore := by
  unfold RecoveryProgram.autoRecordReconciliation
  dsimp only
  refine performs_ask_bind .pollConnectors (fun _ _ _ => rfl) fun connectors => ?_
  split_ifs
  · exact performs_pure _
  · refine performs_ask_bind .readStore (fun _ _ _ => rfl) fun later => ?_
    refine performs_ask_bind .isoNow (fun _ _ _ => rfl) fun observedAt => ?_
    generalize buildAutoReconciliationSnapshot _ _ _ _ _ _ _ = outcome
    cases outcome with
    | error text => exact performs_raised text
    | ok snapshot =>
        cases snapshot with
        | none => exact performs_pure _
        | some snapshot =>
            refine performs_ask_bind .isoNow (fun _ _ _ => rfl) fun recordedAt => ?_
            apply (leavesStore_syncRecoveryTrace _ _).bind
            intro _
            exact (leavesStore_carryOver _ _).bind fun _ => performs_pure _

/-- The store is left as it is. -/
def SameStore (before after : RecoveryState × Nat) : Prop := after.1.store = before.1.store

theorem store_run {α : Type} {p : RecoveryProgram α} (hp : p.Performs LeavesStore)
    (hsame : course.Undisturbed) (s : RecoveryState × Nat) :
    (course.run setup p s).2.1.store = s.1.store := by
  have hexec : ∀ op (s : RecoveryState × Nat), LeavesStore op →
      SameStore s (course.exec setup op s).2 := by
    intro op s hop
    simp only [SameStore, Course.exec, hsame s.2 s.1]
    exact hop _ _ _
  have htrans : ∀ before middle after : RecoveryState × Nat, SameStore before middle →
      SameStore middle after → SameStore before after :=
    fun _ _ _ hfirst hsecond => hsecond.trans hfirst
  have hrefl : ∀ s, SameStore s s := fun _ => rfl
  exact hp.run hrefl htrans hexec s

end Stores

section Reconciling

variable {setup : RecoverySetup} {course : Course} {s : RecoveryState} {turn : Nat}
  {c : TraceContext}

/-- What a reconciliation reads that begins at a turn. -/
structure Course.TimesReconciliation (course : Course) (turn : Nat) (c : TraceContext) : Prop where
  connectors : c.connectors = (course.around turn).connectors
  observed : c.clock.isoNow 5 = (course.around (turn + 2)).isoNow
  recorded : c.clock.isoNow 6 = (course.around (turn + 3)).isoNow
  synced : c.clock.isoNow 7 = (course.around (turn + 4)).isoNow
  carried : c.clock.isoNow 8 = (course.around (turn + 8)).isoNow

theorem run_autoRecordReconciliation (halone : course.Alone)
    (htimes : course.TimesReconciliation turn c) (hdecimals : c.decimals = setup.decimals)
    (hreads : c.reads = s.store.reads setup.decimals) (trace : Dict) :
    ∃ after, course.run setup (RecoveryProgram.autoRecordReconciliation setup trace c.reads)
        (s, turn) =
      match Recovery.autoRecordReconciliation c trace s.redis with
      | .error text => (.error text, s, after)
      | .ok (latest, synced) => (.ok latest, s.withRedis synced, after) := by
  unfold RecoveryProgram.autoRecordReconciliation Recovery.autoRecordReconciliation
  dsimp only
  rw [halone.undisturbed.run_ask_bind]
  simp only [RecoveryOp.exec, ← htimes.connectors]
  split_ifs with hkeeps
  · exact ⟨turn + 1, rfl⟩
  · rw [halone.undisturbed.run_ask_bind, halone.undisturbed.run_ask_bind]
    simp only [RecoveryOp.exec, ← hreads, Nat.add_assoc, Nat.reduceAdd,
      ← htimes.observed]
    rw [← hdecimals]
    cases hsnapshot : buildAutoReconciliationSnapshot c.decimals c.connectors c.reads trace
        (relatedOrders c.reads trace) (relatedFills c.reads trace) (c.clock.isoNow 5) with
    | error text => exact ⟨turn + 3, rfl⟩
    | ok snapshot =>
        cases snapshot with
        | none => exact ⟨turn + 3, rfl⟩
        | some snapshot =>
            dsimp only
            rw [halone.undisturbed.run_ask_bind]
            simp only [RecoveryOp.exec, Nat.add_assoc, Nat.reduceAdd, ← htimes.recorded]
            obtain ⟨after, hsync⟩ := @run_syncTrace setup course s (turn + 4) Dict halone
              (Text.strip (traceText trace "recovery_trace_id"))
              (trace.merge (reconciliationPatch trace snapshot (c.clock.isoNow 6)))
              (fun n => c.clock.isoNow (n + 7)) htimes.synced htimes.carried
              (fun latest => pure (latest.getD
                (trace.merge (reconciliationPatch trace snapshot (c.clock.isoNow 6)))))
            refine ⟨after, hsync.trans ?_⟩
            split_ifs <;> rfl

end Reconciling

section Judging

variable {setup : RecoverySetup} {course : Course} {s : RecoveryState} {turn : Nat}
  {c : TraceContext}

/-- When the checks are made of a trace that is judged from a turn on. -/
structure Course.TimesChecks (course : Course) (turn : Nat) (c : TraceContext) : Prop where
  result : c.clock.resultChecked = (course.around turn).now
  staleness : c.clock.stalenessChecked = (course.around (turn + 1)).now
  unwind : c.clock.unwindChecked = (course.around (turn + 5)).now
  age : c.clock.ageChecked = (course.around (turn + 6)).now

/-- How judging ends. -/
def TraceVerdict.outcome : TraceVerdict → Except String TraceVerdict
  | .raised text => .error text
  | verdict => .ok verdict

theorem run_judgeTrace (hsame : course.Undisturbed) (htimes : course.TimesChecks turn c)
    (hsettings : c.settings = setup.settings) (hreads : c.reads = s.store.reads setup.decimals)
    (orders : List Order) (trace : Dict) :
    ∃ after, course.run setup (judgeTrace setup orders trace) (s, turn) =
      ((traceVerdict c orders trace).outcome, s, after) := by
  unfold judgeTrace traceVerdict
  rw [hsame.run_ask_bind, hsame.run_ask_bind, hsame.run_ask_bind]
  simp only [RecoveryOp.exec, ← hreads, ← hsettings, ← htimes.result, ← htimes.staleness]
  cases hobserved : observationOverflows trace with
  | true => exact ⟨turn + 3, rfl⟩
  | false =>
      simp only [Bool.false_eq_true, if_false]
      rw [← reconciliationHandoff]
      cases reconciliationHandoff c trace with
      | some handoff => exact ⟨turn + 3, rfl⟩
      | none =>
          dsimp only
          cases resolutionReason trace with
          | some reason => exact ⟨turn + 3, rfl⟩
          | none =>
              dsimp only
              rw [hsame.run_ask_bind, hsame.run_ask_bind, hsame.run_ask_bind]
              simp only [RecoveryOp.exec, ← hreads, Nat.add_assoc, Nat.reduceAdd,
                ← htimes.unwind]
              rw [← unwindFailureHandoff]
              cases unwindFailureHandoff c trace with
              | some handoff => exact ⟨turn + 6, rfl⟩
              | none =>
                  dsimp only
                  cases unwindDateOverflows c.reads trace with
                  | true => exact ⟨turn + 6, rfl⟩
                  | false =>
                      simp only [Bool.false_eq_true, if_false]
                      cases unwindStaleHandoff c.reads trace c.settings c.clock.unwindChecked with
                      | some handoff => exact ⟨turn + 6, rfl⟩
                      | none =>
                          dsimp only
                          by_cases hflat : (!hasActiveOrders orders) = true ∧
                              (residualExposureQuote trace).map Decimal.value = some 0
                          · rw [if_pos hflat, if_pos hflat]
                            exact ⟨turn + 6, rfl⟩
                          · rw [if_neg hflat, if_neg hflat, hsame.run_ask_bind]
                            simp only [RecoveryOp.exec, Nat.add_assoc, Nat.reduceAdd, ← htimes.age]
                            refine ⟨turn + 7, ?_⟩
                            cases traceDateOverflows trace with
                            | true => rfl
                            | false =>
                                simp only [Bool.false_eq_true, if_false]
                                split_ifs <;> rfl

end Judging

section Applying

variable {setup : RecoverySetup} {course : Course} {s : RecoveryState} {turn : Nat}
  {c : TraceContext}

/-- What is drawn and stamped where a verdict is carried out from a turn on. -/
structure Course.TimesWrites (course : Course) (turn : Nat) (c : TraceContext) : Prop where
  alert : c.alertId = (course.around turn).alertId
  closed : c.clock.isoNow 2 = (course.around turn).isoNow
  synced : c.clock.isoNow 3 = (course.around (turn + 1)).isoNow
  carried : c.clock.isoNow 4 = (course.around (turn + 5)).isoNow

theorem run_applyVerdict (halone : course.Alone) (htimes : course.TimesWrites turn c)
    (trace : Dict) (verdict : TraceVerdict) :
    ∃ after, course.run setup (applyVerdict trace verdict) (s, turn) =
      (.ok (), s.withRedis (verdict.apply c trace s.redis), after) := by
  cases verdict with
  | handedOff handoff =>
      rw [applyVerdict, RecoveryProgram.markHandoffRequired, halone.undisturbed.run_ask_bind]
      simp only [RecoveryOp.exec, ← htimes.alert]
      exact @run_syncTrace setup course s (turn + 1) Unit halone _ _
        (fun n => c.clock.isoNow (n + 3)) htimes.synced htimes.carried fun _ => pure ()
  | resolved reason =>
      rw [applyVerdict, RecoveryProgram.resolveTrace, halone.undisturbed.run_ask_bind]
      simp only [RecoveryOp.exec, ← htimes.closed]
      exact @run_syncTrace setup course s (turn + 1) Unit halone _ _
        (fun n => c.clock.isoNow (n + 3)) htimes.synced htimes.carried fun _ => pure ()
  | skipped reason => exact ⟨turn, rfl⟩
  | raised text => exact ⟨turn, rfl⟩

end Applying

section Processing

variable (setup : RecoverySetup) (course : Course)

/-- Where a step stands that has reconciled its trace. -/
def afterReconciling (trace : Dict) (s : RecoveryState) (turn : Nat) : RecoveryState × Nat :=
  (course.run setup (RecoveryProgram.autoRecordReconciliation setup trace
    (s.store.reads setup.decimals)) (s, turn + 1)).2

/-- Where a step stands that has judged its trace. -/
def afterJudging (trace : Dict) (s : RecoveryState) (turn : Nat) : RecoveryState × Nat :=
  let listing := s.store.reads setup.decimals
  (course.run setup (RecoveryProgram.autoRecordReconciliation setup trace listing >>=
    judgeTrace setup (relatedOrders listing trace)) (s, turn + 1)).2

/-- What a step reads that begins at a turn. -/
def stepContext (trace : Dict) (s : RecoveryState) (turn : Nat) : TraceContext :=
  let judged := (afterReconciling setup course trace s turn).2
  let applied := (afterJudging setup course trace s turn).2
  { settings := setup.settings
    connectors := (course.around (turn + 1)).connectors
    reads := s.store.reads setup.decimals
    decimals := setup.decimals
    clock :=
      { resultChecked := (course.around judged).now
        stalenessChecked := (course.around (judged + 1)).now
        unwindChecked := (course.around (judged + 5)).now
        ageChecked := (course.around (judged + 6)).now
        isoNow := fun
          | 2 => (course.around applied).isoNow
          | 3 => (course.around (applied + 1)).isoNow
          | 4 => (course.around (applied + 5)).isoNow
          | n => (course.around (turn + if n = 8 then 9 else n - 2)).isoNow }
    alertId := (course.around applied).alertId }

/-- A context holds what a step reads that begins at a turn. -/
structure HoldsReadings (trace : Dict) (s : RecoveryState) (turn : Nat) (c : TraceContext) : Prop
    where
  settings : c.settings = setup.settings
  decimals : c.decimals = setup.decimals
  reads : c.reads = s.store.reads setup.decimals
  reconciliation : course.TimesReconciliation (turn + 1) c
  checks : course.TimesChecks (afterReconciling setup course trace s turn).2 c
  writes : course.TimesWrites (afterJudging setup course trace s turn).2 c

theorem holdsReadings_stepContext (trace : Dict) (s : RecoveryState) (turn : Nat) :
    HoldsReadings setup course trace s turn (stepContext setup course trace s turn) where
  settings := rfl
  decimals := rfl
  reads := rfl
  reconciliation := ⟨rfl, rfl, rfl, rfl, rfl⟩
  checks := ⟨rfl, rfl, rfl, rfl⟩
  writes := ⟨rfl, rfl, rfl, rfl⟩

variable {setup course}

theorem run_processTrace_of_holdsReadings (halone : course.Alone) {trace : Dict} {s : RecoveryState}
    {turn : Nat} {c : TraceContext} (hreads : HoldsReadings setup course trace s turn c) :
    let step := Recovery.processTrace c trace s.redis
    ∃ after, course.run setup (RecoveryProgram.processTrace setup trace) (s, turn) =
      (step.verdict.outcome.map fun _ => (), s.withRedis step.redis, after) := by
  unfold RecoveryProgram.processTrace Recovery.processTrace
  dsimp only
  split_ifs with hid
  · exact ⟨turn, rfl⟩
  · rw [halone.undisturbed.run_ask_bind]
    simp only [RecoveryOp.exec, ← hreads.reads]
    obtain ⟨judged, hreconciled⟩ := @run_autoRecordReconciliation setup course s (turn + 1) c
      halone hreads.reconciliation hreads.decimals hreads.reads trace
    have hchecks := hreads.checks
    have hwrites := hreads.writes
    rw [afterReconciling, ← hreads.reads] at hchecks
    simp only [afterJudging, ← hreads.reads] at hwrites
    cases hauto : Recovery.autoRecordReconciliation c trace s.redis with
    | error text =>
        rw [hauto] at hreconciled
        exact ⟨judged, Course.run_bind_error hreconciled⟩
    | ok reconciled =>
        obtain ⟨reconciled, synced⟩ := reconciled
        rw [hauto] at hreconciled
        dsimp only at hreconciled ⊢
        rw [hreconciled] at hchecks
        have hstore : c.reads = (s.withRedis synced).store.reads setup.decimals := hreads.reads
        obtain ⟨applied, hjudge⟩ := @run_judgeTrace setup course (s.withRedis synced) judged c
          halone.undisturbed hchecks hreads.settings hstore (relatedOrders c.reads trace) reconciled
        have hjudged : course.run setup
            (RecoveryProgram.autoRecordReconciliation setup trace c.reads >>=
              judgeTrace setup (relatedOrders c.reads trace)) (s, turn + 1) =
            ((traceVerdict c (relatedOrders c.reads trace) reconciled).outcome,
              s.withRedis synced, applied) := by
          rw [Course.run_bind_ok hreconciled]
          exact hjudge
        rw [hjudged] at hwrites
        rw [Course.run_bind_ok hreconciled]
        cases hverdict : traceVerdict c (relatedOrders c.reads trace) reconciled with
        | raised text =>
            rw [hverdict] at hjudge
            exact ⟨applied, Course.run_bind_error hjudge⟩
        | handedOff handoff =>
            rw [hverdict] at hjudge
            rw [Course.run_bind_ok hjudge]
            exact run_applyVerdict halone hwrites reconciled (.handedOff handoff)
        | resolved reason =>
            rw [hverdict] at hjudge
            rw [Course.run_bind_ok hjudge]
            exact run_applyVerdict halone hwrites reconciled (.resolved reason)
        | skipped reason =>
            rw [hverdict] at hjudge
            rw [Course.run_bind_ok hjudge]
            exact run_applyVerdict halone hwrites reconciled (.skipped reason)

/-- A step by itself is the step as a function of what it reads. -/
theorem run_processTrace (halone : course.Alone) (trace : Dict) (s : RecoveryState)
    (turn : Nat) :
    let step := Recovery.processTrace (stepContext setup course trace s turn) trace s.redis
    ∃ after, course.run setup (RecoveryProgram.processTrace setup trace) (s, turn) =
      (step.verdict.outcome.map fun _ => (), s.withRedis step.redis, after) :=
  run_processTrace_of_holdsReadings halone (holdsReadings_stepContext setup course trace s turn)

end Processing

end TradingPlatform.Recovery

import TradingPlatform.Recovery.BlockingLookup
import TradingPlatform.Recovery.Mismatch
import TradingPlatform.Recovery.TraceRuns

/-! # Which traces a tick processes

A tick lists at most a hundred active traces, the last updated first, and works
them off one after another. The first exception ends the work, and it ends the
tick when it comes before the traces are listed.
-/

namespace TradingPlatform.Recovery

open Programs Program Storage TradingPlatform.Runtime RecoveryProgram

/-- Redis answers every command, nobody else writes, and the runtime is not stopped. -/
structure Course.Quiet (course : Course) : Prop extends course.Alone where
  runs : ∀ turn, (course.around turn).stopping = false
  scans : course.ScansAll

section Phases

variable {setup : RecoverySetup} {course : Course}

theorem completes_syncArbitrageEvaluation (runId : String) (payload : Dict) :
    course.Completes setup (syncArbitrageEvaluation runId payload) fun _ => True := by
  refine Course.completes_ask_bind fun cachedAt => ?_
  refine Course.completes_ask_bind fun written => ?_
  exact Course.completes_pure trivial

theorem completes_syncArbitrageEvaluationRecoveryState (runId : String) (trace : Dict) :
    course.Completes setup (syncArbitrageEvaluationRecoveryState runId trace) fun _ => True := by
  refine Course.completes_ask_bind fun evaluation => ?_
  cases evaluation with
  | none => exact Course.completes_pure trivial
  | some current => exact completes_syncArbitrageEvaluation runId _

theorem completes_syncRecoveryTrace (recoveryTraceId : String) (payload : Dict) :
    course.Completes setup (syncRecoveryTrace recoveryTraceId payload) fun _ => True := by
  refine Course.completes_ask_bind fun updatedAt => ?_
  refine Course.completes_ask_bind fun written => ?_
  exact Course.completes_pure trivial

theorem completes_carryOver (recoveryTraceId runId : String) :
    course.Completes setup (carryOver recoveryTraceId runId) fun _ => True := by
  unfold carryOver
  split
  · exact Course.completes_pure trivial
  · refine Course.completes_ask_bind fun found => ?_
    cases found with
    | none => exact Course.completes_pure trivial
    | some latest =>
        apply (completes_syncArbitrageEvaluationRecoveryState _ _).bind
        intro _ _
        exact Course.completes_pure trivial

theorem completes_createSubmitTimeoutTrace (botId runId : String) (oldestSubmittedAt age : Int) :
    course.Completes setup (createSubmitTimeoutTrace setup botId runId oldestSubmittedAt age)
      fun _ => True := by
  refine Course.completes_ask_bind fun digits => ?_
  refine Course.completes_ask_bind fun isoNow => ?_
  apply (completes_syncRecoveryTrace _ _).bind
  intro _ _
  apply (completes_carryOver _ _).bind
  intro _ _
  exact Course.completes_ask_bind fun _ => Course.completes_pure trivial

/-- What a tick does before it lists the active traces. -/
def beforeListing (setup : RecoverySetup) : RecoveryProgram Unit := do
  RecoveryProgram.syncTerminalLatestEvaluations
  RecoveryProgram.openSubmitTimeoutTraces setup

end Phases

section Raising

variable {setup : RecoverySetup} {course : Course} {α β ι : Type}

/-- The program ends with an exception. -/
def Course.Raises (course : Course) (setup : RecoverySetup) (p : RecoveryProgram α)
    (s : RecoveryState × Nat) : Prop :=
  ∃ text after, course.run setup p s = (.error text, after)

theorem not_raises_of_ok {p : RecoveryProgram α} {s after : RecoveryState × Nat} {value : α}
    (hrun : course.run setup p s = (.ok value, after)) : ¬ course.Raises setup p s := by
  rintro ⟨text, last, herror⟩
  rw [hrun] at herror
  cases herror

theorem not_raises_of_completes {p : RecoveryProgram α} {promise : α → Prop}
    (hp : course.Completes setup p promise) (s : RecoveryState × Nat) :
    ¬ course.Raises setup p s := by
  obtain ⟨value, last, hok, _⟩ := hp s.1 s.2
  exact not_raises_of_ok hok

theorem not_raises_pure (value : α) (s : RecoveryState × Nat) :
    ¬ course.Raises setup (pure value) s :=
  not_raises_of_ok rfl

/-- What comes after a program that ends well decides. -/
theorem raises_bind_of_ok {p : RecoveryProgram β} {f : β → RecoveryProgram α}
    {s after : RecoveryState × Nat} {value : β}
    (hrun : course.run setup p s = (.ok value, after)) :
    course.Raises setup (p >>= f) s ↔ course.Raises setup (f value) after := by
  rw [Course.Raises, Course.Raises, Course.run_bind_ok hrun]

theorem raises_bind_of_raises {p : RecoveryProgram β} {f : β → RecoveryProgram α}
    {s : RecoveryState × Nat} (hraises : course.Raises setup p s) :
    course.Raises setup (p >>= f) s := by
  obtain ⟨text, after, herror⟩ := hraises
  exact ⟨text, after, Course.run_bind_error herror⟩

theorem raises_ask_bind_iff (halone : course.Undisturbed) {op : RecoveryOp}
    {f : op.Reply → RecoveryProgram α} {s : RecoveryState} {turn : Nat} :
    course.Raises setup (ask op >>= f) (s, turn) ↔
      course.Raises setup (f (op.exec setup (course.around turn) s).1)
        ((op.exec setup (course.around turn) s).2, turn + 1) :=
  raises_bind_of_ok (Course.run_operation_undisturbed halone op)

/-- No item fails where the items before it have led. -/
def GoesThrough (setup : RecoverySetup) (course : Course)
    (fails : ι → RecoveryState × Nat → Prop) (body : ι → RecoveryProgram Unit) :
    List ι → RecoveryState × Nat → Prop
  | [], _ => True
  | item :: rest, s =>
      ¬ fails item s ∧ GoesThrough setup course fails body rest (course.run setup (body item) s).2

theorem raises_forEach_iff {fails : ι → RecoveryState × Nat → Prop}
    {body : ι → RecoveryProgram Unit}
    (hfails : ∀ item s, course.Raises setup (body item) s ↔ fails item s) {items : List ι}
    {s : RecoveryState × Nat} :
    course.Raises setup (forEach items body) s ↔ ¬ GoesThrough setup course fails body items s := by
  induction items generalizing s with
  | nil => exact iff_of_false (not_raises_pure () s) (not_not_intro trivial)
  | cons item rest ih =>
      rw [GoesThrough, ← hfails]
      cases hrun : course.run setup (body item) s with
      | mk outcome after =>
          cases outcome with
          | error text =>
              have hraises : course.Raises setup (body item) s := ⟨text, after, hrun⟩
              exact iff_of_true (raises_bind_of_raises hraises) fun h => h.1 hraises
          | ok value =>
              rw [and_iff_right (not_raises_of_ok hrun), ← ih]
              exact raises_bind_of_ok hrun

end Raising

section Processing

variable {setup : RecoverySetup} {course : Course}

/-- A check that a reconciled trace comes to needs a date that is outside the calendar. -/
inductive UndatedCheck (c : TraceContext) (orders : List Order) (trace : Dict) : Prop
  | observation (hoverflows : observationOverflows trace = true)
  | unwind (hhandoff : reconciliationHandoff c trace = none)
      (hmatch : matchedWithoutResidual trace = false)
      (hfailure : unwindFailureHandoff c trace = none)
      (hoverflows : unwindDateOverflows c.reads trace = true)
  | age (hhandoff : reconciliationHandoff c trace = none)
      (hmatch : matchedWithoutResidual trace = false) (hpasses : PassesChecks c trace)
      (hactive : ¬ SeemsFlat orders trace) (hoverflows : traceDateOverflows trace = true)

/-- Where the observation can be dated, the checks after the first ones need a date. -/
theorem undatedCheck_iff {c : TraceContext} {orders : List Order} {trace : Dict}
    (hobserved : observationOverflows trace = false) :
    UndatedCheck c orders trace ↔
      reconciliationHandoff c trace = none ∧ matchedWithoutResidual trace = false ∧
        ((unwindFailureHandoff c trace = none ∧ unwindDateOverflows c.reads trace = true) ∨
          (PassesChecks c trace ∧ ¬ SeemsFlat orders trace ∧
            traceDateOverflows trace = true)) := by
  constructor
  · intro hundated
    cases hundated with
    | observation hoverflows => exact absurd (hobserved ▸ hoverflows) Bool.false_ne_true
    | unwind hhandoff hmatch hfailure hoverflows =>
        exact ⟨hhandoff, hmatch, Or.inl ⟨hfailure, hoverflows⟩⟩
    | age hhandoff hmatch hpasses hactive hoverflows =>
        exact ⟨hhandoff, hmatch, Or.inr ⟨hpasses, hactive, hoverflows⟩⟩
  · rintro ⟨hhandoff, hmatch, ⟨hfailure, hoverflows⟩ | ⟨hpasses, hactive, hoverflows⟩⟩
    · exact .unwind hhandoff hmatch hfailure hoverflows
    · exact .age hhandoff hmatch hpasses hactive hoverflows

theorem traceVerdict_raised_iff {c : TraceContext} {orders : List Order} {trace : Dict} :
    (∃ text, traceVerdict c orders trace = .raised text) ↔ UndatedCheck c orders trace := by
  unfold traceVerdict
  cases hobserved : observationOverflows trace with
  | true => exact iff_of_true ⟨_, rfl⟩ (.observation hobserved)
  | false =>
      simp only [Bool.false_eq_true, if_false]
      rw [undatedCheck_iff hobserved]
      -- the checks in their order: a date is needed only where those before find nothing
      cases hhandoff : reconciliationHandoff c trace with
      | some handoff => simp
      | none =>
          cases hmatch : matchedWithoutResidual trace with
          | true => simp [resolutionReason, hmatch]
          | false =>
              simp only [resolutionReason, hmatch, Bool.false_eq_true, if_false, true_and]
              cases hfailure : unwindFailureHandoff c trace with
              | some handoff =>
                  refine iff_of_false (by simp) ?_
                  rintro (⟨hnone, -⟩ | ⟨hpasses, -⟩)
                  · cases hnone
                  · exact absurd (hfailure.symm.trans hpasses.noFailure) (by simp)
              | none =>
                  cases hdated : unwindDateOverflows c.reads trace with
                  | true => exact iff_of_true ⟨_, rfl⟩ (Or.inl ⟨rfl, rfl⟩)
                  | false =>
                      simp only [Bool.false_eq_true, if_false, and_false, false_or]
                      cases hstale : unwindStaleHandoff c.reads trace c.settings
                          c.clock.unwindChecked with
                      | some handoff =>
                          refine iff_of_false (by simp) fun h => ?_
                          exact absurd (hstale.symm.trans h.1.fresh) (by simp)
                      | none =>
                          have hpasses : PassesChecks c trace := ⟨hfailure, hdated, hstale⟩
                          have hseems : SeemsFlat orders trace ↔
                              (!hasActiveOrders orders) = true ∧
                                (residualExposureQuote trace).map Decimal.value = some 0 := by
                            rw [Bool.not_eq_true', hasActiveOrders_eq_false]
                            exact ⟨fun h => ⟨h.orders, h.residual⟩, fun h => ⟨h.1, h.2⟩⟩
                          dsimp only
                          by_cases hflat : SeemsFlat orders trace
                          · rw [if_pos (hseems.mp hflat)]
                            exact iff_of_false (by simp) fun h => h.2.1 hflat
                          · rw [if_neg (mt hseems.mpr hflat)]
                            simp only [hpasses, hflat, not_false_eq_true, true_and]
                            split_ifs <;> simp [*]

theorem completes_applyVerdict (trace : Dict) (verdict : TraceVerdict) :
    course.Completes setup (applyVerdict trace verdict) fun _ => True := by
  cases verdict with
  | handedOff handoff =>
      refine Course.completes_ask_bind fun alertId => ?_
      apply (completes_syncRecoveryTrace _ _).bind
      intro _ _
      apply (completes_carryOver _ _).bind
      intro _ _
      exact Course.completes_pure trivial
  | resolved reason =>
      refine Course.completes_ask_bind fun closedAt => ?_
      apply (completes_syncRecoveryTrace _ _).bind
      intro _ _
      apply (completes_carryOver _ _).bind
      intro _ _
      exact Course.completes_pure trivial
  | skipped reason => exact Course.completes_pure trivial
  | raised text => exact Course.completes_pure trivial

/-- What ends a step with an exception that begins at a turn: no snapshot comes of what
the exchanges say, or the trace is reconciled and a date that is needed then is outside
the calendar. -/
inductive ProcessingFails (setup : RecoverySetup) (course : Course) (trace : Dict)
    (s : RecoveryState) (turn : Nat) : Prop
  | snapshot (hid : traceText trace "recovery_trace_id" ≠ "")
      (hasks : ¬ keepsReconciliation trace
        (relatedOrders (s.store.reads setup.decimals) trace) (course.around (turn + 1)).connectors)
      {text : String}
      (herror : buildAutoReconciliationSnapshot setup.decimals
        (course.around (turn + 1)).connectors (s.store.reads setup.decimals) trace
        (relatedOrders (s.store.reads setup.decimals) trace)
        (relatedFills (s.store.reads setup.decimals) trace) (course.around (turn + 3)).isoNow =
          .error text)
  | undated (hid : traceText trace "recovery_trace_id" ≠ "") {reconciled : Dict}
      {after : RecoveryState × Nat}
      (hreconciled : course.run setup (RecoveryProgram.autoRecordReconciliation setup trace
        (s.store.reads setup.decimals)) (s, turn + 1) = (.ok reconciled, after))
      (hundated : UndatedCheck (stepContext setup course trace s turn)
        (relatedOrders (s.store.reads setup.decimals) trace) reconciled)

/-- Reconciling a trace raises exactly when no snapshot comes of it. -/
theorem raises_autoRecordReconciliation_iff (hsame : course.Undisturbed) (trace : Dict)
    (s : RecoveryState) (turn : Nat) :
    course.Raises setup (RecoveryProgram.autoRecordReconciliation setup trace
        (s.store.reads setup.decimals)) (s, turn) ↔
      ¬ keepsReconciliation trace (relatedOrders (s.store.reads setup.decimals) trace)
        (course.around turn).connectors ∧
      ∃ text, buildAutoReconciliationSnapshot setup.decimals (course.around turn).connectors
        (s.store.reads setup.decimals) trace
        (relatedOrders (s.store.reads setup.decimals) trace)
        (relatedFills (s.store.reads setup.decimals) trace) (course.around (turn + 2)).isoNow =
          .error text := by
  unfold RecoveryProgram.autoRecordReconciliation
  dsimp only
  rw [raises_ask_bind_iff hsame]
  split
  next hkeeps => exact iff_of_false (not_raises_pure _ _) fun h => h.1 hkeeps
  next hasks =>
    have hasked : ¬ keepsReconciliation trace (relatedOrders (s.store.reads setup.decimals) trace)
        (course.around turn).connectors := hasks
    rw [and_iff_right hasked, raises_ask_bind_iff hsame, raises_ask_bind_iff hsame]
    simp only [RecoveryOp.exec, Nat.add_assoc, Nat.reduceAdd]
    generalize buildAutoReconciliationSnapshot _ _ _ _ _ _ _ = outcome
    cases outcome with
    | error text => exact iff_of_true ⟨text, _, rfl⟩ ⟨text, rfl⟩
    | ok snapshot =>
        refine iff_of_false ?_ (by simp)
        cases snapshot with
        | none => exact not_raises_pure _ _
        | some snapshot =>
            refine not_raises_of_completes (show course.Completes setup _ fun _ => True from ?_) _
            refine Course.completes_ask_bind fun recordedAt => ?_
            apply (completes_syncRecoveryTrace _ _).bind
            intro _ _
            apply (completes_carryOver _ _).bind
            intro _ _
            exact Course.completes_pure trivial

/-- Judging a reconciled trace raises exactly when a check needs a date that is outside
the calendar. -/
theorem raises_judgeTrace_iff (hsame : course.Undisturbed) {c : TraceContext} {s : RecoveryState}
    {turn : Nat} (htimes : course.TimesChecks turn c) (hsettings : c.settings = setup.settings)
    (hreads : c.reads = s.store.reads setup.decimals) (orders : List Order) (trace : Dict) :
    course.Raises setup (judgeTrace setup orders trace) (s, turn) ↔
      UndatedCheck c orders trace := by
  obtain ⟨after, hrun⟩ := run_judgeTrace hsame htimes hsettings hreads orders trace
  rw [← traceVerdict_raised_iff, Course.Raises, hrun]
  cases traceVerdict c orders trace with
  | raised text => exact iff_of_true ⟨text, _, rfl⟩ ⟨text, rfl⟩
  | handedOff | resolved | skipped => simp [TraceVerdict.outcome]

/-- What comes after judging a trace raises nothing. -/
theorem raises_judgeTrace_bind_applyVerdict_iff (orders : List Order) (trace : Dict)
    (s : RecoveryState × Nat) :
    course.Raises setup (judgeTrace setup orders trace >>= applyVerdict trace) s ↔
      course.Raises setup (judgeTrace setup orders trace) s := by
  cases hverdict : course.run setup (judgeTrace setup orders trace) s with
  | mk outcome last =>
      cases outcome with
      | error text =>
          have hraises : course.Raises setup (judgeTrace setup orders trace) s :=
            ⟨text, last, hverdict⟩
          exact iff_of_true (raises_bind_of_raises hraises) hraises
      | ok verdict =>
          rw [raises_bind_of_ok hverdict]
          exact iff_of_false (not_raises_of_completes (completes_applyVerdict _ _) _)
            (not_raises_of_ok hverdict)

/-- Once its trace is reconciled, a step can fail on a date only. -/
theorem processingFails_iff_undatedCheck (hsame : course.Undisturbed) {trace : Dict}
    {s : RecoveryState} {turn : Nat} (hid : traceText trace "recovery_trace_id" ≠ "")
    {reconciled : Dict} {after : RecoveryState × Nat}
    (hrun : course.run setup (RecoveryProgram.autoRecordReconciliation setup trace
      (s.store.reads setup.decimals)) (s, turn + 1) = (.ok reconciled, after)) :
    ProcessingFails setup course trace s turn ↔
      UndatedCheck (stepContext setup course trace s turn)
        (relatedOrders (s.store.reads setup.decimals) trace) reconciled := by
  refine ⟨fun hfails => ?_, fun hundated => .undated hid hrun hundated⟩
  cases hfails with
  | snapshot _ hasks herror =>
      have hauto := @raises_autoRecordReconciliation_iff setup course hsame trace s (turn + 1)
      exact absurd (hauto.mpr ⟨hasks, _, herror⟩) (not_raises_of_ok hrun)
  | undated _ hreconciled hundated =>
      rw [hrun] at hreconciled
      obtain rfl := Except.ok.inj (Prod.mk.inj hreconciled).1
      exact hundated

/-- Processing a trace raises exactly when the step fails. -/
theorem raises_processTrace_iff (hsame : course.Undisturbed) (trace : Dict) (s : RecoveryState)
    (turn : Nat) :
    course.Raises setup (RecoveryProgram.processTrace setup trace) (s, turn) ↔
      ProcessingFails setup course trace s turn := by
  unfold RecoveryProgram.processTrace
  by_cases hid : traceText trace "recovery_trace_id" = ""
  · rw [if_pos hid]
    refine iff_of_false (not_raises_pure () _) fun hfails => ?_
    cases hfails with
    | snapshot hnonempty | undated hnonempty => exact hnonempty hid
  · rw [if_neg hid, raises_ask_bind_iff hsame]
    change course.Raises setup (RecoveryProgram.autoRecordReconciliation setup trace
      (s.store.reads setup.decimals) >>= fun reconciled =>
        judgeTrace setup (relatedOrders (s.store.reads setup.decimals) trace) reconciled >>=
          applyVerdict reconciled) (s, turn + 1) ↔ _
    cases hrun : course.run setup (RecoveryProgram.autoRecordReconciliation setup trace
        (s.store.reads setup.decimals)) (s, turn + 1) with
    | mk outcome after =>
        cases outcome with
        | error text =>
            have hraises : course.Raises setup (RecoveryProgram.autoRecordReconciliation setup trace
              (s.store.reads setup.decimals)) (s, turn + 1) := ⟨text, after, hrun⟩
            obtain ⟨hasks, text', herror⟩ :=
              (raises_autoRecordReconciliation_iff hsame trace s (turn + 1)).mp hraises
            exact iff_of_true (raises_bind_of_raises hraises) (.snapshot hid hasks herror)
        | ok reconciled =>
            -- the store is as it was, so that the trace is judged on what the step has listed
            have hstore := @store_run setup course Dict _ (@leavesStore_autoRecordReconciliation
              setup trace (s.store.reads setup.decimals)) hsame (s, turn + 1)
            rw [hrun] at hstore
            have hchecks := (holdsReadings_stepContext setup course trace s turn).checks
            rw [afterReconciling, hrun] at hchecks
            have hjudge := raises_judgeTrace_iff (s := after.1) hsame hchecks rfl
              (by rw [hstore]; rfl) (relatedOrders (s.store.reads setup.decimals) trace) reconciled
            rw [raises_bind_of_ok hrun, processingFails_iff_undatedCheck hsame hid hrun, ← hjudge]
            exact raises_judgeTrace_bind_applyVerdict_iff _ _ _

end Processing

section Loop

variable (setup : RecoverySetup) (course : Course)

/-- The traces that are processed of those listed, from a turn on. -/
def processedTraces : List Dict → RecoveryState × Nat → List Dict
  | [], _ => []
  | trace :: rest, s =>
      if (course.around s.2).stopping then []
      else
        let processing := course.run setup (RecoveryProgram.processTrace setup trace)
          (course.meanwhile s.2 s.1, s.2 + 1)
        trace :: match processing.1 with
          | .ok _ => processedTraces rest processing.2
          | .error _ => []

/-- None of the traces but the last is one that a step fails on. -/
def WorksThrough : List Dict → RecoveryState × Nat → Prop
  | [], _ | [_], _ => True
  | trace :: next :: rest, s =>
      ¬ ProcessingFails setup course trace s.1 (s.2 + 1) ∧
        WorksThrough (next :: rest)
          (course.run setup (RecoveryProgram.processTrace setup trace) (s.1, s.2 + 1)).2

variable {setup course}

theorem prefix_processedTraces (traces : List Dict) (s : RecoveryState × Nat) :
    processedTraces setup course traces s <+: traces := by
  induction traces generalizing s with
  | nil => exact List.prefix_refl _
  | cons trace rest ih =>
      unfold processedTraces
      split
      · exact List.nil_prefix
      · apply List.prefix_cons_inj trace |>.mpr
        split
        · exact ih _
        · exact List.nil_prefix

/-- One round of the loop. -/
theorem processedTraces_cons (hquiet : course.Quiet) (trace : Dict) (rest : List Dict)
    (s : RecoveryState × Nat) :
    (course.Raises setup (RecoveryProgram.processTrace setup trace) (s.1, s.2 + 1) ∧
      processedTraces setup course (trace :: rest) s = [trace]) ∨
    ∃ after, course.run setup (RecoveryProgram.processTrace setup trace) (s.1, s.2 + 1) =
        (.ok (), after) ∧
      processedTraces setup course (trace :: rest) s =
        trace :: processedTraces setup course rest after := by
  rw [processedTraces, if_neg (by rw [hquiet.runs]; exact Bool.false_ne_true),
    hquiet.undisturbed]
  dsimp only
  cases hrun : course.run setup (RecoveryProgram.processTrace setup trace) (s.1, s.2 + 1) with
  | mk outcome after =>
      cases outcome with
      | ok value => exact Or.inr ⟨after, rfl, rfl⟩
      | error text => exact Or.inl ⟨⟨text, after, hrun⟩, rfl⟩

/-- The loop gets through exactly when only the last trace may raise. -/
theorem processedTraces_eq_iff (hquiet : course.Quiet) (traces : List Dict)
    (s : RecoveryState × Nat) :
    processedTraces setup course traces s = traces ↔ WorksThrough setup course traces s := by
  induction traces generalizing s with
  | nil => exact iff_of_true rfl trivial
  | cons trace rest ih =>
      have hraises := @raises_processTrace_iff setup course hquiet.undisturbed trace s.1
        (s.2 + 1)
      cases rest with
      | nil =>
          refine iff_of_true ?_ trivial
          rcases @processedTraces_cons setup course hquiet trace [] s with
            ⟨-, hone⟩ | ⟨after, -, hone⟩
          · exact hone
          · rw [hone, processedTraces]
      | cons next others =>
          rw [WorksThrough, ← hraises]
          rcases @processedTraces_cons setup course hquiet trace (next :: others) s with
            ⟨hraise, hone⟩ | ⟨after, hrun, hone⟩
          · rw [hone]
            exact iff_of_false (by simp) fun h => h.1 hraise
          · have hnot : ¬ course.Raises setup (RecoveryProgram.processTrace setup trace)
                (s.1, s.2 + 1) := by
              rintro ⟨text, last, herror⟩
              rw [hrun] at herror
              cases herror
            rw [hone, hrun, List.cons_inj_right, ih]
            simp [hnot]

/-- The loop ends as if it had been given the processed traces only. -/
theorem run_processTraces (hquiet : course.Quiet) (traces : List Dict)
    (s : RecoveryState × Nat) :
    course.run setup (processTraces setup traces) s =
      course.run setup (processTraces setup (processedTraces setup course traces s)) s := by
  induction traces generalizing s with
  | nil => rfl
  | cons trace rest ih =>
      have hround : ∀ others, course.run setup (processTraces setup (trace :: others)) s =
          course.run setup (RecoveryProgram.processTrace setup trace >>= fun _ =>
            processTraces setup others) (s.1, s.2 + 1) := by
        intro others
        have hstop := @Course.run_operation_undisturbed setup course s.1 s.2
          hquiet.undisturbed .isStopping
        simp only [RecoveryOp.exec, hquiet.runs] at hstop
        unfold Course.run at hstop ⊢
        rw [processTraces]
        exact run_bind_ok hstop
      rcases @processedTraces_cons setup course hquiet trace rest s with
        ⟨⟨text, after, herror⟩, hone⟩ | ⟨after, hrun, hone⟩
      · rw [hone, hround, hround]
        exact (run_bind_error herror).trans (run_bind_error herror).symm
      · rw [hone, hround, hround]
        unfold Course.run at hrun ih ⊢
        rw [run_bind_ok hrun, run_bind_ok hrun]
        exact ih after

end Loop

section Listing

variable {setup : RecoverySetup} {course : Course} {s : RecoveryState} {turn : Nat}

/-- The stored traces of a bot and a run with a status. -/
def storedTraces (redis : RedisRuntime) (botId runId status : String) : List Dict :=
  (redis.recoveryTraces.entries.map Sigma.snd).filter
    (RedisRuntime.matchesFilters botId runId status)

/-- The stored traces in status active. -/
def activeTraces (s : RecoveryState) : List Dict := storedTraces s.redis "" "" "active"

theorem scanned_perm (hscans : course.ScansAll) :
    (course.scanned turn s).Perm s.redis.recoveryTraces.keys := by
  have hnodup : s.redis.recoveryTraces.keys.Nodup := s.redis.recoveryTraces.nodupKeys
  have hdistinct : (course.scanned turn s).Nodup := List.nodup_dedup _
  rw [List.perm_ext_iff_of_nodup hdistinct hnodup]
  intro key
  simp only [Course.scanned, Surroundings.scanned, List.mem_dedup, List.mem_filter,
    decide_eq_true_eq]
  exact ⟨And.right, fun hkey => ⟨hscans turn _ hkey, hkey⟩⟩

theorem readTraces_of_answers (hanswers : ∀ turn, (course.around turn).redisFails = false)
    (keys : List String) :
    course.readTraces s turn keys = keys.filterMap s.redis.getRecoveryTrace := by
  induction keys generalizing turn with
  | nil => rfl
  | cons key rest ih =>
      rw [Course.readTraces, ih, hanswers, if_neg Bool.false_ne_true, List.filterMap_cons]
      cases s.redis.getRecoveryTrace key <;> rfl

theorem filterMap_keys_getRecoveryTrace (redis : RedisRuntime) :
    redis.recoveryTraces.keys.filterMap redis.getRecoveryTrace =
      redis.recoveryTraces.entries.map Sigma.snd := by
  have hfound : ∀ entry ∈ redis.recoveryTraces.entries,
      redis.getRecoveryTrace entry.1 = some entry.2 := by
    intro entry hentry
    exact AList.mem_lookup_iff.mpr hentry
  have hkeys : redis.recoveryTraces.keys = redis.recoveryTraces.entries.map Sigma.fst := rfl
  rw [hkeys, List.filterMap_map, ← List.filterMap_eq_map]
  apply List.filterMap_congr
  intro entry hentry
  exact hfound entry hentry

/-- A quiet listing reads every trace it asks for once. -/
theorem listed_perm (hquiet : course.Quiet) (botId runId status : String) :
    (course.listed s turn botId runId status).Perm (storedTraces s.redis botId runId status) := by
  rw [Course.listed, readTraces_of_answers hquiet.answers, storedTraces,
    ← filterMap_keys_getRecoveryTrace]
  exact ((scanned_perm hquiet.scans).filterMap _).filter _

theorem listed_eq_nil_iff (hquiet : course.Quiet) {botId runId status : String} :
    course.listed s turn botId runId status = [] ↔
      storedTraces s.redis botId runId status = [] := by
  rw [← List.length_eq_zero_iff, (listed_perm hquiet _ _ _).length_eq, List.length_eq_zero_iff]

theorem newestFirst_perm_take (limit : Nat) (items : List Dict) :
    ∃ sorted : List Dict, sorted.Perm items ∧
      newestFirst limit items = sorted.take (max 1 (min limit 100)) :=
  ⟨_, List.perm_insertionSort _ items, rfl⟩

/-- A trace that a listing would have to sort cannot be dated. -/
def ListsUndated (redis : RedisRuntime) (botId runId status : String) : Prop :=
  ∃ trace ∈ storedTraces redis botId runId status, RedisRuntime.listedDateOverflows trace = true

theorem any_listed_iff (hquiet : course.Quiet) {botId runId status : String} :
    (course.listed s turn botId runId status).any RedisRuntime.listedDateOverflows = true ↔
      ListsUndated s.redis botId runId status := by
  rw [List.any_eq_true]
  exact exists_congr fun trace => and_congr_left' (listed_perm hquiet _ _ _).mem_iff

theorem raises_listRecoveryTraces_iff (hquiet : course.Quiet) (limit : Nat)
    (botId runId status : String) :
    course.Raises setup (listRecoveryTraces limit botId runId status) (s, turn) ↔
      ListsUndated s.redis botId runId status := by
  have hrun := @run_listRecoveryTraces setup course s turn hquiet.undisturbed
    (hquiet.answers turn) limit botId runId status
  rw [← @any_listed_iff course s turn hquiet, Course.Raises, hrun]
  split <;> simp [*]

end Listing

section Blocking

variable {setup : RecoverySetup} {course : Course} {s : RecoveryState} {turn : Nat}

/-- A trace of the bot and the run is open. -/
def Blocked (redis : RedisRuntime) (botId runId : String) : Prop :=
  storedTraces redis botId runId "handoff_required" ≠ [] ∨
    storedTraces redis botId runId "active" ≠ []

/-- A trace that blocks the bot and the run cannot be dated. -/
def BlockedUndated (redis : RedisRuntime) (botId runId : String) : Prop :=
  ListsUndated redis botId runId "handoff_required" ∨ ListsUndated redis botId runId "active"

/-- A quiet lookup raises when a blocking trace cannot be dated, and otherwise finds
one exactly when there is one. -/
theorem run_blockingLookup (hquiet : course.Quiet) (botId runId : String) :
    (BlockedUndated s.redis botId runId ∧
        course.Raises setup (getBlockingRecoveryTrace botId runId) (s, turn)) ∨
      (¬ BlockedUndated s.redis botId runId ∧ ∃ found after,
        course.run setup (getBlockingRecoveryTrace botId runId) (s, turn) =
          (.ok found, s, after) ∧ (found = none ↔ ¬ Blocked s.redis botId runId)) := by
  obtain ⟨after, hrun⟩ := @run_getBlockingRecoveryTrace setup course s botId turn runId
    hquiet.undisturbed (hquiet.answers _) (hquiet.answers _)
  have hundated : ((course.listed s turn botId runId "handoff_required").any
      RedisRuntime.listedDateOverflows || (course.listed s (course.afterList s turn) botId runId
        "active").any RedisRuntime.listedDateOverflows) = true ↔
      BlockedUndated s.redis botId runId := by
    rw [Bool.or_eq_true, any_listed_iff hquiet, any_listed_iff hquiet, BlockedUndated]
  split at hrun
  next h => exact Or.inl ⟨hundated.mp h, _, _, hrun⟩
  next h =>
    refine Or.inr ⟨mt hundated.mpr h, _, after, hrun, ?_⟩
    rw [latestBlocking_eq_none, Blocked, not_or, not_not, not_not]
    exact and_congr (listed_eq_nil_iff hquiet) (listed_eq_nil_iff hquiet)

end Blocking

section Evaluations

variable (setup : RecoverySetup) (course : Course)

/-- The evaluations that a listing reads. -/
def Course.evaluations (s : RecoveryState) (turn : Nat) : List Dict :=
  ((course.around turn).scanned s.redis.latestEvaluations.keys).filterMap
    s.redis.getArbitrageEvaluation

/-- Where a listing of the evaluations ends. -/
def Course.afterEvaluations (s : RecoveryState) (turn : Nat) : Nat :=
  turn + 1 + ((course.around turn).scanned s.redis.latestEvaluations.keys).length

/-- Evaluations as a listing returns them. -/
def latestCached (items : List Dict) : List Dict :=
  (items.insertionSort fun a b => RedisRuntime.cachedAt b ≤ RedisRuntime.cachedAt a).take 100

/-- The evaluations are listed and worked off without an exception: all of them can be
dated, and no step fails on one. -/
def WorksOff (fails : Dict → RecoveryState × Nat → Prop) (body : Dict → RecoveryProgram Unit)
    (s : RecoveryState × Nat) : Prop :=
  (∀ evaluation ∈ course.evaluations s.1 s.2,
      RedisRuntime.cachedDateOverflows evaluation = false) ∧
    GoesThrough setup course fails body (latestCached (course.evaluations s.1 s.2))
      (s.1, course.afterEvaluations s.1 s.2)

/-- Closing an evaluation comes to the lookup of a trace that cannot be dated. -/
def ClosingFails (item : Dict) (s : RecoveryState × Nat) : Prop :=
  Text.lower (strippedText item "lifecycle_preview") ∈ terminalSyncCandidateStates ∧
    strippedText item "strategy_run_id" ≠ "" ∧ strippedText item "bot_id" ≠ "" ∧
    persistedIntentId item ≠ "" ∧
    BlockedUndated s.1.redis (strippedText item "bot_id") (strippedText item "strategy_run_id")

/-- Opening a trace for an entry comes to a trace, or to an open order of a run that
nothing blocks, that cannot be dated. -/
def OpeningFails (item : Dict) (s : RecoveryState × Nat) : Prop :=
  let runId := strippedText item "strategy_run_id"
  let botId := strippedText item "bot_id"
  Text.lower (strippedText item "lifecycle_preview") = "entry_submitting" ∧
    runId ≠ "" ∧ botId ≠ "" ∧
    (BlockedUndated s.1.redis botId runId ∨ ¬ Blocked s.1.redis botId runId ∧
      openOrderDateOverflows (s.1.store.reads setup.decimals) botId runId = true)

variable {setup course}

theorem run_collectEvaluations (halone : course.Alone) (runIds : List String)
    {s : RecoveryState} {turn : Nat} :
    course.run setup (collect runIds getArbitrageEvaluation) (s, turn) =
      (.ok (runIds.filterMap s.redis.getArbitrageEvaluation), s, turn + runIds.length) := by
  induction runIds generalizing turn with
  | nil => rfl
  | cons runId rest ih =>
      rw [collect, getArbitrageEvaluation, halone.undisturbed.run_ask_bind]
      simp only [RecoveryOp.exec, halone.answers, Bool.false_eq_true, if_false]
      rw [Course.run_bind_ok ih, List.length_cons, List.filterMap_cons, Nat.add_assoc,
        Nat.add_comm 1]
      cases s.redis.getArbitrageEvaluation runId <;> rfl

/-- A phase of the tick that works off the evaluations raises when that fails. -/
theorem raises_workOff_iff (halone : course.Alone) {fails : Dict → RecoveryState × Nat → Prop}
    {body : Dict → RecoveryProgram Unit}
    (hfails : ∀ item s, course.Raises setup (body item) s ↔ fails item s) {none : String}
    {s : RecoveryState × Nat} :
    course.Raises setup (do
      match ← listArbitrageEvaluations 100 with
      | .none => raised none
      | some evaluations => forEach evaluations body) s ↔
      ¬ WorksOff setup course fails body s := by
  obtain ⟨s, turn⟩ := s
  have hcollect := @run_collectEvaluations setup course halone
    ((course.around turn).scanned s.redis.latestEvaluations.keys) s (turn + 1)
  have hlist : course.run setup (listArbitrageEvaluations 100) (s, turn) =
      (if (course.evaluations s turn).any RedisRuntime.cachedDateOverflows then
          .error dateOverflow
        else .ok (some (latestCached (course.evaluations s turn))), s,
        course.afterEvaluations s turn) := by
    rw [listArbitrageEvaluations, halone.undisturbed.run_ask_bind]
    simp only [RecoveryOp.exec, halone.answers, Bool.false_eq_true, if_false]
    rw [Course.run_bind_ok hcollect, ← Course.evaluations, Course.afterEvaluations]
    cases hundated : (course.evaluations s turn).any RedisRuntime.cachedDateOverflows with
    | true =>
        rw [if_pos rfl]
        rfl
    | false =>
        rw [if_neg Bool.false_ne_true]
        rfl
  rw [WorksOff]
  by_cases hundated : (course.evaluations s turn).any RedisRuntime.cachedDateOverflows = true
  · rw [if_pos hundated] at hlist
    refine iff_of_true (raises_bind_of_raises ⟨_, _, hlist⟩) fun hworks => ?_
    obtain ⟨evaluation, hmem, hoverflows⟩ := List.any_eq_true.mp hundated
    rw [hworks.1 evaluation hmem] at hoverflows
    cases hoverflows
  · rw [if_neg hundated] at hlist
    have hdated : ∀ evaluation ∈ course.evaluations s turn,
        RedisRuntime.cachedDateOverflows evaluation = false := by
      simpa using hundated
    rw [raises_bind_of_ok hlist, and_iff_right hdated]
    exact raises_forEach_iff hfails

theorem raises_syncTerminalEvaluation_iff (hquiet : course.Quiet) (item : Dict)
    (s : RecoveryState × Nat) :
    course.Raises setup (syncTerminalEvaluation item) s ↔ ClosingFails item s := by
  obtain ⟨s, turn⟩ := s
  unfold syncTerminalEvaluation ClosingFails
  dsimp only
  split
  next hskips =>
    refine iff_of_false (not_raises_pure () _) fun hfails => ?_
    rcases hskips with hstate | hrun | hbot | hintent
    · exact hstate hfails.1
    · exact hfails.2.1 hrun
    · exact hfails.2.2.1 hbot
    · exact hfails.2.2.2.1 hintent
  next hguard =>
    simp only [not_or, not_not] at hguard
    obtain ⟨hstate, hrun, hbot, hintent⟩ := hguard
    rw [and_iff_right hstate, and_iff_right hrun, and_iff_right hbot, and_iff_right hintent]
    rcases @run_blockingLookup setup course s turn hquiet (strippedText item "bot_id")
      (strippedText item "strategy_run_id") with ⟨hundated, hraises⟩ | ⟨hdated, found, after,
        hlookup, -⟩
    · exact iff_of_true (raises_bind_of_raises hraises) hundated
    · refine iff_of_false ?_ hdated
      rw [raises_bind_of_ok hlookup]
      cases found with
      | some trace => exact not_raises_pure () _
      | none =>
          rw [raises_ask_bind_iff hquiet.undisturbed]
          split
          · exact not_raises_pure () _
          · rw [raises_ask_bind_iff hquiet.undisturbed]
            split
            · exact not_raises_pure () _
            · exact not_raises_of_completes (completes_syncArbitrageEvaluation _ _) _

theorem raises_openSubmitTimeoutTrace_iff (hquiet : course.Quiet) (item : Dict)
    (s : RecoveryState × Nat) :
    course.Raises setup (openSubmitTimeoutTrace setup item) s ↔ OpeningFails setup item s := by
  obtain ⟨s, turn⟩ := s
  unfold openSubmitTimeoutTrace OpeningFails
  dsimp only
  split
  next hskips =>
    refine iff_of_false (not_raises_pure () _) fun hfails => ?_
    rcases hskips with hstate | hrun | hbot
    · exact hstate hfails.1
    · exact hfails.2.1 hrun
    · exact hfails.2.2.1 hbot
  next hguard =>
    simp only [not_or, not_not] at hguard
    obtain ⟨hstate, hrun, hbot⟩ := hguard
    rw [and_iff_right hstate, and_iff_right hrun, and_iff_right hbot]
    rcases @run_blockingLookup setup course s turn hquiet (strippedText item "bot_id")
      (strippedText item "strategy_run_id") with ⟨hundated, hraises⟩ | ⟨hdated, found, after,
        hlookup, hfound⟩
    · exact iff_of_true (raises_bind_of_raises hraises) (Or.inl hundated)
    · rw [or_iff_right hdated, raises_bind_of_ok hlookup]
      cases found with
      | some trace =>
          refine iff_of_false (not_raises_pure () _) fun hfails => ?_
          exact absurd (hfound.mpr hfails.1) (by simp)
      | none =>
          rw [and_iff_right (hfound.mp rfl), raises_ask_bind_iff hquiet.undisturbed]
          change course.Raises setup (if openOrderDateOverflows (s.store.reads setup.decimals)
            (strippedText item "bot_id") (strippedText item "strategy_run_id") then
              raised dateOverflow else _) _ ↔ _
          by_cases hopen : openOrderDateOverflows (s.store.reads setup.decimals)
              (strippedText item "bot_id") (strippedText item "strategy_run_id") = true
          · rw [if_pos hopen]
            exact iff_of_true ⟨_, _, rfl⟩ hopen
          · rw [if_neg hopen]
            refine iff_of_false ?_ hopen
            split
            · exact not_raises_pure () _
            · rw [raises_ask_bind_iff hquiet.undisturbed]
              split
              · exact not_raises_pure () _
              · exact not_raises_of_completes (completes_createSubmitTimeoutTrace _ _ _ _) _

/-- The tick gets to its listing: both phases before it work off the evaluations. -/
structure ReachesListing (setup : RecoverySetup) (course : Course) (s : RecoveryState) :
    Prop where
  closing : WorksOff setup course ClosingFails syncTerminalEvaluation (s, 0)
  opening : WorksOff setup course (OpeningFails setup) (openSubmitTimeoutTrace setup)
    (course.run setup RecoveryProgram.syncTerminalLatestEvaluations (s, 0)).2

theorem raises_beforeListing_iff (hquiet : course.Quiet) {s : RecoveryState} :
    course.Raises setup (beforeListing setup) (s, 0) ↔ ¬ ReachesListing setup course s := by
  have hclosing := @raises_workOff_iff setup course hquiet.toAlone _ _
    (raises_syncTerminalEvaluation_iff hquiet) "failed to list arbitrage evaluations" (s, 0)
  have hopening := @raises_workOff_iff setup course hquiet.toAlone _ _
    (raises_openSubmitTimeoutTrace_iff hquiet) "failed to list arbitrage evaluations"
    (course.run setup RecoveryProgram.syncTerminalLatestEvaluations (s, 0)).2
  change course.Raises setup RecoveryProgram.syncTerminalLatestEvaluations (s, 0) ↔ _ at hclosing
  change course.Raises setup (RecoveryProgram.openSubmitTimeoutTraces setup) _ ↔ _ at hopening
  have hreaches : ReachesListing setup course s ↔
      WorksOff setup course ClosingFails syncTerminalEvaluation (s, 0) ∧
      WorksOff setup course (OpeningFails setup) (openSubmitTimeoutTrace setup)
        (course.run setup RecoveryProgram.syncTerminalLatestEvaluations (s, 0)).2 :=
    ⟨fun h => ⟨h.closing, h.opening⟩, fun h => ⟨h.1, h.2⟩⟩
  rw [hreaches, not_and_or, ← hclosing, ← hopening, beforeListing]
  cases hrun : course.run setup RecoveryProgram.syncTerminalLatestEvaluations (s, 0) with
  | mk outcome after =>
      cases outcome with
      | error text =>
          have hraises : course.Raises setup RecoveryProgram.syncTerminalLatestEvaluations
              (s, 0) := ⟨text, after, hrun⟩
          exact iff_of_true (raises_bind_of_raises hraises) (Or.inl ⟨text, after, hrun⟩)
      | ok value =>
          rw [raises_bind_of_ok hrun, or_iff_right (not_raises_of_ok hrun)]

end Evaluations

section Coverage

variable (setup : RecoverySetup) (course : Course) (s : RecoveryState)

/-- Where a tick that begins in a state stands when it lists the active traces, or
where it has ended before. -/
def listingPoint : RecoveryState × Nat := (course.run setup (beforeListing setup) (s, 0)).2

def listedTraces : List Dict :=
  let point := listingPoint setup course s
  newestFirst 100 (course.listed point.1 point.2 "" "" "active")

/-- Where the tick stands when it has listed them. -/
def afterListing : RecoveryState × Nat :=
  let point := listingPoint setup course s
  (point.1, course.afterList point.1 point.2)

/-- The listing of a tick, with all that comes before it. -/
def untilListed (setup : RecoverySetup) : RecoveryProgram (Option (List Dict)) := do
  beforeListing setup
  listRecoveryTraces 100 "" "" "active"

/-- The traces a tick calls the step on. -/
def processedByTick : List Dict :=
  match course.run setup (untilListed setup) (s, 0) with
  | (.ok (some traces), point) => processedTraces setup course traces point
  | _ => []

/-- Every trace that is active when the tick lists the traces is processed. -/
def ProcessesAll : Prop :=
  (activeTraces (listingPoint setup course s).1).Subperm (processedByTick setup course s)

/-- The traces are listed: the tick gets there and all active traces can be dated. -/
structure ListsActive : Prop where
  reaches : ReachesListing setup course s
  dated : ¬ ListsUndated (listingPoint setup course s).1.redis "" "" "active"

variable {setup course s}

theorem run_beforeListing (hquiet : course.Quiet) (hreaches : ReachesListing setup course s) :
    course.run setup (beforeListing setup) (s, 0) = (.ok (), listingPoint setup course s) := by
  have hnot := mt (raises_beforeListing_iff hquiet).mp (not_not_intro hreaches)
  unfold listingPoint
  cases hrun : course.run setup (beforeListing setup) (s, 0) with
  | mk outcome after =>
      cases outcome with
      | error text => exact absurd ⟨text, after, hrun⟩ hnot
      | ok value => rfl

theorem run_untilListed (hquiet : course.Quiet) (hlists : ListsActive setup course s) :
    course.run setup (untilListed setup) (s, 0) =
      (.ok (some (listedTraces setup course s)), afterListing setup course s) := by
  have hlist := @run_listRecoveryTraces setup course (listingPoint setup course s).1
    (listingPoint setup course s).2 hquiet.undisturbed (hquiet.answers _) 100 "" "" "active"
  rw [if_neg (mt (any_listed_iff hquiet).mp hlists.dated)] at hlist
  rw [untilListed, Course.run_bind_ok (run_beforeListing hquiet hlists.reaches)]
  exact hlist

theorem raises_untilListed (hquiet : course.Quiet) (hlists : ¬ ListsActive setup course s) :
    course.Raises setup (untilListed setup) (s, 0) := by
  by_cases hreaches : ReachesListing setup course s
  · rw [untilListed, raises_bind_of_ok (run_beforeListing hquiet hreaches),
      raises_listRecoveryTraces_iff hquiet]
    by_contra hdated
    exact hlists ⟨hreaches, hdated⟩
  · exact raises_bind_of_raises ((raises_beforeListing_iff hquiet).mpr hreaches)

theorem processedByTick_eq (hquiet : course.Quiet) (hlists : ListsActive setup course s) :
    processedByTick setup course s =
      processedTraces setup course (listedTraces setup course s)
        (afterListing setup course s) := by
  rw [processedByTick, run_untilListed hquiet hlists]

/-- A tick that does not come to list the traces processes none. -/
theorem processedByTick_eq_nil (hquiet : course.Quiet) (hlists : ¬ ListsActive setup course s) :
    processedByTick setup course s = [] := by
  obtain ⟨text, after, hrun⟩ := raises_untilListed hquiet hlists
  rw [processedByTick, hrun]

/-- A quiet tick processes what it has listed. -/
theorem run_tick (hquiet : course.Quiet) :
    (course.run setup (RecoveryProgram.tick setup) (s, 0)).2 =
      (course.run setup (processTraces setup (processedByTick setup course s))
        (course.run setup (untilListed setup) (s, 0)).2).2 := by
  have htick : (course.run setup (RecoveryProgram.tick setup) (s, 0)).2 =
      (course.run setup (untilListed setup >>= fun listed =>
        match listed with
        | none => raised "failed to list active recovery traces"
        | some traces => processTraces setup traces) (s, 0)).2 := by
    unfold RecoveryProgram.tick Course.run untilListed beforeListing
    rw [bind_assoc, bind_assoc]
    exact run_rescue_skip
  rw [htick]
  by_cases hlists : ListsActive setup course s
  · rw [Course.run_bind_ok (run_untilListed hquiet hlists), processedByTick_eq hquiet hlists,
      run_untilListed hquiet hlists, ← run_processTraces hquiet]
  · obtain ⟨text, after, hrun⟩ := raises_untilListed hquiet hlists
    rw [Course.run_bind_error hrun, processedByTick_eq_nil hquiet hlists, hrun]
    rfl

theorem length_listedTraces (hquiet : course.Quiet) :
    (listedTraces setup course s).length =
      min 100 (activeTraces (listingPoint setup course s).1).length := by
  obtain ⟨sorted, hperm, hlisted⟩ := newestFirst_perm_take 100 (course.listed
    (listingPoint setup course s).1 (listingPoint setup course s).2 "" "" "active")
  rw [listedTraces]
  rw [hlisted, List.length_take, hperm.length_eq, (listed_perm hquiet _ _ _).length_eq]
  rfl

/-- Up to the limit every active trace is listed. -/
theorem listedTraces_perm (hquiet : course.Quiet)
    (hlimit : (activeTraces (listingPoint setup course s).1).length ≤ 100) :
    (listedTraces setup course s).Perm (activeTraces (listingPoint setup course s).1) := by
  have hlisted := @listed_perm course (listingPoint setup course s).1
    (listingPoint setup course s).2 hquiet "" "" "active"
  obtain ⟨sorted, hperm, hnewest⟩ := newestFirst_perm_take 100 (course.listed
    (listingPoint setup course s).1 (listingPoint setup course s).2 "" "" "active")
  rw [listedTraces]
  rw [hnewest, List.take_of_length_le]
  · exact hperm.trans hlisted
  · rw [hperm.length_eq, hlisted.length_eq]
    exact hlimit

/-- More active traces than a listing holds are not all processed. -/
theorem length_le_of_processesAll (hquiet : course.Quiet)
    (hall : ProcessesAll setup course s) :
    (activeTraces (listingPoint setup course s).1).length ≤ 100 := by
  have hlength := hall.length_le
  by_cases hlists : ListsActive setup course s
  · have hprefix := (@prefix_processedTraces setup course
      (listedTraces setup course s) (afterListing setup course s)).length_le
    rw [length_listedTraces hquiet] at hprefix
    rw [processedByTick_eq hquiet hlists] at hlength
    omega
  · rw [processedByTick_eq_nil hquiet hlists] at hlength
    exact hlength.trans (by simp)

end Coverage

/-- A quiet tick processes every active trace exactly when there is none, or it lists
them all, no more than a hundred, and the step fails on none but the last one listed. -/
theorem processesAll_iff (setup : RecoverySetup) (course : Course) (s : RecoveryState)
    (hquiet : course.Quiet) :
    ProcessesAll setup course s ↔
      activeTraces (listingPoint setup course s).1 = [] ∨
      (ListsActive setup course s ∧
        (activeTraces (listingPoint setup course s).1).length ≤ 100 ∧
        WorksThrough setup course (listedTraces setup course s)
          (afterListing setup course s)) := by
  by_cases hlists : ListsActive setup course s
  · rw [and_iff_right hlists]
    constructor
    · intro hall
      have hlimit := length_le_of_processesAll hquiet hall
      refine Or.inr ⟨hlimit, (processedTraces_eq_iff hquiet _ _).mp ?_⟩
      apply (prefix_processedTraces _ _).eq_of_length_le
      rw [(listedTraces_perm hquiet hlimit).length_eq, ← processedByTick_eq hquiet hlists]
      exact hall.length_le
    · rintro (hnone | ⟨hlimit, hworks⟩)
      · rw [ProcessesAll, hnone]
        exact List.nil_subperm
      · rw [ProcessesAll, processedByTick_eq hquiet hlists,
          (processedTraces_eq_iff hquiet _ _).mpr hworks]
        exact (listedTraces_perm hquiet hlimit).symm.subperm
  · rw [ProcessesAll, processedByTick_eq_nil hquiet hlists]
    constructor
    · intro hall
      exact Or.inl (List.length_eq_zero_iff.mp (Nat.le_zero.mp hall.length_le))
    · rintro (hnone | ⟨hcontra, -⟩)
      · rw [hnone]
      · exact absurd hcontra hlists

section Limit

/-- Nothing disturbs the tick, and no exchange is connected. -/
def calm : Course where
  around := fun _ => {}

theorem calm_quiet : calm.Quiet where
  answers := fun _ => rfl
  undisturbed := fun _ _ => rfl
  runs := fun _ => rfl
  scans := fun _ keys => List.Subset.refl keys

def activeTrace (recoveryTraceId : String) : Dict :=
  [("recovery_trace_id", .str recoveryTraceId), ("status", .str "active"),
    ("updated_at", .str "2024-01-01T00:00:00Z")]

/-- The identifier with a number of letters. -/
def letters (count : Nat) : String := String.ofList (List.replicate count 'a')

theorem letters_injective : Function.Injective letters := by
  intro i j heq
  have hlists := congrArg (List.length ∘ String.toList) heq
  simpa [letters] using hlists

/-- A number of active traces, one as old as the other. -/
def activeState (count : Nat) : RecoveryState where
  redis :=
    { recoveryTraces :=
        ⟨(List.range count).map fun i => ⟨letters i, activeTrace (letters i)⟩, by
          rw [List.NodupKeys, List.keys, List.map_map]
          exact List.nodup_range.map letters_injective⟩
      latestEvaluations := ∅
      pairLocks := ∅ }
  store := MemoryStore.empty ["bot"]

theorem length_activeTraces_activeState (count : Nat) :
    (activeTraces (activeState count)).length = count := by
  have hactive : ∀ recoveryTraceId, RedisRuntime.matchesFilters "" "" "active"
      (activeTrace recoveryTraceId) = true := by
    intro recoveryTraceId
    have hstatus : (activeTrace recoveryTraceId).get "status" = .str "active" := by
      simp [activeTrace, Dict.get, Dict.get?_cons]
    have hnormal : normalizedText (.str "active") = "active" := by decide +kernel
    simp [RedisRuntime.matchesFilters, hstatus, hnormal]
  have hall : activeTraces (activeState count) =
      (List.range count).map (activeTrace ∘ letters) := by
    unfold activeTraces storedTraces activeState
    dsimp only
    rw [List.map_map]
    apply List.filter_eq_self.mpr
    intro trace htrace
    obtain ⟨i, _, rfl⟩ := List.mem_map.mp htrace
    exact hactive (letters i)
  rw [hall, List.length_map, List.length_range]

/-- Without evaluations a tick comes to its listing with nothing done. -/
theorem listingPoint_activeState (setup : RecoverySetup) (count : Nat) :
    (listingPoint setup calm (activeState count)).1 = activeState count := by
  unfold activeState
  rfl

/-- Its traces can be dated. -/
theorem listsActive_activeState (setup : RecoverySetup) (count : Nat) :
    ListsActive setup calm (activeState count) where
  reaches :=
    { closing := ⟨List.forall_mem_nil _, trivial⟩
      opening := ⟨List.forall_mem_nil _, trivial⟩ }
  dated := by
    rw [listingPoint_activeState]
    rintro ⟨trace, htrace, hundated⟩
    obtain ⟨entry, hentry, rfl⟩ := List.mem_map.mp (List.mem_of_mem_filter htrace)
    obtain ⟨i, -, rfl⟩ := List.mem_map.mp hentry
    have hupdated : (activeTrace (letters i)).get "updated_at" = .str "2024-01-01T00:00:00Z" := by
      simp [activeTrace, Dict.get, Dict.get?_cons]
    have hcreated : (activeTrace (letters i)).get "created_at" = .null := by
      simp [activeTrace, Dict.get, Dict.get?_cons]
    rw [RedisRuntime.listedDateOverflows, hupdated, hcreated] at hundated
    revert hundated
    decide +kernel

def plainSetup : RecoverySetup := ⟨.ofConfig 30 15 3 15, .default, .counting, true⟩

theorem worksThrough_of_length_le_one {setup : RecoverySetup} {course : Course}
    {traces : List Dict} {s : RecoveryState × Nat} (hlength : traces.length ≤ 1) :
    WorksThrough setup course traces s := by
  cases traces with
  | nil => trivial
  | cons trace rest =>
      cases rest with
      | nil => trivial
      | cons next others => simp at hlength

/-- A single active trace is processed. -/
theorem processesAll_activeState_one : ProcessesAll plainSetup calm (activeState 1) := by
  apply (processesAll_iff plainSetup calm (activeState 1) calm_quiet).mpr
  have hone := length_activeTraces_activeState 1
  refine Or.inr ⟨listsActive_activeState plainSetup 1, ?_, worksThrough_of_length_le_one ?_⟩
  · rw [listingPoint_activeState, hone]
    decide
  · rw [length_listedTraces calm_quiet, listingPoint_activeState, hone]
    decide

/-- Of a hundred and one active traces one is left out. -/
theorem not_processesAll : ¬ ∀ (setup : RecoverySetup) (course : Course) (s : RecoveryState),
    course.Quiet → ProcessesAll setup course s := by
  intro hall
  have hlimit := length_le_of_processesAll calm_quiet
    (hall plainSetup calm (activeState 101) calm_quiet)
  rw [listingPoint_activeState, length_activeTraces_activeState] at hlimit
  omega

end Limit

end TradingPlatform.Recovery

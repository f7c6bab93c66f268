import TradingPlatform.Routes.Service

/-! # Handoff flags

A trace that stays active for too long is handed over, unless it carries the flag
of a handoff already. Whoever makes a trace active again has to take the flag
back. All programs of the service do so but two, and these depend on what they
find when they read the trace for the last time.
-/

namespace TradingPlatform.Routes

open Programs Program Storage TradingPlatform.Runtime Recovery RecoveryProgram Execution

section Flags

def isActive (trace : Dict) : Prop := normalizedText (trace.get "status") = "active"

/-- The handoff flag of a trace is taken back. -/
def unflagged (trace : Dict) : Prop := trace.get "manual_handoff_required" = .bool false

/-- A trace that is not active, or whose flag is taken back. -/
def MayTimeOut (trace : Dict) : Prop := isActive trace → unflagged trace

/-- A trace is kept under its name, and carries no handoff flag while it is active. -/
structure Punctual (key : String) (trace : Dict) : Prop where
  names : Names key trace
  nonempty : key ≠ ""
  mayTimeOut : MayTimeOut trace

/-- Nothing is said about whether a trace is handed over. -/
structure SparesFlag (patch : Dict) : Prop where
  status : "status" ∉ patch.map Prod.fst
  flag : "manual_handoff_required" ∉ patch.map Prod.fst

variable {key : String} {trace patch : Dict}

theorem isActive_merge (hspares : "status" ∉ patch.map Prod.fst) :
    isActive (trace.merge patch) ↔ isActive trace := by
  rw [isActive, Dict.get_merge_of_notMem _ _ hspares, isActive]

theorem unflagged_merge (hspares : "manual_handoff_required" ∉ patch.map Prod.fst) :
    unflagged (trace.merge patch) ↔ unflagged trace := by
  rw [unflagged, Dict.get_merge_of_notMem _ _ hspares, unflagged]

theorem MayTimeOut.merge (hmay : MayTimeOut trace) (hspares : SparesFlag patch) :
    MayTimeOut (trace.merge patch) := by
  intro hactive
  rw [unflagged_merge hspares.flag]
  exact hmay ((isActive_merge hspares.status).mp hactive)

theorem MayTimeOut.stamped (hmay : MayTimeOut trace) (name updatedAt : Json) :
    MayTimeOut (trace.merge [("recovery_trace_id", name), ("updated_at", updatedAt)]) :=
  hmay.merge ⟨by simp, by simp⟩

/-- A status other than active needs no flag taken back. -/
theorem mayTimeOut_of_status {status : String} (hstatus : trace.get "status" = .str status)
    (hother : normalizedText (.str status) ≠ "active") : MayTimeOut trace := by
  intro hactive
  rw [isActive, hstatus] at hactive
  exact absurd hactive hother

end Flags

section Contract

/-- What becomes of the flags: every document is written so that it may time out,
and every one that is read is like that. -/
def flagContract : Contract RecoveryOp RecoveryOp.Reply Unit where
  permits _ op :=
    match op with
    | .setTrace key document => Punctual key document
    | _ => True
  answers _ op :=
    match op with
    | .getTrace key => fun found => ∀ trace ∈ found, Punctual key trace
    | .drawId => fun digits => Text.strip ("rt_" ++ digits) = "rt_" ++ digits
    | _ => fun _ => True
  advance _ _ _ := ()

variable {α β ι : Type} {key : String}

def Minds (p : RecoveryProgram α) (promise : α → Prop) : Prop :=
  p.Keeps flagContract (fun value _ => promise value) ()

theorem minds_pure {value : α} {promise : α → Prop} (hvalue : promise value) :
    Minds (pure value) promise :=
  keeps_pure.mpr hvalue

theorem minds_raised {text : String} {promise : α → Prop} : Minds (raised text) promise :=
  keeps_raised

theorem Minds.bind {p : RecoveryProgram β} {f : β → RecoveryProgram α} {middle : β → Prop}
    {promise : α → Prop} (hp : Minds p middle)
    (hf : ∀ value, middle value → Minds (f value) promise) : Minds (p >>= f) promise :=
  Keeps.bind hp fun value _ hvalue => hf value hvalue

theorem Minds.mono {p : RecoveryProgram α} {stronger weaker : α → Prop} (hp : Minds p stronger)
    (hweaker : ∀ value, stronger value → weaker value) : Minds p weaker :=
  Keeps.mono hp fun value _ => hweaker value

theorem minds_ask_iff (op : RecoveryOp) {promise : op.Reply → Prop} :
    Minds (ask op) promise ↔ flagContract.permits () op ∧
      ∀ reply, flagContract.answers () op reply → promise reply :=
  keeps_operation

theorem minds_ask {op : RecoveryOp} {promise : op.Reply → Prop} (hop : Indifferent op)
    (hpromise : ∀ reply, promise reply) : Minds (ask op) promise := by
  cases op with
  | getTrace | setTrace | scanTraces | drawId => exact False.elim hop
  | _ => exact (minds_ask_iff _).mpr ⟨trivial, fun reply _ => hpromise reply⟩

/-- Ask something indifferent and go on with any answer. -/
theorem minds_ask_bind {op : RecoveryOp} {f : op.Reply → RecoveryProgram α} {promise : α → Prop}
    (hop : Indifferent op) (hf : ∀ reply, Minds (f reply) promise) :
    Minds (ask op >>= f) promise :=
  (minds_ask hop fun _ => trivial : Minds (ask op) fun _ => True).bind fun reply _ => hf reply

theorem minds_getRecoveryTrace :
    Minds (getRecoveryTrace key) fun found => ∀ trace ∈ found, Punctual key trace :=
  (minds_ask_iff (.getTrace key)).mpr ⟨trivial, fun _ hfound => hfound⟩

theorem minds_scanTraces : Minds (ask .scanTraces) fun _ => True :=
  (minds_ask_iff .scanTraces).mpr ⟨trivial, fun _ _ => trivial⟩

theorem Minds.forEach {items : List ι} {body : ι → RecoveryProgram Unit}
    (hbody : ∀ item ∈ items, Minds (body item) fun _ => True) :
    Minds (forEach items body) fun _ => True :=
  keeps_forEach (fun _ => True) trivial fun item hitem _ _ => hbody item hitem

/-- What is collected was found for one of the items. -/
theorem Minds.collect {finds : β → Prop} {items : List ι}
    {body : ι → RecoveryProgram (Option β)}
    (hbody : ∀ item, Minds (body item) fun found => ∀ b ∈ found, finds b) :
    Minds (collect items body) fun found => ∀ b ∈ found, finds b := by
  refine Keeps.mono (keeps_collect (fun _ => True) (fun _ => finds) trivial
    fun item _ _ _ => (hbody item).mono fun found hfound => ⟨trivial, hfound⟩) ?_
  intro found after hfound
  obtain ⟨-, met, -, hfinds⟩ := hfound
  induction hfinds with
  | nil => simp
  | cons hfirst _ ih => exact List.forall_mem_cons.mpr ⟨hfirst, ih⟩

end Contract

section Redis

variable {key : String} {payload patch : Dict}

theorem minds_syncRecoveryTrace (hplain : Text.strip key = key) (hnonempty : key ≠ "")
    (hmay : MayTimeOut payload) : Minds (syncRecoveryTrace key payload) fun _ => True := by
  refine minds_ask_bind trivial fun updatedAt => ?_
  have hwrite : Minds (ask (.setTrace key (payload.merge
      [("recovery_trace_id", .str key), ("updated_at", .str updatedAt)]))) fun _ => True :=
    (minds_ask_iff _).mpr
      ⟨⟨names_stamped hplain payload _, hnonempty, hmay.stamped _ _⟩, fun _ _ => trivial⟩
  exact hwrite.bind fun _ _ => minds_pure trivial

theorem minds_syncArbitrageEvaluation (runId : String) (payload : Dict) :
    Minds (syncArbitrageEvaluation runId payload) fun _ => True := by
  refine minds_ask_bind trivial fun cachedAt => ?_
  refine minds_ask_bind trivial fun written => ?_
  exact minds_pure trivial

theorem minds_syncArbitrageEvaluationRecoveryState (runId : String) (trace : Dict) :
    Minds (syncArbitrageEvaluationRecoveryState runId trace) fun _ => True := by
  refine minds_ask_bind trivial fun evaluation => ?_
  cases evaluation with
  | none => exact minds_pure trivial
  | some current => exact minds_syncArbitrageEvaluation runId _

theorem minds_carryOver (runId : String) :
    Minds (carryOver key runId) fun latest => ∀ trace ∈ latest, Punctual key trace := by
  unfold carryOver
  split
  · exact minds_pure (by simp)
  · apply minds_getRecoveryTrace.bind
    intro found hfound
    cases found with
    | none => exact minds_pure (by simp)
    | some latest =>
        apply (minds_syncArbitrageEvaluationRecoveryState runId latest).bind
        intro _ _
        exact minds_pure hfound

theorem minds_writeTransition (hplain : Text.strip key = key) (hnonempty : key ≠ "")
    (hmay : MayTimeOut payload) : Minds (writeTransition key payload) fun _ => True := by
  apply (minds_syncRecoveryTrace hplain hnonempty hmay).bind
  intro _ _
  apply (minds_carryOver _).bind
  intro _ _
  apply minds_getRecoveryTrace.bind
  intro _ _
  exact minds_pure trivial

/-- A transition to another status, or one that takes the flag back. -/
theorem mayTimeOut_transitioned {current : Dict} {status lifecycleState : String}
    (hstatus : "status" ∉ patch.map Prod.fst)
    (hflag : normalizedText (.str status) = "active" →
      unflagged (transitioned current status lifecycleState patch)) :
    MayTimeOut (transitioned current status lifecycleState patch) := by
  intro hactive
  have hwritten : (transitioned current status lifecycleState patch).get "status" =
      .str status := by
    rw [transitioned, Dict.get_merge_of_notMem _ _ hstatus]
    exact Dict.get_merge_of_mem (by simp) List.mem_cons_self
  rw [isActive, hwritten] at hactive
  exact hflag hactive

theorem minds_transitionRecoveryTrace {status lifecycleState : String}
    (hmay : ∀ current, MayTimeOut (transitioned current status lifecycleState patch)) :
    Minds (transitionRecoveryTrace key status lifecycleState patch) fun _ => True := by
  rw [transitionRecoveryTrace_eq]
  apply minds_getRecoveryTrace.bind
  intro found hfound
  cases found with
  | none => exact minds_pure trivial
  | some current =>
      obtain ⟨hnames, hnonempty, -⟩ := hfound current rfl
      dsimp only
      split
      · exact minds_pure trivial
      · exact minds_writeTransition hnames.plain hnonempty (hmay current)

theorem minds_listRecoveryTraces (limit : Nat) (botId runId status : String) :
    Minds (listRecoveryTraces limit botId runId status) fun listed =>
      ∀ traces ∈ listed, ∀ trace ∈ traces, ∃ key, Punctual key trace := by
  apply minds_scanTraces.bind
  intro keys _
  cases keys with
  | none => exact minds_pure (by simp)
  | some keys =>
      have hcollect : Minds (collect keys getRecoveryTrace) fun found =>
          ∀ trace ∈ found, ∃ key, Punctual key trace :=
        Minds.collect fun key => minds_getRecoveryTrace.mono fun found hfound trace htrace =>
          ⟨key, hfound trace htrace⟩
      apply hcollect.bind
      intro documents hdocuments
      dsimp only
      split_ifs
      · exact minds_raised
      refine minds_pure fun traces htraces trace htrace => ?_
      obtain rfl := Option.some.inj htraces
      have hlisted := (List.perm_insertionSort _ _).subset (List.take_subset _ _ htrace)
      exact hdocuments trace (List.mem_of_mem_filter hlisted)

theorem minds_getBlockingRecoveryTrace (botId runId : String) :
    Minds (getBlockingRecoveryTrace botId runId) fun _ => True := by
  apply (minds_listRecoveryTraces 10 botId runId "handoff_required").bind
  intro handoffs _
  cases handoffs with
  | none => exact minds_raised
  | some handoffs =>
      apply (minds_listRecoveryTraces 10 botId runId "active").bind
      intro actives _
      cases actives with
      | none => exact minds_raised
      | some actives => exact minds_pure trivial

theorem minds_listArbitrageEvaluations (limit : Nat) :
    Minds (listArbitrageEvaluations limit) fun _ => True := by
  refine minds_ask_bind trivial fun runIds => ?_
  cases runIds with
  | none => exact minds_pure trivial
  | some runIds =>
      have hcollect : Minds (collect runIds getArbitrageEvaluation) fun found =>
          ∀ evaluation ∈ found, True :=
        Minds.collect fun runId => minds_ask trivial fun _ _ _ => trivial
      apply hcollect.bind
      intro evaluations _
      split_ifs
      · exact minds_raised
      · exact minds_pure trivial

end Redis

section Tick

variable {key : String} {setup : RecoverySetup}

theorem minds_syncTerminalEvaluation (item : Dict) :
    Minds (syncTerminalEvaluation item) fun _ => True := by
  unfold syncTerminalEvaluation
  dsimp only
  split
  · exact minds_pure trivial
  · apply (minds_getBlockingRecoveryTrace _ _).bind
    intro blocking _
    cases blocking with
    | some trace => exact minds_pure trivial
    | none =>
        refine minds_ask_bind trivial fun intents => ?_
        split
        · exact minds_pure trivial
        · refine minds_ask_bind trivial fun listing => ?_
          split
          · exact minds_pure trivial
          · exact minds_syncArbitrageEvaluation _ _

theorem minds_syncTerminalLatestEvaluations :
    Minds RecoveryProgram.syncTerminalLatestEvaluations fun _ => True := by
  apply (minds_listArbitrageEvaluations 100).bind
  intro evaluations _
  cases evaluations with
  | none => exact minds_raised
  | some evaluations => exact Minds.forEach fun item _ => minds_syncTerminalEvaluation item

theorem nonempty_drawn (digits : String) : "rt_" ++ digits ≠ "" := by
  intro hempty
  have hlength := congrArg String.length hempty
  rw [String.length_append] at hlength
  simp at hlength

/-- Draw the name of a trace and go on with it. -/
theorem minds_drawId_bind {α : Type} {f : String → RecoveryProgram α} {promise : α → Prop}
    (hf : ∀ digits, Text.strip ("rt_" ++ digits) = "rt_" ++ digits → Minds (f digits) promise) :
    Minds (ask .drawId >>= f) promise := by
  have hdraw : Minds (ask .drawId) fun digits => Text.strip ("rt_" ++ digits) = "rt_" ++ digits :=
    (minds_ask_iff .drawId).mpr ⟨trivial, fun _ hdigits => hdigits⟩
  exact hdraw.bind hf

/-- A trace is opened without the flag. -/
theorem minds_createSubmitTimeoutTrace (botId runId : String) (oldestSubmittedAt age : Int) :
    Minds (createSubmitTimeoutTrace setup botId runId oldestSubmittedAt age) fun _ => True := by
  refine minds_drawId_bind fun digits hplain => ?_
  refine minds_ask_bind trivial fun isoNow => ?_
  have hmay : MayTimeOut (submitTimeoutTrace setup ("rt_" ++ digits) runId botId isoNow
      oldestSubmittedAt age) := by
    intro _
    simp [unflagged, submitTimeoutTrace, Dict.get, Dict.get?_cons]
  apply (minds_syncRecoveryTrace hplain (nonempty_drawn digits) hmay).bind
  intro _ _
  apply (minds_carryOver _).bind
  intro _ _
  exact minds_ask_bind trivial fun _ => minds_pure trivial

theorem minds_openSubmitTimeoutTrace (item : Dict) :
    Minds (openSubmitTimeoutTrace setup item) fun _ => True := by
  unfold openSubmitTimeoutTrace
  dsimp only
  split
  · exact minds_pure trivial
  · apply (minds_getBlockingRecoveryTrace _ _).bind
    intro blocking _
    cases blocking with
    | some trace => exact minds_pure trivial
    | none =>
        refine minds_ask_bind trivial fun listing => ?_
        split_ifs
        · exact minds_raised
        · split
          next => exact minds_pure trivial
          next oldestSubmittedAt _ =>
            refine minds_ask_bind trivial fun now => ?_
            split
            · exact minds_pure trivial
            · exact minds_createSubmitTimeoutTrace _ _ _ _

theorem minds_openSubmitTimeoutTraces :
    Minds (RecoveryProgram.openSubmitTimeoutTraces setup) fun _ => True := by
  apply (minds_listArbitrageEvaluations 100).bind
  intro evaluations _
  cases evaluations with
  | none => exact minds_raised
  | some evaluations => exact Minds.forEach fun item _ => minds_openSubmitTimeoutTrace item

/-- A reconciliation says nothing about the flag either. -/
theorem sparesFlag_reconciliationPatch {ctx : DecimalContext}
    {connectors : List (String × StatusConnector)} {reads : ReadStore} {trace snapshot : Dict}
    {orders : List Order} {fills : List Fill} {observedAt : String} (recordedAt : String)
    (hsnapshot : buildAutoReconciliationSnapshot ctx connectors reads trace orders fills
      observedAt = .ok (some snapshot)) :
    SparesFlag (reconciliationPatch trace snapshot recordedAt) := by
  have hfields := @map_fst_reconciliationPatch trace snapshot recordedAt
    (map_fst_snapshot hsnapshot)
  exact ⟨by rw [hfields]; decide, by rw [hfields]; decide⟩

theorem minds_autoRecordReconciliation {trace : Dict} (hpunctual : Punctual key trace)
    (listing : ReadStore) :
    Minds (RecoveryProgram.autoRecordReconciliation setup trace listing)
      fun reconciled => Punctual key reconciled := by
  refine minds_ask_bind trivial fun connectors => ?_
  split
  · exact minds_pure hpunctual
  · refine minds_ask_bind trivial fun later => ?_
    refine minds_ask_bind trivial fun observedAt => ?_
    split
    next => exact minds_raised
    next => exact minds_pure hpunctual
    next snapshot hsnapshot =>
      refine minds_ask_bind trivial fun recordedAt => ?_
      have hspares := sparesFlag_reconciliationPatch recordedAt hsnapshot
      have hname := (reconciliationPatch_keys recordedAt hsnapshot).2
      have hkey : Text.strip (traceText trace "recovery_trace_id") = key := by
        rw [hpunctual.names.named, hpunctual.names.plain]
      have hupdated : Punctual key
          (trace.merge (reconciliationPatch trace snapshot recordedAt)) := by
        refine ⟨⟨?_, hpunctual.names.plain⟩, hpunctual.nonempty, hpunctual.mayTimeOut.merge hspares⟩
        rw [traceText, Dict.get_merge_of_notMem _ _ hname]
        exact hpunctual.names.named
      rw [hkey]
      apply (minds_syncRecoveryTrace hupdated.names.plain hupdated.nonempty
        hupdated.mayTimeOut).bind
      intro _ _
      apply (minds_carryOver _).bind
      intro latest hlatest
      refine minds_pure ?_
      cases latest with
      | none => exact hupdated
      | some latest => exact hlatest latest rfl

theorem minds_judgeTrace (orders : List Order) (trace : Dict) :
    Minds (judgeTrace setup orders trace) fun _ => True := by
  refine minds_ask_bind trivial fun resultChecked => ?_
  refine minds_ask_bind trivial fun stalenessChecked => ?_
  refine minds_ask_bind trivial fun intents => ?_
  by_cases hobserved : observationOverflows trace = true
  · rw [if_pos hobserved]
    exact minds_raised
  rw [if_neg hobserved]
  split
  · exact minds_pure trivial
  · split
    · exact minds_pure trivial
    · refine minds_ask_bind trivial fun failing => ?_
      refine minds_ask_bind trivial fun hanging => ?_
      refine minds_ask_bind trivial fun unwindChecked => ?_
      split
      · exact minds_pure trivial
      · by_cases hdated : unwindDateOverflows hanging trace = true
        · rw [if_pos hdated]
          exact minds_raised
        rw [if_neg hdated]
        split
        · exact minds_pure trivial
        · by_cases hflat : (!hasActiveOrders orders) = true ∧
              (residualExposureQuote trace).map Decimal.value = some 0
          · rw [if_pos hflat]
            exact minds_pure trivial
          · rw [if_neg hflat]
            refine minds_ask_bind trivial fun ageChecked => ?_
            split_ifs
            · exact minds_raised
            · exact minds_pure trivial
            · exact minds_pure trivial

theorem status_handedOffTrace (trace : Dict) (handoff : Handoff) (alertId : String) :
    (handedOffTrace trace handoff alertId).get "status" = .str "handoff_required" :=
  Dict.get_merge_of_mem (by simp) List.mem_cons_self

theorem status_resolvedTrace (trace : Dict) (reason closedAt : String) :
    (resolvedTrace trace reason closedAt).get "status" = .str "resolved" :=
  Dict.get_merge_of_mem (by simp) List.mem_cons_self

theorem normalizedText_handoff : normalizedText (.str "handoff_required") ≠ "active" := by
  decide +kernel

theorem normalizedText_resolved : normalizedText (.str "resolved") ≠ "active" := by
  decide +kernel

theorem minds_applyVerdict {trace : Dict} (hnames : Names key trace) (hnonempty : key ≠ "")
    (verdict : TraceVerdict) : Minds (applyVerdict trace verdict) fun _ => True := by
  have hwrite : ∀ payload runId, MayTimeOut payload → Minds (do
      syncRecoveryTrace (traceText trace "recovery_trace_id") payload
      let _ ← carryOver (traceText trace "recovery_trace_id") runId) fun _ => True := by
    intro payload runId hmay
    rw [hnames.named]
    apply (minds_syncRecoveryTrace hnames.plain hnonempty hmay).bind
    intro _ _
    exact (minds_carryOver runId).bind fun _ _ => minds_pure trivial
  cases verdict with
  | handedOff handoff =>
      refine minds_ask_bind trivial fun alertId => hwrite _ _ ?_
      exact mayTimeOut_of_status (status_handedOffTrace _ _ _) normalizedText_handoff
  | resolved reason =>
      refine minds_ask_bind trivial fun closedAt => hwrite _ _ ?_
      exact mayTimeOut_of_status (status_resolvedTrace _ _ _) normalizedText_resolved
  | skipped reason => exact minds_pure trivial
  | raised text => exact minds_pure trivial

theorem minds_processTrace {trace : Dict} (hpunctual : Punctual key trace) :
    Minds (RecoveryProgram.processTrace setup trace) fun _ => True := by
  unfold RecoveryProgram.processTrace
  split
  · exact minds_pure trivial
  · refine minds_ask_bind trivial fun listing => ?_
    apply (minds_autoRecordReconciliation hpunctual listing).bind
    intro reconciled hreconciled
    apply (minds_judgeTrace _ reconciled).bind
    intro verdict _
    exact minds_applyVerdict hreconciled.names hreconciled.nonempty verdict

theorem minds_processTraces {traces : List Dict}
    (hpunctual : ∀ trace ∈ traces, ∃ key, Punctual key trace) :
    Minds (processTraces setup traces) fun _ => True := by
  induction traces with
  | nil => exact minds_pure trivial
  | cons trace rest ih =>
      obtain ⟨⟨key, hfirst⟩, hrest⟩ := List.forall_mem_cons.mp hpunctual
      refine minds_ask_bind trivial fun stopping => ?_
      split
      · exact minds_pure trivial
      · apply (minds_processTrace hfirst).bind
        intro _ _
        exact ih hrest

theorem minds_tick : Minds (tick setup) fun _ => True := by
  apply Keeps.rescue
  · apply Minds.bind minds_syncTerminalLatestEvaluations
    intro _ _
    apply minds_openSubmitTimeoutTraces.bind
    intro _ _
    apply (minds_listRecoveryTraces 100 "" "" "active").bind
    intro listed hlisted
    cases listed with
    | none => exact minds_raised
    | some traces => exact minds_processTraces (hlisted traces rfl)
  · intro _ _
    exact minds_pure trivial

end Tick

section Operator

variable {key : String} {setup : RecoverySetup} {body : Dict}

theorem minds_resolve : Minds (resolveRecoveryTraceResponse setup key body) fun _ => True := by
  unfold resolveRecoveryTraceResponse
  dsimp only
  split
  · exact minds_pure trivial
  · apply minds_getRecoveryTrace.bind
    intro found _
    cases found with
    | none => exact minds_pure trivial
    | some current =>
        dsimp only
        split
        · exact minds_pure trivial
        · refine minds_ask_bind trivial fun closedAt => ?_
          refine (minds_transitionRecoveryTrace fun current => ?_).bind fun _ _ =>
            minds_pure trivial
          exact mayTimeOut_transitioned (by simp) fun h => absurd h normalizedText_resolved

theorem minds_handoff : Minds (handoffRecoveryTraceResponse key body) fun _ => True := by
  refine (minds_transitionRecoveryTrace fun current => ?_).bind fun _ _ => minds_pure trivial
  exact mayTimeOut_transitioned (by simp) fun h => absurd h normalizedText_handoff

/-- Starting an unwind takes the flag back. -/
theorem minds_startUnwind (unwindIntent : Option OrderIntent) (residual : Option Numeral) :
    Minds (startUnwind key body unwindIntent residual) fun _ => True := by
  refine minds_ask_bind trivial fun startedAt => ?_
  refine (minds_transitionRecoveryTrace fun current => ?_).bind fun _ _ => minds_pure trivial
  have hkeys : ((unwindPatch body unwindIntent residual startedAt).map Prod.fst).Nodup := by
    cases unwindIntent <;> simp [unwindPatch]
  have hflag : ("manual_handoff_required", Json.bool false) ∈
      unwindPatch body unwindIntent residual startedAt := by
    simp [unwindPatch]
  refine mayTimeOut_transitioned ?_ fun _ => Dict.get_merge_of_mem hkeys hflag
  cases unwindIntent <;> simp [unwindPatch]

theorem minds_createUnwindIntent (current : Dict) :
    Minds (createUnwindIntent setup key body current) fun _ => True := by
  unfold createUnwindIntent
  split
  next => exact minds_pure trivial
  next new _ =>
    refine minds_ask_bind trivial fun answer => ?_
    cases answer.createdRow with
    | none => exact minds_pure trivial
    | some intent => exact minds_pure trivial

theorem minds_startUnwindResponse :
    Minds (startUnwindRecoveryTraceResponse setup key body) fun _ => True := by
  unfold startUnwindRecoveryTraceResponse
  dsimp only
  split
  next => exact minds_pure trivial
  next =>
    split
    next => exact minds_pure trivial
    next =>
      apply minds_getRecoveryTrace.bind
      intro found _
      cases found with
      | none => exact minds_pure trivial
      | some current =>
          dsimp only
          split
          · exact minds_pure trivial
          · split
            · apply (minds_createUnwindIntent current).bind
              intro created _
              cases created with
              | error error => exact minds_pure trivial
              | ok intent => exact minds_startUnwind _ _
            · exact minds_startUnwind _ _

theorem minds_answerAfterTick (runId : Option String) (fallback : Dict) (answer : TraceAnswer) :
    Minds (answerAfterTick setup key runId fallback answer) fun _ => True := by
  have honce : Minds (runOnce setup) fun _ => True := by
    unfold runOnce
    split
    · exact minds_tick
    · exact minds_pure trivial
  apply honce.bind
  intro _ _
  apply minds_getRecoveryTrace.bind
  intro latest _
  dsimp only
  split
  next => exact minds_pure trivial
  next => exact minds_pure trivial
  next => exact minds_ask_bind trivial fun evaluation => minds_pure trivial

theorem minds_recordUnwindFill :
    Minds (recordUnwindFillResponse setup key body) fun _ => True := by
  apply minds_getRecoveryTrace.bind
  intro found _
  cases found with
  | none => exact minds_pure trivial
  | some current =>
      dsimp only
      split
      · exact minds_pure trivial
      · split
        · exact minds_pure trivial
        · split
          next => exact minds_pure trivial
          next new _ =>
            refine minds_ask_bind trivial fun answer => ?_
            cases answer.createdRow with
            | none => exact minds_pure trivial
            | some fill =>
                refine (minds_transitionRecoveryTrace fun current => ?_).bind fun _ _ =>
                  minds_answerAfterTick _ _ _
                refine mayTimeOut_transitioned (by simp) fun _ => ?_
                exact Dict.get_merge_of_mem (by simp) List.mem_cons_self

theorem sparesFlag_recordedPatch (current : Dict) (reconciliation : Reconciliation)
    (updatedAt : String) : SparesFlag (recordedPatch body current reconciliation updatedAt) :=
  ⟨by simp [recordedPatch], by simp [recordedPatch]⟩

theorem minds_recordReconciliation :
    Minds (recordReconciliationResponse setup key body) fun _ => True := by
  unfold recordReconciliationResponse
  split
  next => exact minds_pure trivial
  next reconciliation _ =>
    apply minds_getRecoveryTrace.bind
    intro found hfound
    cases found with
    | none => exact minds_pure trivial
    | some current =>
        obtain ⟨hnames, hnonempty, hmay⟩ := hfound current rfl
        dsimp only
        split
        · exact minds_pure trivial
        · refine minds_ask_bind trivial fun updatedAt => ?_
          have hrecorded := hmay.merge
            (@sparesFlag_recordedPatch body current reconciliation updatedAt)
          apply (minds_syncRecoveryTrace hnames.plain hnonempty hrecorded).bind
          intro _ _
          apply minds_getRecoveryTrace.bind
          intro updated _
          cases updated with
          | none => exact minds_pure trivial
          | some updated =>
              dsimp only
              split
              · apply (minds_syncArbitrageEvaluationRecoveryState _ updated).bind
                exact fun _ _ => minds_answerAfterTick _ _ _
              · exact minds_answerAfterTick _ _ _

theorem minds_cancelTraceOrder (order : Order) :
    Minds (cancelTraceOrder order) fun _ => True := by
  have htake : ∀ status observed,
      Minds (takeOverCancellation order status observed) fun _ => True := by
    intro status observed
    unfold takeOverCancellation
    split
    next => exact minds_pure trivial
    next =>
      split
      next => exact minds_pure trivial
      next =>
        refine minds_ask_bind trivial fun answer => ?_
        split <;> exact minds_pure trivial
  unfold cancelTraceOrder
  dsimp only
  split
  · exact minds_pure trivial
  · split
    · exact minds_pure trivial
    · refine minds_ask_bind trivial fun cancelled => ?_
      split
      next => exact minds_raised
      next => exact minds_pure trivial
      next response =>
        split
        next => exact minds_pure trivial
        next data => exact htake _ _

theorem minds_cancelTraceOrders (orders : List Order) :
    Minds (cancelTraceOrders orders) fun _ => True := by
  induction orders with
  | nil => exact minds_pure trivial
  | cons order rest ih =>
      apply (minds_cancelTraceOrder order).bind
      intro result _
      exact ih.bind fun others _ => minds_pure trivial

end Operator

section Heeding

variable {α β : Type} {key : String}

/-- The client is about to make a trace active without a word on its flag. -/
def Overlooks (id : String) (p : RecoveryProgram α) : Prop :=
  ∃ status lifecycleState patch rest,
    p = transitionRecoveryTrace id status lifecycleState patch >>= rest ∧
      normalizedText (.str status) = "active" ∧ SparesFlag patch

/-- Whoever overlooks the flag of a trace finds the trace finished or the flag taken back. -/
def Heeded : (op : RecoveryOp) → (op.Reply → RecoveryProgram α) → op.Reply → Prop
  | .getTrace id, next, found => Overlooks id (.perform (.getTrace id) next) →
      ∀ trace ∈ found, isTerminalTrace trace ∨ unflagged trace
  | _, _, _ => True

/-- The program minds the flags, as long as those it overlooks are taken back. -/
def Heedful : RecoveryProgram α → Prop
  | .done _ | .raised _ => True
  | .perform op next => flagContract.permits () op ∧ ∀ reply, flagContract.answers () op reply →
      Heeded op next reply → Heedful (next reply)

theorem heedful_pure (value : α) : Heedful (pure value : RecoveryProgram α) := trivial

theorem heedful_perform {op : RecoveryOp} {next : op.Reply → RecoveryProgram α} :
    Heedful (.perform op next) ↔ flagContract.permits () op ∧
      ∀ reply, flagContract.answers () op reply → Heeded op next reply → Heedful (next reply) :=
  Iff.rfl

/-- Read a trace and go on; an overlooked flag is taken back. -/
theorem heedful_getRecoveryTrace_bind {f : Option Dict → RecoveryProgram α}
    (hf : ∀ found : Option Dict, (∀ trace ∈ found, Punctual key trace) →
      (Overlooks key (getRecoveryTrace key >>= f) →
        ∀ trace ∈ found, isTerminalTrace trace ∨ unflagged trace) → Heedful (f found)) :
    Heedful (getRecoveryTrace key >>= f) :=
  ⟨trivial, fun found hfound hheeded => hf found hfound hheeded⟩

theorem Minds.heedful {p : RecoveryProgram α} {promise : α → Prop} (hp : Minds p promise) :
    Heedful p := by
  induction p with
  | done value => trivial
  | raised text => trivial
  | perform op next ih =>
      obtain ⟨hpermits, hrest⟩ := keeps_perform.mp hp
      exact ⟨hpermits, fun reply hreply _ => ih reply (hrest reply hreply)⟩

theorem Minds.heedful_bind {p : RecoveryProgram β} {f : β → RecoveryProgram α}
    {middle : β → Prop} (hp : Minds p middle) (hf : ∀ value, middle value → Heedful (f value)) :
    Heedful (p >>= f) := by
  induction p with
  | done value => exact hf value (keeps_done.mp hp)
  | raised text => trivial
  | perform op next ih =>
      obtain ⟨hpermits, hrest⟩ := keeps_perform.mp hp
      exact ⟨hpermits, fun reply hreply _ => ih reply (hrest reply hreply)⟩

theorem heedful_ask_bind {op : RecoveryOp} {f : op.Reply → RecoveryProgram α}
    (hop : Indifferent op) (hf : ∀ reply, Heedful (f reply)) : Heedful (ask op >>= f) :=
  (minds_ask hop fun _ => trivial : Minds (ask op) fun _ => True).heedful_bind fun reply _ =>
    hf reply

theorem heedful_bind_pure {p : RecoveryProgram β} {f : β → α} (hp : Heedful p) :
    Heedful (p >>= fun value => pure (f value)) := by
  induction p with
  | done value => trivial
  | raised text => trivial
  | perform op next ih =>
      refine ⟨hp.1, fun reply hreply hheeded => ih reply (hp.2 reply hreply ?_)⟩
      cases op with
      | getTrace id =>
          intro hoverlooks
          apply hheeded
          obtain ⟨status, lifecycleState, patch, rest, heq, hrest⟩ := hoverlooks
          refine ⟨status, lifecycleState, patch, fun outcome => rest outcome >>= fun value =>
            pure (f value), ?_, hrest⟩
          rw [← bind_assoc, ← heq]
          rfl
      | _ => trivial

-- As with contracts, unfolding would run the program.
attribute [irreducible] Heedful

/-- A transition is heedful, whether it overlooks the flag or makes the trace inactive. -/
theorem heedful_transition_bind {status lifecycleState : String} {patch : Dict}
    {rest : Transition → RecoveryProgram α} (hspares : SparesFlag patch)
    (hrest : ∀ outcome, Heedful (rest outcome)) :
    Heedful (transitionRecoveryTrace key status lifecycleState patch >>= rest) := by
  by_cases hactive : normalizedText (.str status) = "active"
  · have hoverlooks : Overlooks key
        (transitionRecoveryTrace key status lifecycleState patch >>= rest) :=
      ⟨status, lifecycleState, patch, rest, rfl, hactive, hspares⟩
    rw [transitionRecoveryTrace_eq, bind_assoc] at hoverlooks ⊢
    apply heedful_getRecoveryTrace_bind
    intro found hfound hheeded
    have hunflagged := hheeded hoverlooks
    cases found with
    | none => exact hrest .missing
    | some current =>
        obtain ⟨hnames, hnonempty, -⟩ := hfound current rfl
        dsimp only
        split_ifs with hterminal
        · exact hrest (.terminal current)
        · have hflag : unflagged (transitioned current status lifecycleState patch) := by
            rw [transitioned, unflagged_merge hspares.flag, unflagged_merge (by simp)]
            exact (hunflagged current rfl).resolve_left hterminal
          exact (minds_writeTransition hnames.plain hnonempty fun _ => hflag).heedful_bind
            fun outcome _ => hrest outcome
  · refine (minds_transitionRecoveryTrace fun current => ?_).heedful_bind fun outcome _ =>
      hrest outcome
    exact mayTimeOut_transitioned hspares.status fun h => absurd h hactive

variable {setup : RecoverySetup} {body : Dict}

theorem heedful_submitUnwindOrder : Heedful (submitUnwindOrderResponse setup key body) := by
  apply minds_getRecoveryTrace.heedful_bind
  intro found _
  cases found with
  | none => exact heedful_pure _
  | some current =>
      dsimp only
      split
      · exact heedful_pure _
      · split
        · exact heedful_pure _
        · split
          · exact heedful_pure _
          · split
            next => exact heedful_pure _
            next new _ =>
              refine heedful_ask_bind trivial fun answer => ?_
              cases answer.createdRow with
              | none => exact heedful_pure _
              | some order =>
                  refine heedful_ask_bind trivial fun createdAt => ?_
                  refine heedful_transition_bind ⟨by simp, by simp⟩ fun outcome => ?_
                  cases Transition.trace outcome with
                  | none => exact heedful_pure _
                  | some trace => exact heedful_pure _

theorem sparesFlag_cancelPatch (results : List CancelResult) (remaining : List Order)
    (attemptedAt : String) : SparesFlag (cancelPatch body results remaining attemptedAt) :=
  ⟨by simp [cancelPatch], by simp [cancelPatch]⟩

theorem heedful_cancelOpenOrders : Heedful (cancelOpenOrdersResponse setup key body) := by
  apply minds_getRecoveryTrace.heedful_bind
  intro found _
  cases found with
  | none => exact heedful_pure _
  | some current =>
      dsimp only
      split
      · exact heedful_pure _
      · refine heedful_ask_bind trivial fun listing => ?_
        split
        · exact heedful_pure _
        · apply (minds_cancelTraceOrders _).heedful_bind
          intro results _
          refine heedful_ask_bind trivial fun later => ?_
          refine heedful_ask_bind trivial fun attemptedAt => ?_
          refine heedful_transition_bind (sparesFlag_cancelPatch _ _ _) fun outcome => ?_
          cases Transition.trace outcome with
          | none => exact heedful_pure _
          | some trace => exact (minds_answerAfterTick _ _ _).heedful

theorem minds_reportFailedSubmit (e : IntentExecution) (result : ArbitrageSubmitResult) :
    Minds (reportFailedSubmit e result) fun _ => True := by
  refine minds_ask_bind trivial fun reads => ?_
  apply (minds_syncArbitrageEvaluation _ _).bind
  intro _ _
  refine minds_ask_bind trivial fun alertId => ?_
  refine minds_drawId_bind fun digits hplain => ?_
  refine minds_ask_bind trivial fun createdAt => ?_
  have hmay : ∀ stamps, MayTimeOut (submitFailureTrace e stamps result) := by
    intro stamps _
    simp [unflagged, submitFailureTrace, Dict.get, Dict.get?_cons]
  apply (minds_syncRecoveryTrace hplain (nonempty_drawn digits) (hmay _)).bind
  intro _ _
  apply minds_getRecoveryTrace.bind
  intro found _
  cases found with
  | none => exact minds_pure trivial
  | some latest => exact minds_syncArbitrageEvaluationRecoveryState _ _

theorem heedful_program (task : ServiceTask) : Heedful (task.program setup) := by
  cases task with
  | failSubmit e result =>
      exact (minds_reportFailedSubmit e result).heedful_bind fun _ _ => heedful_pure _
  | recover task =>
      cases task with
      | tick => exact minds_tick.heedful_bind fun _ _ => heedful_pure _
      | operate action recoveryTraceId body =>
          have hrespond : Heedful (action.respond setup recoveryTraceId body) := by
            cases action with
            | resolve => exact minds_resolve.heedful
            | handoff => exact minds_handoff.heedful
            | startUnwind => exact minds_startUnwindResponse.heedful
            | submitUnwindOrder => exact heedful_submitUnwindOrder
            | cancelOpenOrders => exact heedful_cancelOpenOrders
            | recordUnwindFill => exact minds_recordUnwindFill.heedful
            | recordReconciliation => exact minds_recordReconciliation.heedful
          exact heedful_bind_pure hrespond

end Heeding

end TradingPlatform.Routes

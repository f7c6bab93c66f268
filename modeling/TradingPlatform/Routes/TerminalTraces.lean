import TradingPlatform.Foundation.Runs
import TradingPlatform.Routes.RecoveryWrite

/-! # Finished traces

Ticks and operator requests work on recovery traces at the same time. Each reads
a trace, computes on its copy and writes the whole document back. A finished
trace stays finished as long as none is finished while another actor still works
on a copy of it.
-/

namespace TradingPlatform.Routes

open Programs Program Storage TradingPlatform.Runtime Recovery RecoveryProgram

section Tasks

inductive OperatorAction where
  | resolve
  | handoff
  | startUnwind
  | submitUnwindOrder
  | cancelOpenOrders
  | recordUnwindFill
  | recordReconciliation
deriving DecidableEq, Repr

/-- What a client of the recovery state may be at. -/
inductive RecoveryTask where
  | tick
  | operate (action : OperatorAction) (recoveryTraceId : String) (body : Dict)

abbrev TaskAnswer := Option (Except RouteError TraceAnswer)

variable (setup : RecoverySetup)

def OperatorAction.respond (recoveryTraceId : String) (body : Dict) : OperatorAction → RecoveryRoute
  | resolve => resolveRecoveryTraceResponse setup recoveryTraceId body
  | handoff => handoffRecoveryTraceResponse recoveryTraceId body
  | startUnwind => startUnwindRecoveryTraceResponse setup recoveryTraceId body
  | submitUnwindOrder => submitUnwindOrderResponse setup recoveryTraceId body
  | cancelOpenOrders => cancelOpenOrdersResponse setup recoveryTraceId body
  | recordUnwindFill => recordUnwindFillResponse setup recoveryTraceId body
  | recordReconciliation => recordReconciliationResponse setup recoveryTraceId body

def RecoveryTask.program : RecoveryTask → RecoveryProgram TaskAnswer
  | tick => do
      RecoveryProgram.tick setup
      pure none
  | operate action recoveryTraceId body => do
      let answer ← action.respond setup recoveryTraceId body
      pure (some answer)

end Tasks

section System

abbrev RecoverySystem := Pool RecoveryState RecoveryOp RecoveryOp.Reply TaskAnswer

/-- A client begins a task or performs its next operation, or someone else changes the store. -/
inductive RecoveryStep where
  | begin (client : Nat) (task : RecoveryTask)
  | perform (client : Nat) (around : Surroundings)
  | store (call : Call)

/-- A trace is kept under the identifier it names, which has no blanks at its ends. -/
structure Names (recoveryTraceId : String) (trace : Dict) : Prop where
  named : traceText trace "recovery_trace_id" = recoveryTraceId
  plain : Text.strip recoveryTraceId = recoveryTraceId

def WellKept (redis : RedisRuntime) : Prop :=
  ∀ recoveryTraceId trace, redis.getRecoveryTrace recoveryTraceId = some trace →
    Names recoveryTraceId trace

/-- Traces as the service keeps them. -/
structure KeptTraces where
  redis : RedisRuntime
  wellKept : WellKept redis

namespace RecoverySystem

/-- No client is at work. -/
def atRest (kept : KeptTraces) (store : MemoryStore) : RecoverySystem :=
  ⟨⟨kept.redis, store⟩, fun _ => .done none⟩

def step (setup : RecoverySetup) (s : RecoverySystem) : RecoveryStep → RecoverySystem
  | .begin client task => s.start client (task.program setup)
  | .perform client around => s.perform (fun op => op.exec setup around) client
  | .store call =>
      { s with state.store := call.apply setup.platform setup.decimals s.state.store }

end RecoverySystem

/-- A stored trace is resolved or cancelled. -/
def isFinished (recoveryTraceId : String) (s : RecoveryState) : Bool :=
  (s.redis.getRecoveryTrace recoveryTraceId).any isTerminalTrace

/-- A stored trace is active or waits for its handoff. -/
def isUnfinished (recoveryTraceId : String) (s : RecoveryState) : Bool :=
  (s.redis.getRecoveryTrace recoveryTraceId).any fun trace =>
    normalizedText (trace.get "status") ∈ ["active", "handoff_required"]

end System

section Contract

/-- The contract about one trace; the ghost state says whether it is finished. A
finished trace is written as finished only, and every document under its name. -/
def traceContract (recoveryTraceId : String) : Contract RecoveryOp RecoveryOp.Reply Bool where
  permits finished op :=
    match op with
    | .setTrace key document => Names key document ∧
        (finished = true → key = recoveryTraceId → isTerminalTrace document)
    | _ => True
  answers finished op :=
    match op with
    | .getTrace key => fun found => ∀ trace ∈ found, Names key trace ∧
        (finished = true → key = recoveryTraceId → isTerminalTrace trace)
    | .scanTraces => fun found => ∀ keys ∈ found, keys.Nodup
    | .drawId => fun digits => Text.strip ("rt_" ++ digits) = "rt_" ++ digits ∧
        (finished = true → "rt_" ++ digits ≠ recoveryTraceId)
    | _ => fun _ => True
  advance finished op :=
    match op with
    | .setTrace key document => fun written =>
        if written = true ∧ key = recoveryTraceId then isTerminalTrace document else finished
    | _ => fun _ => finished

variable {id key : String} {finished : Bool} {α β : Type}

/-- A program that keeps the contract wherever it starts. -/
def Careful (id : String) (p : RecoveryProgram α) : Prop :=
  ∀ finished, p.Keeps (traceContract id) (fun _ _ => True) finished

/-- A careful program that leaves the trace as it is. -/
def Steady (id : String) (p : RecoveryProgram α) : Prop :=
  ∀ finished, p.Keeps (traceContract id) (fun _ after => after = finished) finished

/-- Operations the contract has nothing to say about. -/
def Indifferent : RecoveryOp → Prop
  | .getTrace _ | .setTrace _ _ | .scanTraces | .drawId => False
  | _ => True

theorem keeps_ask_iff (op : RecoveryOp) {promise : op.Reply → Bool → Prop} :
    (ask op).Keeps (traceContract id) promise finished ↔
      (traceContract id).permits finished op ∧
        ∀ reply, (traceContract id).answers finished op reply →
          promise reply ((traceContract id).advance finished op reply) :=
  keeps_operation

theorem keeps_ask {op : RecoveryOp} {promise : op.Reply → Bool → Prop}
    (hop : Indifferent op) (hpromise : ∀ reply, promise reply finished) :
    (ask op).Keeps (traceContract id) promise finished := by
  cases op with
  | getTrace | setTrace | scanTraces | drawId => exact False.elim hop
  | _ => exact (keeps_ask_iff _).mpr ⟨trivial, fun reply _ => hpromise reply⟩

/-- Ask something indifferent and go on with any answer. -/
theorem keeps_ask_bind {op : RecoveryOp} {f : op.Reply → RecoveryProgram α}
    {promise : α → Bool → Prop}
    (hop : Indifferent op)
    (hrest : ∀ reply, (f reply).Keeps (traceContract id) promise finished) :
    (ask op >>= f).Keeps (traceContract id) promise finished :=
  keeps_bind.mpr (keeps_ask hop hrest)

theorem keeps_getRecoveryTrace {promise : Option Dict → Bool → Prop}
    (hpromise : ∀ found : Option Dict, (∀ trace ∈ found, Names key trace ∧
      (finished = true → key = id → isTerminalTrace trace)) → promise found finished) :
    (getRecoveryTrace key).Keeps (traceContract id) promise finished :=
  (keeps_ask_iff (.getTrace key)).mpr
    ⟨trivial, fun found hfound => hpromise found hfound⟩

/-- Read a trace and go on with a copy of it. -/
theorem keeps_getRecoveryTrace_bind {f : Option Dict → RecoveryProgram α}
    {promise : α → Bool → Prop}
    (hrest : ∀ found : Option Dict, (∀ trace ∈ found, Names key trace ∧
      (finished = true → key = id → isTerminalTrace trace)) →
        (f found).Keeps (traceContract id) promise finished) :
    (getRecoveryTrace key >>= f).Keeps (traceContract id) promise finished :=
  keeps_bind.mpr (keeps_getRecoveryTrace hrest)

theorem Careful.bind {p : RecoveryProgram β} {f : β → RecoveryProgram α} (hp : Careful id p)
    (hf : ∀ value, Careful id (f value)) : Careful id (p >>= f) :=
  fun finished => (hp finished).bind fun value after _ => hf value after

theorem Steady.careful {p : RecoveryProgram α} (hp : Steady id p) : Careful id p :=
  fun finished => (hp finished).mono fun _ _ _ => trivial

theorem Steady.keeps_bind {p : RecoveryProgram β} {f : β → RecoveryProgram α}
    {promise : α → Bool → Prop} (hp : Steady id p)
    (hf : ∀ value, (f value).Keeps (traceContract id) promise finished) :
    (p >>= f).Keeps (traceContract id) promise finished := by
  apply (hp finished).bind
  intro value after hafter
  subst hafter
  exact hf value

theorem Steady.bind {p : RecoveryProgram β} {f : β → RecoveryProgram α} (hp : Steady id p)
    (hf : ∀ value, Steady id (f value)) : Steady id (p >>= f) :=
  fun finished => hp.keeps_bind fun value => hf value finished

theorem Steady.careful_bind {p : RecoveryProgram β} {f : β → RecoveryProgram α}
    (hp : Steady id p) (hf : ∀ value, Careful id (f value)) : Careful id (p >>= f) :=
  hp.careful.bind hf

theorem careful_pure (value : α) : Careful id (pure value : RecoveryProgram α) :=
  fun _ => keeps_pure.mpr trivial

theorem steady_pure (value : α) : Steady id (pure value : RecoveryProgram α) :=
  fun _ => keeps_pure.mpr rfl

theorem steady_raised (text : String) : Steady id (raised text : RecoveryProgram α) :=
  fun _ => keeps_raised

theorem steady_ask {op : RecoveryOp} (hop : Indifferent op) : Steady id (ask op) :=
  fun _ => keeps_ask hop fun _ => rfl

theorem steady_ask_bind {op : RecoveryOp} {f : op.Reply → RecoveryProgram α}
    (hop : Indifferent op) (hf : ∀ reply, Steady id (f reply)) : Steady id (ask op >>= f) :=
  (steady_ask hop).bind hf

theorem careful_ask_bind {op : RecoveryOp} {f : op.Reply → RecoveryProgram α}
    (hop : Indifferent op) (hf : ∀ reply, Careful id (f reply)) : Careful id (ask op >>= f) :=
  (steady_ask hop).careful_bind hf

theorem steady_getArbitrageEvaluation (runId : String) :
    Steady id (getArbitrageEvaluation runId) :=
  steady_ask trivial

theorem steady_getRecoveryTrace : Steady id (getRecoveryTrace key) :=
  fun _ => keeps_getRecoveryTrace fun _ _ => rfl

/-- The document a trace is written as. -/
theorem names_stamped (hplain : Text.strip key = key) (payload : Dict) (updatedAt : Json) :
    Names key (payload.merge [("recovery_trace_id", .str key), ("updated_at", updatedAt)]) := by
  refine ⟨?_, hplain⟩
  have hget : (payload.merge [("recovery_trace_id", .str key), ("updated_at", updatedAt)]).get
      "recovery_trace_id" = .str key := by
    simp [Dict.merge_cons, Dict.merge_nil, Dict.get, Dict.get?_set]
  simp [traceText, hget]

theorem isTerminalTrace_merge {trace patch : Dict} (hstatus : "status" ∉ patch.map Prod.fst) :
    isTerminalTrace (trace.merge patch) = isTerminalTrace trace := by
  have hget : (trace.merge patch).get "status" = trace.get "status" :=
    congrArg (·.getD .null) (Dict.get?_merge_of_notMem trace patch hstatus)
  rw [isTerminalTrace, hget, isTerminalTrace]

/-- Write a trace as the contract permits it. -/
theorem keeps_syncRecoveryTrace {payload : Dict} {promise : Unit → Bool → Prop}
    (hplain : Text.strip key = key)
    (hpermits : finished = true → key = id → isTerminalTrace payload)
    (hlost : promise () finished) (hwritten : key = id → promise () (isTerminalTrace payload)) :
    (syncRecoveryTrace key payload).Keeps (traceContract id) promise finished := by
  refine keeps_ask_bind trivial fun updatedAt => ?_
  have hterminal : isTerminalTrace (payload.merge [("recovery_trace_id", .str key),
      ("updated_at", .str updatedAt)]) = isTerminalTrace payload :=
    isTerminalTrace_merge (by simp)
  refine keeps_bind.mpr ((keeps_ask_iff _).mpr
    ⟨⟨names_stamped hplain payload _, ?_⟩, fun written _ => ?_⟩)
  · rwa [hterminal]
  · simp only [traceContract, keeps_pure]
    split_ifs with hkey
    · rw [hterminal]
      exact hwritten hkey.2
    · exact hlost

end Contract

section Redis

variable {id key : String} {finished : Bool}

theorem steady_syncArbitrageEvaluation (runId : String) (payload : Dict) :
    Steady id (syncArbitrageEvaluation runId payload) := by
  refine steady_ask_bind trivial fun cachedAt => ?_
  refine steady_ask_bind trivial fun written => ?_
  exact steady_pure ()

theorem steady_syncArbitrageEvaluationRecoveryState (runId : String) (trace : Dict) :
    Steady id (syncArbitrageEvaluationRecoveryState runId trace) := by
  refine steady_ask_bind trivial fun evaluation => ?_
  cases evaluation with
  | none => exact steady_pure ()
  | some current => exact steady_syncArbitrageEvaluation runId _

/-- Carrying a trace over to an evaluation only reads the trace. -/
theorem keeps_carryOver (runId : String) :
    (carryOver key runId).Keeps (traceContract id)
      (fun latest after => after = finished ∧ ∀ trace ∈ latest, Names key trace) finished := by
  unfold carryOver
  split_ifs
  · exact keeps_pure.mpr ⟨rfl, by simp⟩
  · refine keeps_getRecoveryTrace_bind fun found hfound => ?_
    cases found with
    | none => exact keeps_pure.mpr ⟨rfl, by simp⟩
    | some latest =>
        apply (steady_syncArbitrageEvaluationRecoveryState runId latest).keeps_bind
        intro _
        refine keeps_pure.mpr ⟨rfl, fun trace htrace => ?_⟩
        exact (hfound trace htrace).1

theorem careful_carryOver (runId : String) : Careful id (carryOver key runId) :=
  fun _ => (keeps_carryOver runId).mono fun _ _ _ => trivial

/-- A transition reads the trace again and leaves a finished one alone. -/
theorem careful_transitionRecoveryTrace (status lifecycleState : String) (patch : Dict) :
    Careful id (transitionRecoveryTrace key status lifecycleState patch) := by
  intro finished
  refine keeps_getRecoveryTrace_bind fun found hfound => ?_
  cases found with
  | none => exact keeps_pure.mpr trivial
  | some current =>
      obtain ⟨hnames, hterminal⟩ := hfound current rfl
      dsimp only
      split_ifs with hopen
      · exact keeps_pure.mpr trivial
      · have hpermits : finished = true → key ≠ id := fun hfinished hkey =>
          hopen (hterminal hfinished hkey)
        have hsync : (syncRecoveryTrace key ((current.merge [("status", .str status),
            ("lifecycle_state", .str lifecycleState)]).merge patch)).Keeps (traceContract id)
              (fun _ _ => True) finished := by
          refine keeps_syncRecoveryTrace hnames.plain ?_ trivial fun _ => trivial
          exact fun hfinished hkey => absurd hkey (hpermits hfinished)
        apply hsync.bind
        intro _ after _
        apply (careful_carryOver _ after).bind
        intro _ last _
        exact steady_getRecoveryTrace.keeps_bind fun latest => keeps_pure.mpr trivial

/-- Copies of different traces, each the copy of a trace that is not finished unless
the copy says so. -/
structure Copies (id : String) (finished : Bool) (traces : List Dict) : Prop where
  distinct : (traces.map (traceText · "recovery_trace_id")).Nodup
  named : ∀ trace ∈ traces, Names (traceText trace "recovery_trace_id") trace
  faithful : ∀ trace ∈ traces, finished = true → traceText trace "recovery_trace_id" = id →
    isTerminalTrace trace

/-- What a scan and the reads after it come upon. -/
theorem Copies.of_forall₂ {keys met : List String} {traces : List Dict} (hkeys : keys.Nodup)
    (hmet : met.Sublist keys)
    (hfinds : List.Forall₂ (fun key trace => Names key trace ∧
      (finished = true → key = id → isTerminalTrace trace)) met traces) :
    Copies id finished traces := by
  have hall : traces.map (traceText · "recovery_trace_id") = met ∧ ∀ trace ∈ traces,
      Names (traceText trace "recovery_trace_id") trace ∧ (finished = true →
        traceText trace "recovery_trace_id" = id → isTerminalTrace trace) := by
    clear hmet
    induction hfinds with
    | nil => simp
    | cons hfind _ ih =>
        rw [List.map_cons, List.forall_mem_cons, hfind.1.named, ih.1]
        exact ⟨rfl, hfind, ih.2⟩
  exact ⟨hall.1 ▸ hkeys.sublist hmet, fun trace hmem => (hall.2 trace hmem).1,
    fun trace hmem => (hall.2 trace hmem).2⟩

/-- Some of the copies in another order. -/
theorem Copies.subperm {traces some : List Dict} (hcopies : Copies id finished traces)
    (hsome : some.Subperm traces) : Copies id finished some := by
  refine ⟨?_, fun trace hmem => hcopies.named trace (hsome.subset hmem),
    fun trace hmem => hcopies.faithful trace (hsome.subset hmem)⟩
  obtain ⟨middle, hperm, hsublist⟩ := hsome
  exact (hperm.map _).nodup_iff.mp (hcopies.distinct.sublist (hsublist.map _))

theorem Copies.tail {trace : Dict} {rest : List Dict}
    (hcopies : Copies id finished (trace :: rest)) : Copies id finished rest :=
  hcopies.subperm (List.sublist_cons_self trace rest).subperm

/-- The traces that are kept under some keys, each read on its own. -/
theorem keeps_collect_getRecoveryTrace {keys : List String} (hkeys : keys.Nodup) :
    (collect keys getRecoveryTrace).Keeps (traceContract id)
      (fun documents after => after = finished ∧ Copies id finished documents) finished := by
  refine Keeps.mono (keeps_collect (· = finished) (fun key trace => Names key trace ∧
    (finished = true → key = id → isTerminalTrace trace)) rfl ?_) ?_
  · intro key _ before hbefore
    subst hbefore
    exact keeps_getRecoveryTrace fun found hfound => ⟨rfl, hfound⟩
  · intro documents after hdocuments
    obtain ⟨hafter, met, hmet, hfinds⟩ := hdocuments
    exact ⟨hafter, Copies.of_forall₂ hkeys hmet hfinds⟩

theorem keeps_listRecoveryTraces (limit : Nat) (botId runId status : String) :
    (listRecoveryTraces limit botId runId status).Keeps (traceContract id)
      (fun listed after => after = finished ∧ ∀ traces ∈ listed, Copies id finished traces ∧
        ∀ trace ∈ traces, RedisRuntime.matchesFilters botId runId status trace) finished := by
  refine keeps_bind.mpr ((keeps_ask_iff _).mpr ⟨trivial, fun keys hkeys => ?_⟩)
  cases keys with
  | none => exact keeps_pure.mpr ⟨rfl, by simp⟩
  | some keys =>
      apply (keeps_collect_getRecoveryTrace (hkeys keys rfl)).bind
      intro documents after hdocuments
      obtain ⟨hafter, hcopies⟩ := hdocuments
      dsimp only
      split_ifs
      · exact keeps_raised
      refine keeps_pure.mpr ⟨hafter, fun traces htraces => ?_⟩
      obtain rfl := Option.some.inj htraces
      have hsome : ∀ (items : List Dict) (n : Nat), ((items.insertionSort fun a b =>
          RedisRuntime.listedAt b ≤ RedisRuntime.listedAt a).take n).Subperm items :=
        fun items n => (List.take_sublist _ _).subperm.trans (List.perm_insertionSort _ _).subperm
      refine ⟨hcopies.subperm ((hsome _ _).trans List.filter_sublist.subperm), ?_⟩
      intro trace hmem
      exact (List.mem_filter.mp ((hsome _ _).subset hmem)).2

theorem steady_listRecoveryTraces (limit : Nat) (botId runId status : String) :
    Steady id (listRecoveryTraces limit botId runId status) :=
  fun _ => (keeps_listRecoveryTraces limit botId runId status).mono fun _ _ h => h.1

theorem steady_getBlockingRecoveryTrace (botId runId : String) :
    Steady id (getBlockingRecoveryTrace botId runId) := by
  apply Steady.bind (steady_listRecoveryTraces 10 botId runId "handoff_required")
  intro handoffs
  cases handoffs with
  | none => exact steady_raised _
  | some handoffs =>
      apply Steady.bind (steady_listRecoveryTraces 10 botId runId "active")
      intro actives
      cases actives with
      | none => exact steady_raised _
      | some actives => exact steady_pure _

theorem steady_listArbitrageEvaluations (limit : Nat) :
    Steady id (listArbitrageEvaluations limit) := by
  refine steady_ask_bind trivial fun runIds => ?_
  cases runIds with
  | none => exact steady_pure _
  | some runIds =>
      apply Steady.bind
      · intro finished
        refine Keeps.mono (keeps_collect (· = finished) (fun _ _ => True) rfl ?_) fun _ _ h => h.1
        intro runId _ before hbefore
        subst hbefore
        exact (steady_getArbitrageEvaluation runId before).mono fun found after hafter =>
          ⟨hafter, fun _ _ => trivial⟩
      · intro evaluations
        split_ifs
        · exact steady_raised _
        · exact steady_pure _

end Redis

section Tick

variable {id key : String} {finished : Bool} (setup : RecoverySetup)

theorem steady_syncTerminalEvaluation (item : Dict) : Steady id (syncTerminalEvaluation item) := by
  unfold syncTerminalEvaluation
  dsimp only
  split_ifs
  · exact steady_pure ()
  · apply Steady.bind (steady_getBlockingRecoveryTrace _ _)
    intro blocking
    cases blocking with
    | some trace => exact steady_pure ()
    | none =>
        refine steady_ask_bind trivial fun intents => ?_
        split_ifs
        · exact steady_pure ()
        · refine steady_ask_bind trivial fun listing => ?_
          split_ifs
          · exact steady_pure ()
          · exact steady_syncArbitrageEvaluation _ _

theorem Steady.forEach {ι : Type} {items : List ι} {body : ι → RecoveryProgram Unit}
    (hbody : ∀ item, Steady id (body item)) : Steady id (forEach items body) := by
  intro finished
  apply keeps_forEach (· = finished) rfl
  intro item _ before hbefore
  subst hbefore
  exact hbody item before

theorem Careful.forEach {ι : Type} {items : List ι} {body : ι → RecoveryProgram Unit}
    (hbody : ∀ item, Careful id (body item)) : Careful id (forEach items body) :=
  fun _ => keeps_forEach (fun _ => True) trivial fun item _ before _ => hbody item before

theorem steady_syncTerminalLatestEvaluations : Steady id syncTerminalLatestEvaluations := by
  apply Steady.bind (steady_listArbitrageEvaluations 100)
  intro evaluations
  cases evaluations with
  | none => exact steady_raised _
  | some evaluations => exact Steady.forEach steady_syncTerminalEvaluation

/-- A trace is opened under a name that is drawn for it. -/
theorem careful_createSubmitTimeoutTrace (botId runId : String) (oldestSubmittedAt age : Int) :
    Careful id (createSubmitTimeoutTrace setup botId runId oldestSubmittedAt age) := by
  intro finished
  refine keeps_bind.mpr ((keeps_ask_iff _).mpr ⟨trivial, fun digits hdigits => ?_⟩)
  obtain ⟨hplain, hfresh⟩ := hdigits
  refine keeps_ask_bind trivial fun isoNow => ?_
  have hsync : (syncRecoveryTrace ("rt_" ++ digits) (submitTimeoutTrace setup ("rt_" ++ digits)
      runId botId isoNow oldestSubmittedAt age)).Keeps (traceContract id) (fun _ _ => True)
        finished := by
    refine keeps_syncRecoveryTrace hplain ?_ trivial fun _ => trivial
    exact fun hfinished hkey => absurd hkey (hfresh hfinished)
  apply hsync.bind
  intro _ after _
  apply (careful_carryOver _ after).bind
  intro _ last _
  exact keeps_ask_bind trivial fun alertId => keeps_pure.mpr trivial

theorem careful_openSubmitTimeoutTrace (item : Dict) :
    Careful id (openSubmitTimeoutTrace setup item) := by
  unfold openSubmitTimeoutTrace
  dsimp only
  split_ifs
  · exact (steady_pure ()).careful
  · intro finished
    apply (steady_getBlockingRecoveryTrace _ _).keeps_bind
    intro blocking
    cases blocking with
    | some trace => exact keeps_pure.mpr trivial
    | none =>
        refine keeps_ask_bind trivial fun listing => ?_
        split_ifs
        · exact keeps_raised
        · cases oldestOpenOrderTimestamp listing (strippedText item "bot_id")
            (strippedText item "strategy_run_id") with
          | none => exact keeps_pure.mpr trivial
          | some oldestSubmittedAt =>
              refine keeps_ask_bind trivial fun now => ?_
              split_ifs
              · exact keeps_pure.mpr trivial
              · exact careful_createSubmitTimeoutTrace setup _ _ _ _ finished

theorem careful_openSubmitTimeoutTraces : Careful id (openSubmitTimeoutTraces setup) := by
  intro finished
  apply (steady_listArbitrageEvaluations 100).keeps_bind
  intro evaluations
  cases evaluations with
  | none => exact keeps_raised
  | some evaluations =>
      exact Careful.forEach (careful_openSubmitTimeoutTrace setup) finished

/-- A reconciliation says nothing about the name of a trace nor about its status. -/
theorem reconciliationPatch_keys {ctx : DecimalContext}
    {connectors : List (String × StatusConnector)} {reads : ReadStore} {trace snapshot : Dict}
    {orders : List Order} {fills : List Fill} {observedAt : String} (recordedAt : String)
    (hsnapshot : buildAutoReconciliationSnapshot ctx connectors reads trace orders fills
      observedAt = .ok (some snapshot)) :
    "status" ∉ (reconciliationPatch trace snapshot recordedAt).map Prod.fst ∧
      "recovery_trace_id" ∉ (reconciliationPatch trace snapshot recordedAt).map Prod.fst := by
  rw [map_fst_reconciliationPatch (map_fst_snapshot hsnapshot)]
  decide

/-- A copy that is worked on: it names its trace, it is open, and so was the trace
when it was read. -/
structure OpenCopy (id key : String) (finished : Bool) (trace : Dict) : Prop where
  names : Names key trace
  isOpen : isTerminalTrace trace = false
  current : finished = true → key ≠ id

theorem OpenCopy.finished_eq {trace : Dict} (hcopy : OpenCopy id key finished trace)
    (hkey : key = id) : finished = false := by
  cases finished with
  | false => rfl
  | true => exact absurd hkey (hcopy.current rfl)

variable {setup}

theorem keeps_autoRecordReconciliation {trace : Dict} (hcopy : OpenCopy id key finished trace)
    (listing : ReadStore) :
    (autoRecordReconciliation setup trace listing).Keeps (traceContract id)
      (fun reconciled after => after = finished ∧ Names key reconciled) finished := by
  refine keeps_ask_bind trivial fun connectors => ?_
  split_ifs
  · exact keeps_pure.mpr ⟨rfl, hcopy.names⟩
  · refine keeps_ask_bind trivial fun later => ?_
    refine keeps_ask_bind trivial fun observedAt => ?_
    split
    next => exact keeps_raised
    next => exact keeps_pure.mpr ⟨rfl, hcopy.names⟩
    next snapshot hsnapshot =>
      refine keeps_ask_bind trivial fun recordedAt => ?_
      obtain ⟨hstatus, hname⟩ := reconciliationPatch_keys recordedAt hsnapshot
      have hkey : Text.strip (traceText trace "recovery_trace_id") = key := by
        rw [hcopy.names.named, hcopy.names.plain]
      have hterminal := (isTerminalTrace_merge hstatus).trans hcopy.isOpen
      have hnames : Names key (trace.merge (reconciliationPatch trace snapshot recordedAt)) := by
        refine ⟨?_, hcopy.names.plain⟩
        rw [traceText, Dict.get, Dict.get?_merge_of_notMem _ _ hname]
        exact hcopy.names.named
      rw [hkey]
      have hsync : (syncRecoveryTrace key
          (trace.merge (reconciliationPatch trace snapshot recordedAt))).Keeps (traceContract id)
            (fun _ after => after = finished) finished := by
        refine keeps_syncRecoveryTrace hcopy.names.plain ?_ rfl ?_
        · exact fun hfinished hsame => absurd hsame (hcopy.current hfinished)
        · exact fun hsame => hterminal.trans (hcopy.finished_eq hsame).symm
      apply hsync.bind
      intro _ after hafter
      subst hafter
      apply (keeps_carryOver _).bind
      intro latest last hlatest
      refine keeps_pure.mpr ⟨hlatest.1, ?_⟩
      cases latest with
      | none => exact hnames
      | some latest => exact hlatest.2 latest rfl

theorem steady_judgeTrace (orders : List Order) (trace : Dict) :
    Steady id (judgeTrace setup orders trace) := by
  refine steady_ask_bind trivial fun resultChecked => ?_
  refine steady_ask_bind trivial fun stalenessChecked => ?_
  refine steady_ask_bind trivial fun intents => ?_
  by_cases hobserved : observationOverflows trace = true
  · rw [if_pos hobserved]
    exact steady_raised _
  rw [if_neg hobserved]
  split
  next => exact steady_pure _
  next =>
    split
    next => exact steady_pure _
    next =>
      refine steady_ask_bind trivial fun failing => ?_
      refine steady_ask_bind trivial fun hanging => ?_
      refine steady_ask_bind trivial fun unwindChecked => ?_
      split
      next => exact steady_pure _
      next =>
        by_cases hdated : unwindDateOverflows hanging trace = true
        · rw [if_pos hdated]
          exact steady_raised _
        rw [if_neg hdated]
        split
        next => exact steady_pure _
        next =>
          by_cases hflat : (!hasActiveOrders orders) = true ∧
              (residualExposureQuote trace).map Decimal.value = some 0
          · rw [if_pos hflat]
            exact steady_pure _
          · rw [if_neg hflat]
            refine steady_ask_bind trivial fun ageChecked => ?_
            split_ifs
            · exact steady_raised _
            · exact steady_pure _
            · exact steady_pure _

/-- A verdict is written under the name of the copy it was reached on. -/
theorem keeps_applyVerdict {trace : Dict} (hnames : Names key trace)
    (hcurrent : finished = true → key ≠ id) (verdict : TraceVerdict) :
    (applyVerdict trace verdict).Keeps (traceContract id)
      (fun _ after => key ≠ id → after = finished) finished := by
  have hwrite : ∀ payload runId, (do
      syncRecoveryTrace (traceText trace "recovery_trace_id") payload
      let _ ← carryOver (traceText trace "recovery_trace_id") runId).Keeps (traceContract id)
        (fun _ after => key ≠ id → after = finished) finished := by
    intro payload runId
    rw [hnames.named]
    have hsync : (syncRecoveryTrace key payload).Keeps (traceContract id)
        (fun _ after => key ≠ id → after = finished) finished := by
      refine keeps_syncRecoveryTrace hnames.plain ?_ (fun _ => rfl) ?_
      · exact fun hfinished hsame => absurd hsame (hcurrent hfinished)
      · exact fun hsame hne => absurd hsame hne
    apply hsync.bind
    intro _ after hafter
    apply (keeps_carryOver runId).bind
    intro _ last hlast
    exact keeps_pure.mpr fun hne => hlast.1.trans (hafter hne)
  cases verdict with
  | handedOff handoff => exact keeps_ask_bind trivial fun alertId => hwrite _ _
  | resolved reason => exact keeps_ask_bind trivial fun closedAt => hwrite _ _
  | skipped reason => exact keeps_pure.mpr fun _ => rfl
  | raised text => exact keeps_pure.mpr fun _ => rfl

theorem keeps_processTrace {trace : Dict} (hcopy : OpenCopy id key finished trace) :
    (RecoveryProgram.processTrace setup trace).Keeps (traceContract id)
      (fun _ after => key ≠ id → after = finished) finished := by
  unfold RecoveryProgram.processTrace
  split_ifs
  · exact keeps_pure.mpr fun _ => rfl
  · refine keeps_ask_bind trivial fun listing => ?_
    apply (keeps_autoRecordReconciliation hcopy listing).bind
    intro reconciled after hreconciled
    obtain ⟨rfl, hnames⟩ := hreconciled
    apply (steady_judgeTrace _ reconciled).keeps_bind
    intro verdict
    exact keeps_applyVerdict hnames hcopy.current verdict

/-- Working on one copy leaves the traces of the other copies as they are. -/
theorem keeps_processTraces {traces : List Dict} (hcopies : Copies id finished traces)
    (hopen : ∀ trace ∈ traces, isTerminalTrace trace = false) :
    (processTraces setup traces).Keeps (traceContract id) (fun _ _ => True) finished := by
  induction traces generalizing finished with
  | nil => exact keeps_pure.mpr trivial
  | cons trace rest ih =>
      refine keeps_ask_bind trivial fun stopping => ?_
      split_ifs
      · exact keeps_pure.mpr trivial
      · have hcopy : OpenCopy id (traceText trace "recovery_trace_id") finished trace := by
          refine ⟨hcopies.named trace List.mem_cons_self, hopen trace List.mem_cons_self, ?_⟩
          intro hfinished hsame
          have hterminal := hcopies.faithful trace List.mem_cons_self hfinished hsame
          simp [hopen trace List.mem_cons_self] at hterminal
        apply (keeps_processTrace hcopy).bind
        intro _ after hafter
        apply ih ?_ fun other hother => hopen other (List.mem_cons_of_mem _ hother)
        refine ⟨hcopies.tail.distinct, hcopies.tail.named, ?_⟩
        intro other hother hfinished hsame
        -- Only the trace that was worked on may have been finished meanwhile.
        have hne : traceText trace "recovery_trace_id" ≠ id := by
          intro heq
          have hdistinct := hcopies.distinct
          rw [List.map_cons, List.nodup_cons, heq, ← hsame] at hdistinct
          exact hdistinct.1 (List.mem_map_of_mem hother)
        rw [hafter hne] at hfinished
        exact hcopies.tail.faithful other hother hfinished hsame

theorem careful_tick : Careful id (tick setup) := by
  intro finished
  apply Keeps.rescue
  · apply steady_syncTerminalLatestEvaluations.keeps_bind
    intro _
    apply (careful_openSubmitTimeoutTraces setup finished).bind
    intro _ after _
    apply (keeps_listRecoveryTraces 100 "" "" "active").bind
    intro listed last hlisted
    obtain ⟨rfl, hlisted⟩ := hlisted
    cases listed with
    | none => exact keeps_raised
    | some traces =>
        obtain ⟨hcopies, hactive⟩ := hlisted traces rfl
        apply keeps_processTraces hcopies
        intro trace hmem
        have hstatus := hactive trace hmem
        simp only [RedisRuntime.matchesFilters, Bool.and_eq_true, Bool.or_eq_true,
          decide_eq_true_eq] at hstatus
        have hactive : normalizedText (trace.get "status") = "active" := by simpa using hstatus.2
        simp [isTerminalTrace, hactive]
  · intro _ after
    exact keeps_pure.mpr trivial

end Tick

section Operator

variable {id key : String} {setup : RecoverySetup} {body : Dict}

theorem careful_resolve : Careful id (resolveRecoveryTraceResponse setup key body) := by
  unfold resolveRecoveryTraceResponse
  dsimp only
  split_ifs
  · exact careful_pure _
  · apply steady_getRecoveryTrace.careful_bind
    intro found
    cases found with
    | none => exact careful_pure _
    | some current =>
        dsimp only
        split_ifs
        · exact careful_pure _
        · refine careful_ask_bind trivial fun closedAt => ?_
          apply (careful_transitionRecoveryTrace _ _ _).bind
          exact fun outcome => careful_pure _

theorem careful_handoff : Careful id (handoffRecoveryTraceResponse key body) := by
  apply (careful_transitionRecoveryTrace _ _ _).bind
  exact fun outcome => careful_pure _

theorem careful_startUnwind (unwindIntent : Option OrderIntent) (residual : Option Numeral) :
    Careful id (startUnwind key body unwindIntent residual) := by
  refine careful_ask_bind trivial fun startedAt => ?_
  apply (careful_transitionRecoveryTrace _ _ _).bind
  exact fun outcome => careful_pure _

theorem steady_createUnwindIntent (current : Dict) :
    Steady id (createUnwindIntent setup key body current) := by
  unfold createUnwindIntent
  split
  next => exact steady_pure _
  next new _ =>
    refine steady_ask_bind trivial fun answer => ?_
    cases answer.createdRow with
    | none => exact steady_pure _
    | some intent => exact steady_pure _

theorem careful_startUnwindResponse :
    Careful id (startUnwindRecoveryTraceResponse setup key body) := by
  unfold startUnwindRecoveryTraceResponse
  dsimp only
  split
  next => exact careful_pure _
  next =>
    split
    next => exact careful_pure _
    next =>
      apply steady_getRecoveryTrace.careful_bind
      intro found
      cases found with
      | none => exact careful_pure _
      | some current =>
          dsimp only
          split_ifs
          · exact careful_pure _
          · apply (steady_createUnwindIntent current).careful_bind
            intro created
            cases created with
            | error error => exact careful_pure _
            | ok intent => exact careful_startUnwind _ _
          · exact careful_startUnwind _ _

theorem careful_submitUnwindOrder : Careful id (submitUnwindOrderResponse setup key body) := by
  apply steady_getRecoveryTrace.careful_bind
  intro found
  cases found with
  | none => exact careful_pure _
  | some current =>
      dsimp only
      split_ifs
      · exact careful_pure _
      · exact careful_pure _
      · exact careful_pure _
      · split
        next => exact careful_pure _
        next new _ =>
          refine careful_ask_bind trivial fun answer => ?_
          cases answer.createdRow with
          | none => exact careful_pure _
          | some order =>
              refine careful_ask_bind trivial fun createdAt => ?_
              apply (careful_transitionRecoveryTrace _ _ _).bind
              intro outcome
              cases Transition.trace outcome with
              | none => exact careful_pure _
              | some trace => exact careful_pure _

theorem careful_answerAfterTick (runId : Option String) (fallback : Dict) (answer : TraceAnswer) :
    Careful id (answerAfterTick setup key runId fallback answer) := by
  have honce : Careful id (runOnce setup) := by
    unfold runOnce
    split_ifs
    · exact careful_tick
    · exact careful_pure _
  apply honce.bind
  intro _
  apply steady_getRecoveryTrace.careful_bind
  intro latest
  dsimp only
  split
  next => exact careful_pure _
  next => exact careful_pure _
  next =>
    apply (steady_getArbitrageEvaluation _).careful_bind
    exact fun evaluation => careful_pure _

theorem steady_cancelTraceOrder (order : Order) : Steady id (cancelTraceOrder order) := by
  have htake : ∀ status observed, Steady id (takeOverCancellation order status observed) := by
    intro status observed
    unfold takeOverCancellation
    split
    next => exact steady_pure _
    next =>
      split
      next => exact steady_pure _
      next =>
        refine steady_ask_bind trivial fun answer => ?_
        split <;> exact steady_pure _
  unfold cancelTraceOrder
  dsimp only
  split_ifs
  · exact steady_pure _
  · exact steady_pure _
  · refine steady_ask_bind trivial fun cancelled => ?_
    split
    next => exact steady_raised _
    next => exact steady_pure _
    next response =>
      split
      next => exact steady_pure _
      next data => exact htake _ _

theorem steady_cancelTraceOrders (orders : List Order) : Steady id (cancelTraceOrders orders) := by
  induction orders with
  | nil => exact steady_pure _
  | cons order rest ih =>
      apply (steady_cancelTraceOrder order).bind
      intro result
      exact ih.bind fun others => steady_pure _

theorem careful_cancelOpenOrders : Careful id (cancelOpenOrdersResponse setup key body) := by
  apply steady_getRecoveryTrace.careful_bind
  intro found
  cases found with
  | none => exact careful_pure _
  | some current =>
      dsimp only
      split_ifs
      · exact careful_pure _
      · refine careful_ask_bind trivial fun listing => ?_
        split_ifs
        · exact careful_pure _
        · apply (steady_cancelTraceOrders _).careful_bind
          intro results
          refine careful_ask_bind trivial fun later => ?_
          refine careful_ask_bind trivial fun attemptedAt => ?_
          apply (careful_transitionRecoveryTrace _ _ _).bind
          intro outcome
          cases Transition.trace outcome with
          | none => exact careful_pure _
          | some trace => exact careful_answerAfterTick _ _ _

theorem careful_recordUnwindFill : Careful id (recordUnwindFillResponse setup key body) := by
  apply steady_getRecoveryTrace.careful_bind
  intro found
  cases found with
  | none => exact careful_pure _
  | some current =>
      dsimp only
      split_ifs
      · exact careful_pure _
      · exact careful_pure _
      · split
        next => exact careful_pure _
        next new _ =>
          refine careful_ask_bind trivial fun answer => ?_
          cases answer.createdRow with
          | none => exact careful_pure _
          | some fill =>
              apply (careful_transitionRecoveryTrace _ _ _).bind
              exact fun outcome => careful_answerAfterTick _ _ _

/-- A reconciliation is written onto the copy that was found open. -/
theorem careful_recordReconciliation :
    Careful id (recordReconciliationResponse setup key body) := by
  unfold recordReconciliationResponse
  split
  next => exact careful_pure _
  next reconciliation _ =>
    intro finished
    refine keeps_getRecoveryTrace_bind fun found hfound => ?_
    cases found with
    | none => exact keeps_pure.mpr trivial
    | some current =>
        obtain ⟨hnames, hterminal⟩ := hfound current rfl
        dsimp only
        split_ifs with hopen
        · exact keeps_pure.mpr trivial
        · refine keeps_ask_bind trivial fun updatedAt => ?_
          have hsync : (syncRecoveryTrace key
              (current.merge (recordedPatch body current reconciliation updatedAt))).Keeps
                (traceContract id) (fun _ _ => True) finished := by
            refine keeps_syncRecoveryTrace hnames.plain ?_ trivial fun _ => trivial
            exact fun hfinished hkey => absurd (hterminal hfinished hkey) hopen
          apply hsync.bind
          intro _ after _
          apply steady_getRecoveryTrace.keeps_bind
          intro updated
          cases updated with
          | none => exact keeps_pure.mpr trivial
          | some updated =>
              dsimp only
              split_ifs
              · apply (steady_syncArbitrageEvaluationRecoveryState _ updated).keeps_bind
                exact fun _ => careful_answerAfterTick _ _ _ after
              · exact careful_answerAfterTick _ _ _ after

theorem careful_respond (action : OperatorAction) : Careful id (action.respond setup key body) := by
  cases action with
  | resolve => exact careful_resolve
  | handoff => exact careful_handoff
  | startUnwind => exact careful_startUnwindResponse
  | submitUnwindOrder => exact careful_submitUnwindOrder
  | cancelOpenOrders => exact careful_cancelOpenOrders
  | recordUnwindFill => exact careful_recordUnwindFill
  | recordReconciliation => exact careful_recordReconciliation

/-- On its own every task leaves a finished trace finished. -/
theorem careful_program (task : RecoveryTask) : Careful id (task.program setup) := by
  cases task with
  | tick => exact careful_tick.bind fun _ => careful_pure _
  | operate action recoveryTraceId body =>
      exact (careful_respond action).bind fun answer => careful_pure _

end Operator

end TradingPlatform.Routes

import TradingPlatform.Foundation.Sections
import TradingPlatform.Routes.UnwindRequests

/-! # Unwind requests that run at once

Each request checks that its trace links no row, makes one in the store and links
it in Redis, and others run between its operations. Requests on a trace that take
turns make one intent and one order for it at most; two that have both read the
trace before either links its row make two.
-/

namespace TradingPlatform.Routes

open Programs Program Storage TradingPlatform.Runtime Recovery RecoveryProgram

section Serving

/-- A request on a trace. -/
structure UnwindCall where
  request : UnwindRequest
  recoveryTraceId : String
  body : Dict

/-- What the requests share, and the rows they have made, each with its trace. -/
structure UnwindState where
  recovery : RecoveryState
  made : List (String × UnwindRequest)

/-- What was made by an operation that was answered. -/
def madeBy : (op : RecoveryOp) → op.Reply → Option UnwindRequest
  | .createOrderIntent _, answer => if answer.createdRow.isSome then some .startUnwind else none
  | .createOrder _, answer => if answer.createdRow.isSome then some .submitUnwindOrder else none
  | _, _ => none

variable (setup : RecoverySetup) (calls : Nat → UnwindCall)

/-- An operation of a request on a trace. -/
def UnwindState.exec (around : Surroundings) (id : String) (op : RecoveryOp) (s : UnwindState) :
    op.Reply × UnwindState :=
  let performed := op.exec setup around s.recovery
  (performed.1, ⟨performed.2, ((madeBy op performed.1).map fun row => (id, row)).toList ++ s.made⟩)

abbrev UnwindSystem :=
  Sections UnwindState RecoveryOp RecoveryOp.Reply (Except RouteError TraceAnswer)

/-- No request has begun. -/
def UnwindSystem.start (s : RecoveryState) : UnwindSystem where
  pool := ⟨⟨s, []⟩, fun i =>
    (calls i).request.respond setup (calls i).recoveryTraceId (calls i).body⟩
  begun := []

/-- A request performs its next operation. -/
def UnwindSystem.serve (s : UnwindSystem) (step : Nat × Surroundings) : UnwindSystem :=
  s.perform (UnwindState.exec setup step.2 (calls step.1).recoveryTraceId) step.1

end Serving

section Rows

/-- A trace, and how many rows of each kind were made for it. -/
@[ext] structure TraceRows where
  stored : Option Dict
  made : UnwindRequest → Nat

def rowsOf (id : String) (s : UnwindState) : TraceRows where
  stored := s.recovery.redis.getRecoveryTrace id
  made := fun request => s.made.count (id, request)

namespace TraceRows

/-- The trace links a row of each kind that was made for it. -/
def Linked (rows : TraceRows) : Prop :=
  ∀ request, 0 < rows.made request →
    ∃ trace, rows.stored = some trace ∧ linked request.field trace ≠ ""

def Single (rows : TraceRows) : Prop := ∀ request, rows.made request ≤ 1

/-- A trace that links no row of a kind has none that was made. -/
theorem Linked.made_eq_zero {rows : TraceRows} (hlinked : rows.Linked) {request : UnwindRequest}
    {trace : Dict} (hstored : rows.stored = some trace)
    (hunlinked : linked request.field trace = "") : rows.made request = 0 := by
  by_contra hmade
  obtain ⟨found, hfound, hlinks⟩ := hlinked request (Nat.pos_of_ne_zero hmade)
  rw [hstored, Option.some.injEq] at hfound
  exact hlinks (hfound ▸ hunlinked)

end TraceRows

/-- A row is made for a trace that has none of its kind. While the trace links what was
made for it, Redis may fail. -/
def rowsContract (id : String) : Contract RecoveryOp RecoveryOp.Reply TraceRows where
  permits rows
    | .createOrderIntent _ => rows.made .startUnwind = 0
    | .createOrder _ => rows.made .submitUnwindOrder = 0
    | .setTrace key _ => key = id
    | _ => True
  answers rows
    | .getTrace key, found => key = id → found = rows.stored ∨ found = none ∧ rows.Linked
    | .setTrace _ _, written => written = true ∨ rows.Linked
    | .createOrderIntent _, answer => ∀ intent ∈ answer.createdRow, intent.intentId ≠ ""
    | .createOrder _, answer => ∀ order ∈ answer.createdRow, order.orderId ≠ ""
    | _, _ => True
  advance rows op reply :=
    { stored := match op, reply with
        | .setTrace _ document, written => if written then some document else rows.stored
        | _, _ => rows.stored
      made := fun request =>
        rows.made request + if madeBy op reply = some request then 1 else 0 }

variable {id : String} {rows : TraceRows}

theorem advance_of_readsOnly {op : RecoveryOp} (hop : ReadsOnly op) (reply : op.Reply) :
    (rowsContract id).advance rows op reply = rows := by
  cases op with
  | setTrace | createOrderIntent | createOrder | createFill | updateOrderStatus =>
      exact False.elim hop
  | _ => rfl

theorem permits_of_readsOnly {op : RecoveryOp} (hop : ReadsOnly op) :
    (rowsContract id).permits rows op := by
  cases op with
  | setTrace | createOrderIntent | createOrder | createFill | updateOrderStatus =>
      exact False.elim hop
  | _ => trivial

theorem keeps_of_reads {α : Type} {p : RecoveryProgram α} (hp : p.Performs ReadsOnly)
    (hlinked : rows.Linked) : p.Keeps (rowsContract id) (fun _ rows => rows.Linked) rows := by
  induction p with
  | done value => exact keeps_done.mpr hlinked
  | raised text => exact keeps_raised
  | perform op next ih =>
      obtain ⟨hop, hnext⟩ := performs_perform.mp hp
      refine keeps_perform.mpr ⟨permits_of_readsOnly hop, fun reply _ => ?_⟩
      rw [advance_of_readsOnly hop]
      exact ih reply (hnext reply)

/-- An operation that only reads, and then the rest. -/
theorem keeps_read_bind {α : Type} {op : RecoveryOp} {f : op.Reply → RecoveryProgram α}
    {promise : α → TraceRows → Prop} (hop : ReadsOnly op)
    (hf : ∀ reply, (rowsContract id).answers rows op reply →
      (f reply).Keeps (rowsContract id) promise rows) :
    (ask op >>= f).Keeps (rowsContract id) promise rows := by
  rw [keeps_bind]
  refine keeps_operation.mpr ⟨permits_of_readsOnly hop, fun reply hreply => ?_⟩
  rw [advance_of_readsOnly hop]
  exact hf reply hreply

/-- A trace that links a row still does once it is stamped. -/
theorem linked_stamped {field : String} (payload : Dict) (updatedAt : String)
    (hid : field ≠ "recovery_trace_id") (hat : field ≠ "updated_at") :
    linked field (payload.merge [("recovery_trace_id", .str id), ("updated_at", .str updatedAt)]) =
      linked field payload :=
  Disturbance.linked_eq_of_get (Dict.get_merge_of_notMem _ _ (by simp [hid, hat]))

/-- What a transition writes links what was made. -/
theorem keeps_writeTransition {payload : Dict}
    (hlinks : ∀ request, 0 < rows.made request → linked request.field payload ≠ "") :
    (writeTransition id payload).Keeps (rowsContract id) (fun _ rows => rows.Linked) rows := by
  have hwrites : (syncRecoveryTrace id payload).Keeps (rowsContract id)
      (fun _ rows => rows.Linked) rows := by
    refine keeps_read_bind ?_ fun updatedAt _ => ?_
    · trivial
    rw [keeps_bind]
    refine keeps_operation.mpr ⟨rfl, fun written hwritten => keeps_pure.mpr ?_⟩
    intro request hmade
    have hmade : 0 < rows.made request := hmade
    cases written with
    | true =>
        refine ⟨_, rfl, ?_⟩
        rw [linked_stamped _ _ (by cases request <;> decide) (by cases request <;> decide)]
        exact hlinks request hmade
    | false => exact (hwritten.resolve_left Bool.false_ne_true) request hmade
  apply hwrites.bind
  intro _ after hafter
  apply keeps_of_reads _ hafter
  generalize Text.strip (traceText payload "run_id") = runId
  exact (reads_carryOver runId).bind fun _ =>
    (performs_operation trivial : (getRecoveryTrace id).Performs ReadsOnly).bind
      fun _ => performs_pure _

/-- A transition of a stored trace that links what was made. -/
theorem keeps_transition {status lifecycleState : String} {patch current : Dict}
    (hstored : rows.stored = some current) (hopen : isTerminalTrace current = false)
    (hlinks : ∀ request, 0 < rows.made request →
      linked request.field (transitioned current status lifecycleState patch) ≠ "") :
    (transitionRecoveryTrace id status lifecycleState patch).Keeps (rowsContract id)
      (fun _ rows => rows.Linked) rows := by
  rw [transitionRecoveryTrace_eq]
  refine keeps_read_bind ?_ fun found hfound => ?_
  · trivial
  rcases hfound rfl with hsame | ⟨rfl, hlinked⟩
  · rw [hsame, hstored]
    dsimp only
    rw [if_neg (Bool.eq_false_iff.mp hopen)]
    exact keeps_writeTransition hlinks
  · exact keeps_pure.mpr hlinked

/-- A row is made, and then the rest. -/
theorem keeps_make_bind {α : Type} {op : RecoveryOp} {f : op.Reply → RecoveryProgram α}
    {promise : α → TraceRows → Prop} (hop : (rowsContract id).permits rows op)
    (hwrites : ∀ reply, ((rowsContract id).advance rows op reply).stored = rows.stored)
    (hf : ∀ reply after, (rowsContract id).answers rows op reply → after.stored = rows.stored →
      (∀ request, after.made request =
        rows.made request + if madeBy op reply = some request then 1 else 0) →
      (f reply).Keeps (rowsContract id) promise after) :
    (ask op >>= f).Keeps (rowsContract id) promise rows := by
  rw [keeps_bind]
  refine keeps_operation.mpr ⟨hop, fun reply hreply => ?_⟩
  exact hf reply _ hreply (hwrites reply) fun request => rfl

end Rows

section Requests

variable {setup : RecoverySetup} {id : String} {body : Dict} {rows : TraceRows}

/-- A transition that links the row that was made keeps what else is linked. -/
theorem linked_after {field : String} {patch current : Dict} (hspares : field ∉ patch.map Prod.fst)
    (hstatus : field ≠ "status") (hlifecycle : field ≠ "lifecycle_state") :
    linked field (transitioned current "active" "unwind_in_progress" patch) =
      linked field current := by
  apply Disturbance.linked_eq_of_get
  rw [transitioned, Dict.get_merge_of_notMem _ _ hspares,
    Dict.get_merge_of_notMem _ _ (by simp [hstatus, hlifecycle])]

theorem keeps_startUnwind {intent : Option OrderIntent} {residual : Option Numeral}
    {current : Dict} (hstored : rows.stored = some current)
    (hopen : isTerminalTrace current = false)
    (hintent : ∀ created ∈ intent, created.intentId ≠ "")
    (hlinked : ∀ request, 0 < rows.made request → request = .startUnwind ∧ intent.isSome ∨
      linked request.field current ≠ "") :
    (startUnwind id body intent residual).Keeps (rowsContract id) (fun _ rows => rows.Linked)
      rows := by
  refine keeps_read_bind ?_ fun startedAt _ => ?_
  · trivial
  apply Keeps.bind (keeps_transition hstored hopen _) fun _ after hafter => keeps_pure.mpr hafter
  intro request hmade
  cases intent with
  | none =>
      rw [linked_after]
      · exact (hlinked request hmade).resolve_left (by simp)
      all_goals cases request <;> simp [UnwindRequest.field, unwindPatch]
  | some created =>
      cases request with
      | startUnwind =>
          have hget := (@reports_startUnwind body _ residual
            (hintent created rfl)).links startedAt current
          rw [linked_of_get hget]
          exact hintent created rfl
      | submitUnwindOrder =>
          rw [linked_after]
          · exact (hlinked .submitUnwindOrder hmade).resolve_left (by simp)
          all_goals simp [UnwindRequest.field, unwindPatch]

theorem keeps_startUnwindRecoveryTraceResponse (hlinked : rows.Linked) :
    (startUnwindRecoveryTraceResponse setup id body).Keeps (rowsContract id)
      (fun _ rows => rows.Linked) rows := by
  unfold startUnwindRecoveryTraceResponse
  dsimp only
  split
  · exact keeps_pure.mpr hlinked
  split
  · exact keeps_pure.mpr hlinked
  refine keeps_read_bind ?_ fun found hfound => ?_
  · trivial
  rcases hfound rfl with hsame | ⟨rfl, -⟩
  swap
  · exact keeps_pure.mpr hlinked
  cases found with
  | none => exact keeps_pure.mpr hlinked
  | some current =>
      have hstored : rows.stored = some current := hsame.symm
      have hcarried : ∀ request, 0 < rows.made request → linked request.field current ≠ "" := by
        intro request hmade
        obtain ⟨trace, htrace, hlinks⟩ := hlinked request hmade
        rw [hstored, Option.some.injEq] at htrace
        exact htrace ▸ hlinks
      dsimp only
      split
      · exact keeps_pure.mpr hlinked
      next hopen =>
      have hopen := Bool.eq_false_of_not_eq_true hopen
      split
      · unfold createUnwindIntent
        cases hnew : unwindIntentRequest setup id body current with
        | error error => exact keeps_pure.mpr hlinked
        | ok new =>
            dsimp only
            have hnone := @TraceRows.Linked.made_eq_zero rows hlinked .startUnwind _ hstored
              (unlinked_of_unwindIntentRequest hnew)
            rw [bind_assoc]
            refine keeps_make_bind hnone (fun _ => rfl) fun answer after hids hafter hmade => ?_
            cases hrow : answer.createdRow with
            | none =>
                apply keeps_pure.mpr
                intro request hpositive
                rw [hafter]
                apply hlinked request
                simpa [hmade, madeBy, hrow] using hpositive
            | some intent =>
                apply keeps_startUnwind (hafter.trans hstored) hopen
                · intro created hcreated
                  rw [Option.mem_some_iff] at hcreated
                  exact hids created (hcreated ▸ hrow)
                · intro request hpositive
                  cases request with
                  | startUnwind => exact Or.inl ⟨rfl, rfl⟩
                  | submitUnwindOrder =>
                      refine Or.inr (hcarried .submitUnwindOrder ?_)
                      simpa [hmade, madeBy, hrow] using hpositive
      · exact keeps_startUnwind hstored hopen (by simp) fun request hmade =>
          Or.inr (hcarried request hmade)

theorem keeps_submitUnwindOrderResponse (hlinked : rows.Linked) :
    (submitUnwindOrderResponse setup id body).Keeps (rowsContract id)
      (fun _ rows => rows.Linked) rows := by
  unfold submitUnwindOrderResponse
  refine keeps_read_bind ?_ fun found hfound => ?_
  · trivial
  rcases hfound rfl with hsame | ⟨rfl, -⟩
  swap
  · exact keeps_pure.mpr hlinked
  cases found with
  | none => exact keeps_pure.mpr hlinked
  | some current =>
      have hstored : rows.stored = some current := hsame.symm
      dsimp only
      split
      · exact keeps_pure.mpr hlinked
      next hopen =>
      split
      · exact keeps_pure.mpr hlinked
      split
      · exact keeps_pure.mpr hlinked
      next hunlinked =>
      cases orderTerms setup.decimals body []
        (textOr (optionalString (current.get "linked_unwind_action_id")) "") with
      | error error => exact keeps_pure.mpr hlinked
      | ok new =>
          have hnone := @TraceRows.Linked.made_eq_zero rows hlinked .submitUnwindOrder _ hstored
            (not_not.mp hunlinked)
          refine keeps_make_bind hnone (fun _ => rfl) fun answer after hids hafter hmade => ?_
          cases hrow : answer.createdRow with
          | none =>
              apply keeps_pure.mpr
              intro request hpositive
              rw [hafter]
              apply hlinked request
              simpa [hmade, madeBy, hrow] using hpositive
          | some order =>
              refine keeps_read_bind ?_ fun createdAt _ => ?_
              · trivial
              refine Keeps.bind (keeps_transition (hafter.trans hstored)
                (Bool.eq_false_of_not_eq_true hopen) ?_) fun outcome last hlast => ?_
              · intro request hpositive
                cases request with
                | submitUnwindOrder =>
                    have hget := (reports_submitUnwindOrder (hids order hrow)).links createdAt
                      current
                    rw [linked_of_get hget]
                    exact hids order hrow
                | startUnwind =>
                    rw [linked_after]
                    · obtain ⟨trace, htrace, hlinks⟩ := hlinked .startUnwind
                        (by simpa [hmade, madeBy, hrow] using hpositive)
                      rw [hstored, Option.some.injEq] at htrace
                      exact htrace ▸ hlinks
                    all_goals simp [UnwindRequest.field]
              · cases Transition.trace outcome with
                | none => exact keeps_pure.mpr hlast
                | some trace => exact keeps_pure.mpr hlast

theorem keeps_respond (request : UnwindRequest) (hlinked : rows.Linked) :
    (request.respond setup id body).Keeps (rowsContract id) (fun _ rows => rows.Linked) rows := by
  cases request with
  | startUnwind => exact keeps_startUnwindRecoveryTraceResponse hlinked
  | submitUnwindOrder => exact keeps_submitUnwindOrderResponse hlinked

end Requests

section Execution

variable {setup : RecoverySetup} {around : Surroundings} {id key : String} {s : UnwindState}
  {op : RecoveryOp}

theorem count_exec (request : UnwindRequest) :
    (s.exec setup around id op).2.made.count (key, request) = s.made.count (key, request) +
      if key = id ∧ madeBy op (op.exec setup around s.recovery).1 = some request then 1 else 0 := by
  unfold UnwindState.exec
  dsimp only
  cases madeBy op (op.exec setup around s.recovery).1 with
  | none => simp
  | some made =>
      have hiff : ((id, made) == (key, request)) = true ↔ key = id ∧ some made = some request := by
        rw [beq_iff_eq, Prod.mk.injEq, Option.some.injEq, @eq_comm _ id key]
      simp only [Option.map_some, Option.toList_some, List.singleton_append, List.count_cons, hiff]

/-- A command that only reads leaves the rows of every trace. -/
theorem rowsOf_exec_of_readsOnly (hop : ReadsOnly op) :
    rowsOf key (s.exec setup around id op).2 = rowsOf key s := by
  have hstored : (s.exec setup around id op).2.recovery.redis.getRecoveryTrace key =
      s.recovery.redis.getRecoveryTrace key := by
    refine congrArg (AList.lookup key) (exec_recoveryTraces ?_)
    rintro _ _ rfl
    exact hop
  have hmade : madeBy op (op.exec setup around s.recovery).1 = none := by
    cases op with
    | setTrace | createOrderIntent | createOrder | createFill | updateOrderStatus =>
        exact False.elim hop
    | _ => rfl
  unfold rowsOf
  rw [hstored]
  congr 1
  funext request
  simp [count_exec, hmade]

/-- So does what the contract permits for those of other traces. -/
theorem rowsOf_exec_of_ne {rows : TraceRows} (hpermits : (rowsContract id).permits rows op)
    (hne : key ≠ id) : rowsOf key (s.exec setup around id op).2 = rowsOf key s := by
  have hstored : (s.exec setup around id op).2.recovery.redis.getRecoveryTrace key =
      s.recovery.redis.getRecoveryTrace key := by
    cases op with
    | setTrace written document =>
        have hwritten : written = id := hpermits
        change ((RecoveryOp.setTrace written document).exec setup around
          s.recovery).2.redis.getRecoveryTrace key = _
        rw [getRecoveryTrace_exec_setTrace, if_neg]
        exact fun hboth => hne (hboth.2.trans hwritten)
    | _ =>
        refine congrArg (AList.lookup key) (exec_recoveryTraces ?_)
        intro _ _ hset
        cases hset
  unfold rowsOf
  rw [hstored]
  congr 1
  funext request
  simp [count_exec, hne]

/-- An operation is answered as the contract has it, if Redis answers while a row is not
linked. -/
theorem answers_exec
    (hanswers : ¬ (rowsOf id s).Linked → around.redisFails = false)
    (hpermits : (rowsContract id).permits (rowsOf id s) op) :
    (rowsContract id).answers (rowsOf id s) op (s.exec setup around id op).1 ∧
      rowsOf id (s.exec setup around id op).2 =
        (rowsContract id).advance (rowsOf id s) op (s.exec setup around id op).1 := by
  have hmade : ∀ request, (rowsOf id (s.exec setup around id op).2).made request =
      (rowsOf id s).made request +
        if madeBy op (s.exec setup around id op).1 = some request then 1 else 0 := by
    intro request
    refine count_exec request |>.trans ?_
    simp only [true_and]
    rfl
  constructor
  · cases op with
    | getTrace name =>
        intro hname
        by_cases hfails : around.redisFails = true
        · refine Or.inr ⟨if_pos hfails, ?_⟩
          by_contra hunlinked
          exact Bool.false_ne_true ((hanswers hunlinked).symm.trans hfails)
        · subst hname
          exact Or.inl (if_neg hfails)
    | setTrace name document =>
        by_cases hfails : around.redisFails = true
        · right
          by_contra hunlinked
          exact Bool.false_ne_true ((hanswers hunlinked).symm.trans hfails)
        · left
          change ((RecoveryOp.setTrace name document).exec setup around s.recovery).1 = true
          rw [RecoveryOp.exec, if_neg hfails]
    | createOrderIntent new =>
        intro intent hintent
        exact (createOrderIntent_made (Option.mem_def.mp hintent)).1
    | createOrder new =>
        intro order horder
        exact (createOrder_made (Option.mem_def.mp horder)).1
    | _ => trivial
  · have hstored : (rowsOf id (s.exec setup around id op).2).stored =
        ((rowsContract id).advance (rowsOf id s) op (s.exec setup around id op).1).stored := by
      cases op with
      | setTrace name document =>
          have hname : name = id := hpermits
          subst hname
          change ((RecoveryOp.setTrace name document).exec setup around
            s.recovery).2.redis.getRecoveryTrace name = if _ then some document else _
          rw [getRecoveryTrace_exec_setTrace]
          change _ = if ((RecoveryOp.setTrace name document).exec setup around
            s.recovery).1 = true then some document else s.recovery.redis.getRecoveryTrace name
          cases hfails : around.redisFails <;> simp [RecoveryOp.exec, hfails]
      | _ =>
          refine congrArg (AList.lookup id) (exec_recoveryTraces ?_)
          intro _ _ hset
          cases hset
    exact TraceRows.ext hstored (funext hmade)

end Execution

section Runs

variable (setup : RecoverySetup) (calls : Nat → UnwindCall)

/-- A request goes on in its turn: when it may still write, no other request on its trace
that has begun may, and Redis answers while the trace does not link what was made. -/
structure InTurn (s : UnwindSystem) (step : Nat × Surroundings) : Prop where
  admits : s.Admits (fun i => (calls i).recoveryTraceId) ReadsOnly step.1
  answers : ¬ (s.pool.client step.1).OnlyReads ReadsOnly →
    ¬ (rowsOf (calls step.1).recoveryTraceId s.pool.state).Linked → step.2.redisFails = false

variable {setup calls}

/-- What the contract permits makes no second row of a kind. -/
theorem single_advance {id : String} {rows : TraceRows} {op : RecoveryOp} {reply : op.Reply}
    (hpermits : (rowsContract id).permits rows op) (hsingle : rows.Single) :
    ((rowsContract id).advance rows op reply).Single := by
  intro request
  change rows.made request + (if madeBy op reply = some request then 1 else 0) ≤ 1
  split
  next hmade =>
    have hnone : rows.made request = 0 := by
      cases op with
      | createOrderIntent new =>
          simp only [madeBy] at hmade
          split at hmade
          · rw [← Option.some.inj hmade]
            exact hpermits
          · cases hmade
      | createOrder new =>
          simp only [madeBy] at hmade
          split at hmade
          · rw [← Option.some.inj hmade]
            exact hpermits
          · cases hmade
      | _ => cases hmade
    rw [hnone]
  next => exact hsingle request

/-- The requests on a trace exclude each other. -/
def InOrder (setup : RecoverySetup) (calls : Nat → UnwindCall) (s : UnwindSystem) : Prop :=
  s.Exclusive (fun i => (calls i).recoveryTraceId)
    (fun i => (calls i).request.respond setup (calls i).recoveryTraceId (calls i).body)
    rowsContract rowsOf TraceRows.Linked TraceRows.Single ReadsOnly

theorem inOrder_start (s : RecoveryState) :
    InOrder setup calls (UnwindSystem.start setup calls s) := by
  apply Sections.exclusive_start
  · intro id request hmade
    cases hmade
  · intro id request
    exact Nat.zero_le 1

theorem inOrder_serve {s : UnwindSystem} {step : Nat × Surroundings} (hs : InOrder setup calls s)
    (hstep : InTurn calls s step) : InOrder setup calls (s.serve setup calls step) := by
  apply hs.perform
  · intro rows hlinked
    exact keeps_respond _ hlinked
  · intro rows op reply hpermits _ hsingle
    exact single_advance hpermits hsingle
  · intro state op hop
    have hpermits : (rowsContract (calls step.1).recoveryTraceId).permits
        (rowsOf (calls step.1).recoveryTraceId state) op := permits_of_readsOnly hop
    exact ⟨_, (@answers_exec setup {} _ state op (fun _ => rfl) hpermits).1,
      advance_of_readsOnly hop _⟩
  · exact hstep.admits
  · intro op hop id
    exact rowsOf_exec_of_readsOnly hop
  · intro hmore op _ _ hpermits
    exact answers_exec (hstep.answers hmore) hpermits
  · intro op hpermits id hne
    exact rowsOf_exec_of_ne hpermits hne

/-- **One unwind for each trace.** In every run in which requests on a trace take turns
and links reach Redis, at most one intent and one order are made for each trace. -/
theorem runs_single_unwinds (setup : RecoverySetup) (calls : Nat → UnwindCall) (s : RecoveryState)
    (steps : List (Nat × Surroundings))
    (halong : Runs.Along (UnwindSystem.serve setup calls) (InTurn calls)
      (UnwindSystem.start setup calls s) steps) :
    Runs.Throughout (UnwindSystem.serve setup calls)
      (fun s => ∀ id request, s.pool.state.made.count (id, request) ≤ 1)
      (UnwindSystem.start setup calls s) steps := by
  have hinOrder := halong.throughout (inOrder_start s) fun _ _ hs hstep => inOrder_serve hs hstep
  exact hinOrder.mono fun s hs id request => hs.safe id request

/-- Whether a program has come to its end. -/
def isDone {α : Type} : RecoveryProgram α → Bool
  | .done _ => true
  | _ => false

/-- All other requests that have begun are through. -/
def othersDone (s : UnwindSystem) (step : Nat × Surroundings) : Bool :=
  s.begun.all fun j => j = step.1 || isDone (s.pool.client j)

theorem inTurn_of_othersDone {s : UnwindSystem} {step : Nat × Surroundings}
    (hdone : othersDone s step = true) (hanswers : step.2.redisFails = false) :
    InTurn calls s step := by
  refine ⟨fun _ j hj hne _ => ?_, fun _ _ => hanswers⟩
  have hthrough := List.all_eq_true.mp hdone j hj
  rw [Bool.or_eq_true, decide_eq_true_eq] at hthrough
  have hthrough := hthrough.resolve_left hne
  cases hclient : s.pool.client j with
  | done value => trivial
  | _ =>
      rw [hclient] at hthrough
      exact absurd hthrough Bool.false_ne_true

/-- Everybody submits the same unwind order. -/
def sameOrder : Nat → UnwindCall := fun _ => ⟨.submitUnwindOrder, "rt_1", unwindOrderBody⟩

/-- Two requests, one after the other. -/
def oneByOne : List (Nat × Surroundings) :=
  List.replicate 8 (0, minuteLater) ++ List.replicate 8 (1, minuteLater)

/-- Of two requests that are served one after the other only the first makes an order. -/
theorem runs_single_unwinds_oneByOne :
    (Runs.after (UnwindSystem.serve standardSetup sameOrder)
      (UnwindSystem.start standardSetup sameOrder unwindingState)
        oneByOne).pool.state.made.length = 1 ∧
      ∀ id request, (Runs.after (UnwindSystem.serve standardSetup sameOrder)
        (UnwindSystem.start standardSetup sameOrder unwindingState)
          oneByOne).pool.state.made.count (id, request) ≤ 1 := by
  have halong : Runs.Along (UnwindSystem.serve standardSetup sameOrder)
      (fun s step => othersDone s step = true ∧ step.2.redisFails = false)
      (UnwindSystem.start standardSetup sameOrder unwindingState) oneByOne := by
    decide +kernel
  refine ⟨by decide +kernel, ?_⟩
  exact (runs_single_unwinds standardSetup sameOrder unwindingState oneByOne
    (halong.mono fun _ _ hboth => inTurn_of_othersDone hboth.1 hboth.2)).last

/-- Two requests read the trace before either has made its order, and both make one. -/
theorem not_runs_single_unwinds : ¬ ∀ (setup : RecoverySetup) (calls : Nat → UnwindCall)
    (s : RecoveryState) (steps : List (Nat × Surroundings)),
      Runs.Throughout (UnwindSystem.serve setup calls)
        (fun s => ∀ id request, s.pool.state.made.count (id, request) ≤ 1)
        (UnwindSystem.start setup calls s) steps := by
  intro hall
  have hlast := (hall standardSetup sameOrder unwindingState
    [(0, minuteLater), (1, minuteLater), (0, minuteLater), (1, minuteLater)]).last "rt_1"
      .submitUnwindOrder
  exact absurd hlast (by decide +kernel)

end Runs

end TradingPlatform.Routes

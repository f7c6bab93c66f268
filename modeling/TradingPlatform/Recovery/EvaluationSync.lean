import TradingPlatform.Execution.HedgeBalance
import TradingPlatform.Recovery.Mismatch
import TradingPlatform.Runtime.ExecuteIntent
import TradingPlatform.Storage.FillLimits

/-! # Closing evaluations

A tick closes the latest evaluations whose intent is done and whose orders are
all terminal. An execution closes its own evaluation the same way. Neither looks
at the legs the orders are on or at their fills.
-/

namespace TradingPlatform.Recovery

open Storage

section Sweep

/-- Intent statuses an evaluation is closed in. -/
def terminalIntentStatuses : List String :=
  ["filled", "closed", "simulated", "cancelled", "expired", "rejected"]

/-- Lifecycles of evaluations that may be closed. -/
def terminalSyncCandidateStates : List String :=
  ["entry_submitting", "entry_open", "hedge_balanced", "unwind_in_progress"]

def strippedText (item : Dict) (key : String) : String := Text.strip (item.get key).textOrEmpty

/-- The intent an evaluation has persisted. -/
def persistedIntentId (item : Dict) : String :=
  match item.get "persisted_intent" with
  | .obj intent => strippedText intent "intent_id"
  | _ => ""

def intentIsTerminal (reads : ReadStore) (intentId : String) : Bool :=
  (reads.getOrderIntent intentId).any (normalizedStatus ·.status ∈ terminalIntentStatuses)

/-- The orders of an intent that are listed for a bot and a run. -/
def listedOrders (reads : ReadStore) (botId runId intentId : String) : List Order :=
  (reads.listOrders botId runId).filter (·.orderIntentId = intentId)

/-- An evaluation the tick closes: it may be closed, no open trace keeps it, its intent is
done and has orders, all of them terminal. -/
def closesEvaluation (reads : ReadStore) (redis : Runtime.RedisRuntime) (item : Dict) : Bool :=
  let runId := strippedText item "strategy_run_id"
  let botId := strippedText item "bot_id"
  let intentId := persistedIntentId item
  let orders := listedOrders reads botId runId intentId
  Text.lower (strippedText item "lifecycle_preview") ∈ terminalSyncCandidateStates &&
    runId ≠ "" && botId ≠ "" && intentId ≠ "" &&
    (redis.getBlockingRecoveryTrace botId runId).isNone &&
    intentIsTerminal reads intentId && !orders.isEmpty && !hasActiveOrders orders

/-- Close the evaluations one after another; the evaluations closed are kept aside. -/
def closeEvaluations (reads : ReadStore) (isoNow : Nat → String) :
    List Dict → Runtime.RedisRuntime → List Dict × Runtime.RedisRuntime
  | [], redis => ([], redis)
  | item :: rest, redis =>
      if closesEvaluation reads redis item then
        let closed := redis.syncArbitrageEvaluation (strippedText item "strategy_run_id")
          (item.set "lifecycle_preview" (.str "closed")) (isoNow 0)
        let (others, last) := closeEvaluations reads (fun n => isoNow (n + 1)) rest closed
        (item :: others, last)
      else closeEvaluations reads isoNow rest redis

def syncTerminalLatestEvaluations (reads : ReadStore) (isoNow : Nat → String)
    (redis : Runtime.RedisRuntime) : List Dict × Runtime.RedisRuntime :=
  closeEvaluations reads isoNow (redis.listArbitrageEvaluations 100) redis

/-- Closing one evaluation has no say in which others are closed. -/
theorem closeEvaluations_fst (reads : ReadStore) (isoNow : Nat → String) (items : List Dict)
    (redis : Runtime.RedisRuntime) :
    (closeEvaluations reads isoNow items redis).1 =
      items.filter (closesEvaluation reads redis) := by
  induction items generalizing isoNow redis with
  | nil => rfl
  | cons item rest ih =>
      rw [closeEvaluations, List.filter_cons]
      split_ifs with hcloses
      · exact congrArg (item :: ·) (ih _ _)
      · exact ih isoNow redis

end Sweep

section Specification

variable (s : MemoryStore)

/-- An order of an intent on one of its legs. -/
def HasLeg (intentId side : String) (exchange : OrderIntent → String) : Prop :=
  ∃ intent, s.findIntent intentId = some intent ∧ ∃ order ∈ s.orders,
    order.orderIntentId = intentId ∧ order.side = side ∧ order.exchangeName = exchange intent

/-- Both legs of an intent have an order, and as much was bought as sold. -/
structure Matched (intentId : String) : Prop where
  buyLeg : HasLeg s intentId "buy" OrderIntent.buyExchange
  sellLeg : HasLeg s intentId "sell" OrderIntent.sellExchange
  balanced : Execution.sideQty intentId "buy" s.fills = Execution.sideQty intentId "sell" s.fills

/-- A matched intent none of whose orders can trade any more. -/
structure Hedged (intentId : String) : Prop extends Matched s intentId where
  terminal : ∀ order ∈ s.orders, order.orderIntentId = intentId →
    normalizedStatus order.status ∈ terminalOrderStatuses

/-- The evaluation of an intent is closed by a tick or at the end of an execution. -/
inductive Closes (reads : ReadStore) (redis : Runtime.RedisRuntime) (isoNow : Nat → String)
    (intentId : String) : Prop
  | tick {item : Dict} (hitem : item ∈ (syncTerminalLatestEvaluations reads isoNow redis).1)
      (hid : persistedIntentId item = intentId)
  | execution {intent : OrderIntent} {payload : Dict} (hid : intent.intentId = intentId)
      (hbefore : (payload.get "lifecycle_preview").textOrEmpty = "hedge_balanced")
      (hafter : (Runtime.maybeCloseAfterTerminalFill reads intent payload).get
        "lifecycle_preview" = .str "closed")

/-- What both procedures look at: the intent is done, it has listed orders, and all of
these are terminal; a tick needs an evaluation without an open trace as well. -/
inductive Closable (reads : ReadStore) (redis : Runtime.RedisRuntime) (intentId : String) : Prop
  | tick {item : Dict} (hitem : item ∈ redis.listArbitrageEvaluations 100)
      (hcloses : closesEvaluation reads redis item) (hid : persistedIntentId item = intentId)
  | execution {latest : OrderIntent} (hid : intentId ≠ "")
      (hlatest : reads.getOrderIntent intentId = some latest)
      (hdone : normalizedStatus latest.status ∈ Runtime.terminalIntentStatuses)
      (horders : listedOrders reads "" latest.strategyRunId intentId ≠ [])
      (hterminal : hasActiveOrders (listedOrders reads "" latest.strategyRunId intentId) = false)

end Specification

section Closing

variable {s : MemoryStore} {reads : ReadStore} {redis : Runtime.RedisRuntime}
  {isoNow : Nat → String} {intentId : String}

/-- An execution closes exactly the balanced payloads of closable intents. -/
theorem maybeCloseAfterTerminalFill_closes_iff {intent : OrderIntent} {payload : Dict}
    (hbefore : (payload.get "lifecycle_preview").textOrEmpty = "hedge_balanced") :
    (Runtime.maybeCloseAfterTerminalFill reads intent payload).get "lifecycle_preview" =
        .str "closed" ↔
      intent.intentId ≠ "" ∧ ∃ latest, reads.getOrderIntent intent.intentId = some latest ∧
        normalizedStatus latest.status ∈ Runtime.terminalIntentStatuses ∧
        listedOrders reads "" latest.strategyRunId intent.intentId ≠ [] ∧
        hasActiveOrders (listedOrders reads "" latest.strategyRunId intent.intentId) = false := by
  have hopen : payload.get "lifecycle_preview" ≠ .str "closed" := by
    intro hclosed
    rw [hclosed] at hbefore
    exact absurd hbefore (by decide +kernel)
  unfold Runtime.maybeCloseAfterTerminalFill
  by_cases hid : intent.intentId = ""
  · simp [hbefore, hid, hopen]
  · rw [if_neg (by simp [hbefore, hid])]
    cases hlatest : reads.getOrderIntent intent.intentId with
    | none => simp [hopen]
    | some latest =>
        dsimp only
        split_ifs with hdone
        · exact iff_of_true (Dict.get_set_self _ _ _) ⟨hid, latest, rfl, hdone.1, hdone.2.1,
            hasActiveOrders_eq_false.mpr hdone.2.2⟩
        · refine iff_of_false hopen ?_
          rintro ⟨-, other, hother, hstatus, horders, hterminal⟩
          obtain rfl := Option.some.inj hother
          exact hdone ⟨hstatus, horders, hasActiveOrders_eq_false.mp hterminal⟩

theorem closes_iff_closable : Closes reads redis isoNow intentId ↔
    Closable reads redis intentId := by
  constructor
  · intro hcloses
    cases hcloses with
    | tick hitem hid =>
        rw [syncTerminalLatestEvaluations, closeEvaluations_fst, List.mem_filter] at hitem
        exact .tick hitem.1 hitem.2 hid
    | execution hid hbefore hafter =>
        obtain ⟨hne, latest, hlatest, hdone, horders, hterminal⟩ :=
          (maybeCloseAfterTerminalFill_closes_iff hbefore).mp hafter
        subst hid
        exact .execution hne hlatest hdone horders hterminal
  · intro hclosable
    cases hclosable with
    | tick hitem hcloses hid =>
        refine .tick ?_ hid
        rw [syncTerminalLatestEvaluations, closeEvaluations_fst]
        exact List.mem_filter.mpr ⟨hitem, hcloses⟩
    | @execution latest hid hlatest hdone horders hterminal =>
        have hlatestId :
            ({ latest with intentId := intentId } : OrderIntent).intentId = intentId := rfl
        have hpreview : (Dict.get [("lifecycle_preview", Json.str "hedge_balanced")]
            "lifecycle_preview").textOrEmpty = "hedge_balanced" := by decide +kernel
        have hne : ({ latest with intentId := intentId } : OrderIntent).intentId ≠ "" := hid
        have hcloses := (maybeCloseAfterTerminalFill_closes_iff hpreview).mpr
          ⟨hne, latest, hlatest, hdone, horders, hterminal⟩
        exact .execution hlatestId hpreview hcloses

/-- Where orders keep to their intents, a listed order stands for all of its intent. -/
theorem listed_of_listed (hkeeps : ∀ order ∈ s.orders, s.KeepsToIntent order) {ctx : DecimalContext}
    {botId runId : String} (hsome : listedOrders (s.reads ctx) botId runId intentId ≠ [])
    {order : Order} (hmem : order ∈ s.orders) (hid : order.orderIntentId = intentId) :
    order ∈ listedOrders (s.reads ctx) botId runId intentId := by
  obtain ⟨listed, hlisted⟩ := List.exists_mem_of_ne_nil _ hsome
  simp only [listedOrders, MemoryStore.reads, List.mem_filter, decide_eq_true_eq,
    MemoryStore.mem_listRunOrders] at hlisted ⊢
  obtain ⟨⟨hlistedMem, hbot, hrun⟩, hlistedId⟩ := hlisted
  obtain ⟨intent, hintent, horderBot, horderRun, -⟩ := hkeeps order hmem
  obtain ⟨other, hother, hlistedBot, hlistedRun, -⟩ := hkeeps listed hlistedMem
  rw [hid] at hintent
  rw [hlistedId, hintent] at hother
  obtain rfl := Option.some.inj hother
  refine ⟨⟨hmem, ?_, ?_⟩, hid⟩
  · exact hbot.imp_right fun hbotEq => horderBot.trans (hlistedBot.symm.trans hbotEq)
  · exact hrun.imp_right fun hrunEq => horderRun.trans (hlistedRun.symm.trans hrunEq)

/-- No order of a closable intent can trade any more. -/
theorem Closable.terminal (hkeeps : ∀ order ∈ s.orders, s.KeepsToIntent order)
    {ctx : DecimalContext}
    (hclosable : Closable (s.reads ctx) redis intentId) :
    ∀ order ∈ s.orders, order.orderIntentId = intentId →
      normalizedStatus order.status ∈ terminalOrderStatuses := by
  intro order hmem hid
  cases hclosable with
  | tick hitem hcloses hitemId =>
      subst hitemId
      simp only [closesEvaluation, Bool.and_eq_true, Bool.not_eq_true', List.isEmpty_eq_false_iff]
        at hcloses
      obtain ⟨⟨-, hsome⟩, hterminal⟩ := hcloses
      exact hasActiveOrders_eq_false.mp hterminal order (listed_of_listed hkeeps hsome hmem hid)
  | execution hne hlatest hdone hsome hterminal =>
      exact hasActiveOrders_eq_false.mp hterminal order (listed_of_listed hkeeps hsome hmem hid)

end Closing

end TradingPlatform.Recovery

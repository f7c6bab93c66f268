import TradingPlatform.Runtime.EvaluateRun

/-! # The runs of a tick

A tick evaluates the running arbitrage strategies one after the other and the
runtime loop ticks until a stop is requested. Neither has a handler of its own,
so that an exception that leaves the evaluation of a run ends the tick and the
loop.
-/

namespace TradingPlatform.Runtime

open Storage Strategy

/-- A running strategy, what is answered while it is evaluated, and whether a stop is
requested when its turn comes. -/
structure TickEntry where
  run : StrategyRun
  answers : RunAnswers
  stopRequested : Bool := false

/-- The running strategies of a tick, and whether a stop is requested before it. -/
structure LoopTick where
  entries : List TickEntry
  stopRequested : Bool := false

section Loop

variable (settings : StrategySettings)

def arbitrageRuns (entries : List TickEntry) : List TickEntry :=
  entries.filter (·.run.strategyName = "arbitrage")

def tick (entries : List TickEntry) : Attempts HostError TickEntry :=
  attemptAll (·.stopRequested) (fun entry => evaluateRun settings entry.answers entry.run)
    (arbitrageRuns entries)

def runLoop (ticks : List LoopTick) : Attempts HostError LoopTick :=
  attemptAll (·.stopRequested) (fun next => (tick settings next.entries).outcome) ticks

/-- Every tick comes about and attempts all its runs, and no exception ends the loop. -/
structure Isolated (ticks : List LoopTick) : Prop where
  attempts_runs : ∀ next ∈ ticks,
    (tick settings next.entries).attempted = arbitrageRuns next.entries
  attempts_ticks : (runLoop settings ticks).attempted = ticks
  goes_on : (runLoop settings ticks).raised = none

/-- No stop is requested. -/
def Unstopped (ticks : List LoopTick) : Prop :=
  ∀ next ∈ ticks, next.stopRequested = false ∧
    ∀ entry ∈ arbitrageRuns next.entries, entry.stopRequested = false

end Loop

variable {settings : StrategySettings} {ticks : List LoopTick}

theorem raised_tick_iff {entries : List TickEntry}
    (hgo : ∀ entry ∈ arbitrageRuns entries, entry.stopRequested = false) :
    (tick settings entries).raised = none ↔
      ∀ entry ∈ arbitrageRuns entries, ¬ Escapes settings entry.answers entry.run := by
  unfold tick
  rw [raised_attemptAll_iff hgo]
  simp only [raises_evaluateRun_iff]

theorem raised_runLoop_iff (hgo : Unstopped ticks) :
    (runLoop settings ticks).raised = none ↔ ∀ next ∈ ticks,
      ∀ entry ∈ arbitrageRuns next.entries, ¬ Escapes settings entry.answers entry.run := by
  unfold runLoop
  rw [raised_attemptAll_iff fun next hnext => (hgo next hnext).1]
  refine forall₂_congr fun next hnext => ?_
  rw [Attempts.raises_outcome_iff, not_not, raised_tick_iff (hgo next hnext).2]

/-- As long as no stop is requested, runs are isolated from each other exactly when no
exception leaves the evaluation of any of them. -/
theorem isolated_iff (hgo : Unstopped ticks) :
    Isolated settings ticks ↔ ∀ next ∈ ticks, ∀ entry ∈ arbitrageRuns next.entries,
      ¬ Escapes settings entry.answers entry.run := by
  rw [← raised_runLoop_iff hgo]
  refine ⟨Isolated.goes_on, fun hraised => ?_⟩
  refine ⟨fun next hnext => ?_, ?_, hraised⟩
  · refine attempted_attemptAll (hgo next hnext).2 ?_
    exact (raised_tick_iff (hgo next hnext).2).mpr ((raised_runLoop_iff hgo).mp hraised next hnext)
  · exact attempted_attemptAll (fun next hnext => (hgo next hnext).1) hraised

section MalformedCap

/-- The configuration of a run, with a cap on open orders. -/
def cappedSpec (openOrderCap : Json) : Dict :=
  pairSpec ["upbit", "bithumb"] [("runtime_state", .obj [("open_order_cap", openOrderCap)])]

/-- Nothing but the load has anything to read. -/
def pairAnswers (openOrderCap : Json) : RunAnswers where
  isoNow := "2024-01-01T00:00:00Z"
  latestEvaluation := .ok none
  holdPairLock _ := .ok .acquired
  dropPairLock _ _ _ := .ok .missing
  blockingTrace := .ok none
  sources := pairSources (cappedSpec openOrderCap)
  acquirePairLock _ := .ok (.acquired, none)
  previousEvaluation := .ok none
  syncEvaluation _ _ := .ok ()
  appendEvent _ _ := .ok ()
  createOrderIntent _ := .ok (.notFound, none)
  releasePairLock _ _ _ := .ok .missing
  refreshPairLock _ := .ok .refreshed
  publishOrderEvent _ := .ok ()
  execute _ _ := .error (.runtime "no adapter")

def pairSettings : StrategySettings where
  ctx := DecimalContext.default
  print _ := Numeral.one
  same first second := first.toText = second.toText
  redisEnabled := false
  persistIntent := true
  executionEnabled := false

/-- Two runs of one tick, the first one with a cap that is no number. -/
def malformedCapTick : LoopTick where
  entries := [⟨pairRun "first", pairAnswers (.str "many"), false⟩,
    ⟨pairRun "second", pairAnswers (.int 1), false⟩]

theorem unstopped_malformedCap : Unstopped [malformedCapTick] := by
  intro next hnext
  rw [List.mem_singleton.mp hnext]
  refine ⟨rfl, fun entry hentry => ?_⟩
  have hmem := List.mem_of_mem_filter hentry
  simp only [malformedCapTick, List.mem_cons, List.not_mem_nil, or_false] at hmem
  rcases hmem with rfl | rfl <;> rfl

/-- The second run is not attempted and the loop ends, although no stop is requested. -/
theorem not_isolated_malformedCap :
    Unstopped [malformedCapTick] ∧ ¬ Isolated pairSettings [malformedCapTick] ∧
      (arbitrageRuns malformedCapTick.entries).map (·.run.runId) = ["first", "second"] ∧
      (tick pairSettings malformedCapTick.entries).attempted.map (·.run.runId) = ["first"] ∧
      (runLoop pairSettings [malformedCapTick]).raised =
        some (.other "invalid literal for int() with base 10: 'many'") := by
  have hraised : (runLoop pairSettings [malformedCapTick]).raised =
      some (.other "invalid literal for int() with base 10: 'many'") := by
    decide +kernel
  refine ⟨unstopped_malformedCap, ?_, by decide +kernel, by decide +kernel, hraised⟩
  rintro ⟨-, -, hgoesOn⟩
  rw [hraised] at hgoesOn
  cases hgoesOn

theorem isolated_malformedCap_iff :
    Isolated pairSettings [malformedCapTick] ↔ ∀ next ∈ [malformedCapTick],
      ∀ entry ∈ arbitrageRuns next.entries, ¬ Escapes pairSettings entry.answers entry.run :=
  isolated_iff unstopped_malformedCap

end MalformedCap

end TradingPlatform.Runtime

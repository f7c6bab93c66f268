import Mathlib.Logic.Relation
import TradingPlatform.Foundation.OwnedRows
import TradingPlatform.Storage.Calls

/-! # The life of a strategy run

A strategy run is created, started and stopped, in that order and once each, and
takes its bot from its creation to its stop. The intents of a run are counted in
its row.
-/

namespace TradingPlatform.Storage

/-- Where a strategy run stands. -/
inductive RunPhase where
  | created
  | running
  | stopped

namespace RunPhase

def status : RunPhase → String
  | created => "created"
  | running => "running"
  | stopped => "stopped"

/-- The one way from a phase to another. -/
inductive Next : RunPhase → RunPhase → Prop
  | start : Next created running
  | stop : Next running stopped

theorem status_injective : Function.Injective status := by
  intro phase other hstatus
  cases phase <;> cases other <;> simp_all [status]

/-- A stopped run stays so. -/
theorem eq_stopped {next : RunPhase} (hpath : Relation.ReflTransGen Next stopped next) :
    next = stopped := by
  induction hpath with
  | refl => rfl
  | tail _ hnext ih =>
      rw [ih] at hnext
      cases hnext

end RunPhase

namespace StrategyRun

/-- The run takes its bot. -/
def Active (run : StrategyRun) : Prop := run.status = "created" ∨ run.status = "running"

/-- The run has the status of a phase and the instants that go with it. -/
structure StandsAt (run : StrategyRun) (phase : RunPhase) : Prop where
  status : run.status = phase.status
  started : run.startedAt.isSome ↔ phase ≠ .created
  stopped : run.stoppedAt.isSome ↔ phase = .stopped

theorem StandsAt.unique {run : StrategyRun} {phase other : RunPhase} (hphase : run.StandsAt phase)
    (hother : run.StandsAt other) : phase = other :=
  RunPhase.status_injective (hphase.status.symm.trans hother.status)

/-- A later row of a run: the terms are kept, the phase goes on, an instant stays as it is
and no intent is uncounted. -/
structure GoesOn (run later : StrategyRun) : Prop where
  runId : later.runId = run.runId
  botId : later.botId = run.botId
  strategyName : later.strategyName = run.strategyName
  mode : later.mode = run.mode
  createdAt : later.createdAt = run.createdAt
  phase : ∀ phase, run.StandsAt phase →
    ∃ next, later.StandsAt next ∧ Relation.ReflTransGen RunPhase.Next phase next
  startedAt : ∀ instant ∈ run.startedAt, instant ∈ later.startedAt
  stoppedAt : ∀ instant ∈ run.stoppedAt, instant ∈ later.stoppedAt
  decisionCount : run.decisionCount ≤ later.decisionCount

namespace GoesOn

theorem refl (run : StrategyRun) : run.GoesOn run where
  runId := rfl
  botId := rfl
  strategyName := rfl
  mode := rfl
  createdAt := rfl
  phase phase hphase := ⟨phase, hphase, .refl⟩
  startedAt _ hinstant := hinstant
  stoppedAt _ hinstant := hinstant
  decisionCount := le_rfl

theorem trans (run later last : StrategyRun) (hfirst : run.GoesOn later)
    (hsecond : later.GoesOn last) : run.GoesOn last where
  runId := hsecond.runId.trans hfirst.runId
  botId := hsecond.botId.trans hfirst.botId
  strategyName := hsecond.strategyName.trans hfirst.strategyName
  mode := hsecond.mode.trans hfirst.mode
  createdAt := hsecond.createdAt.trans hfirst.createdAt
  phase := by
    intro phase hphase
    obtain ⟨next, hnext, hpath⟩ := hfirst.phase phase hphase
    obtain ⟨final, hfinal, hpath'⟩ := hsecond.phase next hnext
    exact ⟨final, hfinal, hpath.trans hpath'⟩
  startedAt instant hinstant := hsecond.startedAt instant (hfirst.startedAt instant hinstant)
  stoppedAt instant hinstant := hsecond.stoppedAt instant (hfirst.stoppedAt instant hinstant)
  decisionCount := hfirst.decisionCount.trans hsecond.decisionCount

/-- A run that takes its bot did so before. -/
theorem active {run later : StrategyRun} {phase : RunPhase} (hgoes : run.GoesOn later)
    (hphase : run.StandsAt phase) (hactive : later.Active) : run.Active := by
  obtain ⟨next, hnext, hpath⟩ := hgoes.phase phase hphase
  cases phase with
  | created => exact Or.inl hphase.status
  | running => exact Or.inr hphase.status
  | stopped =>
      rw [RunPhase.eq_stopped hpath] at hnext
      simp [Active, hnext.status, RunPhase.status] at hactive

end GoesOn

/-- An update of the runs in a phase that counts no intent. -/
structure Moves (f : StrategyRun → StrategyRun) (phase : RunPhase) : Prop where
  goesOn : ∀ run : StrategyRun, run.StandsAt phase → run.GoesOn (f run)
  decisionCount : ∀ run : StrategyRun, (f run).decisionCount = run.decisionCount

theorem moves_start (instant : String) :
    Moves (fun run => { run with status := "running", startedAt := some instant,
                                 stoppedAt := none }) .created where
  goesOn run hrun :=
    { runId := rfl
      botId := rfl
      strategyName := rfl
      mode := rfl
      createdAt := rfl
      phase := by
        intro phase hphase
        rw [hphase.unique hrun]
        exact ⟨.running, ⟨rfl, by simp, by simp⟩, .single .start⟩
      -- a run that is only created has neither instant yet
      startedAt := by
        intro known hknown
        exact absurd rfl (hrun.started.mp (Option.isSome_of_mem hknown))
      stoppedAt := by
        intro known hknown
        exact absurd (hrun.stopped.mp (Option.isSome_of_mem hknown)) (by simp)
      decisionCount := le_rfl }
  decisionCount _ := rfl

theorem moves_stop (instant : String) :
    Moves (fun run => { run with status := "stopped", stoppedAt := some instant }) .running where
  goesOn run hrun :=
    { runId := rfl
      botId := rfl
      strategyName := rfl
      mode := rfl
      createdAt := rfl
      phase := by
        intro phase hphase
        rw [hphase.unique hrun]
        exact ⟨.stopped, ⟨rfl, by simpa using hrun.started, by simp⟩, .single .stop⟩
      startedAt := fun _ hknown => hknown
      stoppedAt := by
        intro known hknown
        exact absurd (hrun.stopped.mp (Option.isSome_of_mem hknown)) (by simp)
      decisionCount := le_rfl }
  decisionCount _ := rfl

/-- One more intent of the run. -/
def count (run : StrategyRun) : StrategyRun := { run with decisionCount := run.decisionCount + 1 }

theorem standsAt_count {run : StrategyRun} {phase : RunPhase} (hphase : run.StandsAt phase) :
    run.count.StandsAt phase :=
  ⟨hphase.status, hphase.started, hphase.stopped⟩

theorem goesOn_count (run : StrategyRun) : run.GoesOn run.count where
  runId := rfl
  botId := rfl
  strategyName := rfl
  mode := rfl
  createdAt := rfl
  phase phase hphase := ⟨phase, standsAt_count hphase, .refl⟩
  startedAt _ hinstant := hinstant
  stoppedAt _ hinstant := hinstant
  decisionCount := Nat.le_succ _

end StrategyRun

/-- The run and the bot an intent is for. -/
def OrderIntent.owner (intent : OrderIntent) : String × String :=
  (intent.strategyRunId, intent.botId)

namespace MemoryStore

variable {p : Platform} {ctx : DecimalContext} {s s' : MemoryStore}

theorem owners_setIntentStatus (s : MemoryStore) (id : String) (f : String → String) :
    (s.setIntentStatus id f).orderIntents.map OrderIntent.owner =
      s.orderIntents.map OrderIntent.owner := by
  simp only [setIntentStatus, List.map_map]
  refine List.map_congr_left fun intent _ => ?_
  simp only [Function.comp_apply]
  split <;> rfl

theorem owners_addFill (s : MemoryStore) (fill : Fill) :
    (s.addFill fill).orderIntents.map OrderIntent.owner =
      s.orderIntents.map OrderIntent.owner := by
  simp only [addFill, settleIntent, owners_setIntentStatus]
  rfl

section Effects

/-- What a call can do to the strategy runs. -/
inductive RunEffect (p : Platform) (s : MemoryStore) : MemoryStore → Prop
  | kept {s' : MemoryStore} (hruns : s'.strategyRuns = s.strategyRuns)
      (hbots : s'.botIds = s.botIds)
      (howners : s'.orderIntents.map OrderIntent.owner = s.orderIntents.map OrderIntent.owner)
      (hserial : s.serial ≤ s'.serial) : RunEffect p s s'
  | created (run : StrategyRun) (hbot : run.botId ∈ s.botIds)
      (hfree : ∀ other ∈ s.strategyRuns, other.botId = run.botId → ¬ other.Active)
      (hid : run.runId = p.uuid s.serial) (hstands : run.StandsAt .created)
      (hcount : run.decisionCount = 0) :
      RunEffect p s
        { s with strategyRuns := s.strategyRuns ++ [run], serial := s.serial + 1 }
  | moved {runId : String} {f : StrategyRun → StrategyRun} {phase : RunPhase}
      (run : StrategyRun) (hfind : s.findRun runId = some run) (hstatus : run.status = phase.status)
      (hmoves : StrategyRun.Moves f phase) :
      RunEffect p s { s.updateRun runId f with serial := s.serial + 1 }
  | counted {runId : String} (run : StrategyRun) (intent : OrderIntent)
      (hfind : s.findRun runId = some run) (hrun : intent.strategyRunId = runId)
      (hbot : intent.botId = run.botId) :
      RunEffect p s
        { s.updateRun runId StrategyRun.count with
          orderIntents := s.orderIntents ++ [intent], serial := s.serial + 1 }

theorem RunEffect.refl (s : MemoryStore) : RunEffect p s s := .kept rfl rfl rfl le_rfl

theorem findRun_mem {runId : String} {run : StrategyRun} (hfind : s.findRun runId = some run) :
    run ∈ s.strategyRuns ∧ run.runId = runId :=
  ⟨List.mem_of_find?_eq_some hfind, by simpa using List.find?_some hfind⟩

/-- Every call has one of the effects. -/
theorem runEffect (p : Platform) (ctx : DecimalContext) (s : MemoryStore) (call : Call) :
    RunEffect p s (call.apply p ctx s) := by
  cases call with
  | createStrategyRun botId strategyName mode =>
      unfold Call.apply MemoryStore.createStrategyRun
      dsimp only
      split
      · exact .refl s
      next hbot =>
        split
        · exact .refl s
        next hnone =>
          -- the bot had no active run, or the call would have been refused
          refine .created _ (not_not.mp hbot) ?_ rfl ⟨rfl, by simp, by simp⟩ rfl
          intro other hother howner hactive
          refine List.find?_eq_none.mp hnone other hother ?_
          exact decide_eq_true ⟨howner, hactive⟩
  | startStrategyRun runId =>
      unfold Call.apply MemoryStore.startStrategyRun
      dsimp only
      split
      · exact .refl s
      next run hfind =>
        split_ifs with hstatus hother
        · exact .refl s
        · exact .refl s
        · have hcreated : run.status = RunPhase.created.status := not_not.mp hstatus
          exact .moved run hfind hcreated (StrategyRun.moves_start _)
  | stopStrategyRun runId =>
      unfold Call.apply MemoryStore.stopStrategyRun
      dsimp only
      split
      · exact .refl s
      next run hfind =>
        split_ifs with hstatus
        · exact .refl s
        · have hrunning : run.status = RunPhase.running.status := not_not.mp hstatus
          exact .moved run hfind hrunning (StrategyRun.moves_stop _)
  | createOrderIntent new =>
      unfold Call.apply MemoryStore.createOrderIntent
      dsimp only
      split
      · exact .refl s
      next run hfind => exact .counted run _ hfind rfl rfl
  | createOrder new =>
      rcases createOrder_cases p new s with ⟨intent, -, -, -, -, hcreated⟩ | ⟨-, hkept⟩
      · simp only [Call.apply, hcreated]
        exact .kept rfl rfl (owners_setIntentStatus _ _ _) (Nat.le_succ _)
      · simp only [Call.apply, hkept]
        exact .refl s
  | updateOrderStatus orderId status =>
      unfold Call.apply MemoryStore.updateOrderStatus
      dsimp only
      split
      · exact .refl s
      · split_ifs
        · exact .refl s
        · exact .refl s
        · exact .kept rfl rfl rfl (Nat.le_succ _)
        · exact .refl s
  | createFill new =>
      rcases createFill_cases p ctx new s with ⟨order, status, -, -, -, hcreated⟩ | ⟨-, hkept⟩
      · simp only [Call.apply, hcreated]
        exact .kept rfl rfl (owners_addFill _ _) (Nat.le_succ _)
      · simp only [Call.apply, hkept]
        exact .refl s

end Effects

section Lifecycle

/-- What the strategy runs of a store satisfy. -/
structure OrderlyRuns (p : Platform) (s : MemoryStore) : Prop where
  oneActive : OneActive StrategyRun.runId StrategyRun.botId StrategyRun.Active s.strategyRuns
  issued : ∀ run ∈ s.strategyRuns, ∃ n < s.serial, run.runId = p.uuid n
  known : ∀ run ∈ s.strategyRuns, run.botId ∈ s.botIds
  stands : ∀ run ∈ s.strategyRuns, ∃ phase, run.StandsAt phase
  counted : ∀ run ∈ s.strategyRuns,
    run.decisionCount = ((s.orderIntents.map OrderIntent.owner).map Prod.fst).count run.runId
  owned : ∀ owner ∈ s.orderIntents.map OrderIntent.owner,
    ∃ run ∈ s.strategyRuns, (run.runId, run.botId) = owner

theorem orderlyRuns_empty (p : Platform) (botIds : List String) : OrderlyRuns p (empty botIds) where
  oneActive := .nil
  issued := by simp [empty]
  known := by simp [empty]
  stands := by simp [empty]
  counted := by simp [empty]
  owned := by simp [empty]

namespace OrderlyRuns

/-- No run has the next identifier. -/
theorem fresh (h : OrderlyRuns p s) : ∀ run ∈ s.strategyRuns, run.runId ≠ p.uuid s.serial :=
  ne_of_issued p.uuid_injective h.issued

theorem eq_of_findRun (h : OrderlyRuns p s) {runId : String} {run : StrategyRun}
    (hfind : s.findRun runId = some run) :
    ∀ row ∈ s.strategyRuns, row.runId = runId → row = run := by
  intro row hrow hat
  obtain ⟨hmem, hid⟩ := findRun_mem hfind
  exact h.oneActive.eq_of_key hrow hmem (hat.trans hid.symm)

theorem standsAt (h : OrderlyRuns p s) {run : StrategyRun} (hrun : run ∈ s.strategyRuns)
    {phase : RunPhase} (hstatus : run.status = phase.status) : run.StandsAt phase := by
  obtain ⟨at_, hat⟩ := h.stands run hrun
  rw [← RunPhase.status_injective (hat.status.symm.trans hstatus)]
  exact hat

theorem goesOn_of_moves (h : OrderlyRuns p s) {runId : String} {run : StrategyRun}
    {f : StrategyRun → StrategyRun} {phase : RunPhase} (hfind : s.findRun runId = some run)
    (hstatus : run.status = phase.status) (hmoves : StrategyRun.Moves f phase) :
    ∀ row ∈ s.strategyRuns, row.runId = runId → row.GoesOn (f row) := by
  intro row hrow hat
  rw [h.eq_of_findRun hfind row hrow hat]
  exact hmoves.goesOn run (h.standsAt (findRun_mem hfind).1 hstatus)

/-- The rows with an identifier go on, and the intents are counted again. -/
theorem update (h : OrderlyRuns p s) {runId : String} {f : StrategyRun → StrategyRun}
    (intents : List OrderIntent)
    (hgoes : ∀ row ∈ s.strategyRuns, row.runId = runId → row.GoesOn (f row))
    (hcounted : ∀ run ∈ updateAt StrategyRun.runId runId f s.strategyRuns,
      run.decisionCount = ((intents.map OrderIntent.owner).map Prod.fst).count run.runId)
    (howned : ∀ owner ∈ intents.map OrderIntent.owner,
      ∃ run ∈ s.strategyRuns, (run.runId, run.botId) = owner) :
    OrderlyRuns p
      { s.updateRun runId f with orderIntents := intents, serial := s.serial + 1 } := by
  have hcontinues : Continues StrategyRun.GoesOn s.strategyRuns
      (updateAt StrategyRun.runId runId f s.strategyRuns) :=
    Continues.update StrategyRun.GoesOn.refl hgoes
  -- every row of the new table goes on from a row of the old one
  have hcomes : ∀ later ∈ updateAt StrategyRun.runId runId f s.strategyRuns,
      ∃ row ∈ s.strategyRuns, row.GoesOn later := by
    intro later hlater
    rcases mem_updateAt.mp hlater with ⟨row, hrow, hat, rfl⟩ | ⟨hrow, -⟩
    · exact ⟨row, hrow, hgoes row hrow hat⟩
    · exact ⟨later, hrow, .refl later⟩
  refine ⟨?_, ?_, ?_, ?_, hcounted, ?_⟩
  · refine h.oneActive.update (fun row hrow hat => (hgoes row hrow hat).runId)
      (fun row hrow hat => (hgoes row hrow hat).botId) fun row hrow hat hactive => ?_
    obtain ⟨phase, hphase⟩ := h.stands row hrow
    exact (hgoes row hrow hat).active hphase hactive
  · intro later hlater
    obtain ⟨row, hrow, hrowGoes⟩ := hcomes later hlater
    rw [hrowGoes.runId]
    exact issued_succ h.issued row hrow
  · intro later hlater
    obtain ⟨row, hrow, hrowGoes⟩ := hcomes later hlater
    rw [hrowGoes.botId]
    exact h.known row hrow
  · intro later hlater
    obtain ⟨row, hrow, hrowGoes⟩ := hcomes later hlater
    obtain ⟨phase, hphase⟩ := h.stands row hrow
    obtain ⟨next, hnext, -⟩ := hrowGoes.phase phase hphase
    exact ⟨next, hnext⟩
  · intro owner howner
    obtain ⟨run, hrun, hruns⟩ := howned owner howner
    obtain ⟨later, hlater, hrunGoes⟩ := hcontinues run hrun
    refine ⟨later, hlater, ?_⟩
    rw [hrunGoes.runId, hrunGoes.botId, hruns]

/-- A new run comes in for a bot without an active run. -/
theorem add (h : OrderlyRuns p s) {run : StrategyRun} (hbot : run.botId ∈ s.botIds)
    (hfree : ∀ other ∈ s.strategyRuns, other.botId = run.botId → ¬ other.Active)
    (hid : run.runId = p.uuid s.serial) (hstands : run.StandsAt .created)
    (hcount : run.decisionCount = 0) :
    OrderlyRuns p { s with strategyRuns := s.strategyRuns ++ [run], serial := s.serial + 1 } where
  oneActive := h.oneActive.add (fun row hrow => hid ▸ h.fresh row hrow) hfree
  issued := by
    intro row hrow
    rcases List.mem_append.mp hrow with hold | hnew
    · exact issued_succ h.issued row hold
    · rw [List.mem_singleton.mp hnew]
      exact ⟨s.serial, Nat.lt_succ_self _, hid⟩
  known := by
    intro row hrow
    rcases List.mem_append.mp hrow with hold | hnew
    · exact h.known row hold
    · rw [List.mem_singleton.mp hnew]
      exact hbot
  stands := by
    intro row hrow
    rcases List.mem_append.mp hrow with hold | hnew
    · exact h.stands row hold
    · rw [List.mem_singleton.mp hnew]
      exact ⟨.created, hstands⟩
  counted := by
    intro row hrow
    rcases List.mem_append.mp hrow with hold | hnew
    · exact h.counted row hold
    · rw [List.mem_singleton.mp hnew, hcount, eq_comm, List.count_eq_zero]
      -- an intent's run is there already, and its identifier is not the next one
      intro hmem
      obtain ⟨owner, howner, hfst⟩ := List.mem_map.mp hmem
      obtain ⟨other, hother, rfl⟩ := h.owned owner howner
      exact h.fresh other hother (hfst.trans hid)
  owned := by
    intro owner howner
    obtain ⟨other, hother, howns⟩ := h.owned owner howner
    exact ⟨other, List.mem_append_left _ hother, howns⟩

theorem step (h : OrderlyRuns p s) (heffect : RunEffect p s s') : OrderlyRuns p s' := by
  cases heffect with
  | kept hruns hbots howners hserial =>
      refine ⟨?_, ?_, ?_, ?_, ?_, ?_⟩
      · rw [hruns]
        exact h.oneActive
      · intro run hrun
        obtain ⟨n, hlt, hid⟩ := h.issued run (hruns ▸ hrun)
        exact ⟨n, hlt.trans_le hserial, hid⟩
      · rw [hruns, hbots]
        exact h.known
      · rw [hruns]
        exact h.stands
      · rw [hruns, howners]
        exact h.counted
      · rw [hruns, howners]
        exact h.owned
  | created run hbot hfree hid hstands hcount => exact h.add hbot hfree hid hstands hcount
  | @moved runId f phase run hfind hstatus hmoves =>
      have hgoes := h.goesOn_of_moves hfind hstatus hmoves
      refine h.update s.orderIntents hgoes ?_ h.owned
      intro later hlater
      rcases mem_updateAt.mp hlater with ⟨row, hrow, hat, rfl⟩ | ⟨hrow, -⟩
      · rw [hmoves.decisionCount, (hgoes row hrow hat).runId]
        exact h.counted row hrow
      · exact h.counted later hrow
  | @counted runId run intent hfind hrun hbot =>
      refine h.update _ (fun row _ _ => StrategyRun.goesOn_count row) ?_ ?_
      · intro later hlater
        rw [List.map_append, List.map_append, List.count_append]
        rcases mem_updateAt.mp hlater with ⟨row, hrow, hat, rfl⟩ | ⟨hrow, hat⟩
        · rw [(StrategyRun.goesOn_count row).runId, ← h.counted row hrow, hat]
          simp [StrategyRun.count, OrderIntent.owner, hrun]
        · rw [← h.counted later hrow]
          simp [OrderIntent.owner, hrun, Ne.symm hat]
      · intro owner howner
        rw [List.map_append] at howner
        rcases List.mem_append.mp howner with hold | hnew
        · exact h.owned owner hold
        · obtain ⟨hmem, hid⟩ := findRun_mem hfind
          refine ⟨run, hmem, ?_⟩
          rw [List.map_singleton, List.mem_singleton] at hnew
          rw [hnew, OrderIntent.owner, hid, hrun, hbot]

/-- Every run goes on in the rows after a call. -/
theorem continues (h : OrderlyRuns p s) (heffect : RunEffect p s s') :
    Continues StrategyRun.GoesOn s.strategyRuns s'.strategyRuns := by
  cases heffect with
  | kept hruns => exact .of_subset StrategyRun.GoesOn.refl (by rw [hruns]; exact fun _ => id)
  | created run =>
      exact .of_subset StrategyRun.GoesOn.refl (List.subset_append_left _ _)
  | moved run hfind hstatus hmoves =>
      exact .update StrategyRun.GoesOn.refl (h.goesOn_of_moves hfind hstatus hmoves)
  | counted run intent =>
      exact .update StrategyRun.GoesOn.refl fun row _ _ => StrategyRun.goesOn_count row

/-- A run that is created is started whenever it is asked for: no other run of its bot is
running then. -/
theorem started_iff (h : OrderlyRuns p s) (runId : String) :
    (startStrategyRun p runId s).1.outcome = .started ↔
      ∃ run ∈ s.strategyRuns, run.runId = runId ∧ run.StandsAt .created := by
  unfold startStrategyRun
  split
  next hnone =>
    simp only [findRun, List.find?_eq_none, decide_eq_true_eq] at hnone
    constructor
    · simp
    · rintro ⟨run, hrun, hid, -⟩
      exact absurd hid (hnone run hrun)
  next run hfind =>
    obtain ⟨hmem, hid⟩ := findRun_mem hfind
    split_ifs with hstatus hother
    · constructor
      · simp
      · rintro ⟨row, hrow, hat, hstands⟩
        rw [h.eq_of_findRun hfind row hrow hat] at hstands
        exact absurd hstands.status hstatus
    · -- two runs of one bot would take it
      simp only [List.any_eq_true, decide_eq_true_eq] at hother
      obtain ⟨other, hotherMem, hbot, hne, hrunning⟩ := hother
      have hsame := h.oneActive.single other hotherMem run hmem hbot (Or.inr hrunning)
        (Or.inl (not_not.mp hstatus))
      exact absurd (hsame.trans hid) hne
    · exact ⟨fun _ => ⟨run, hmem, hid, h.standsAt hmem (not_not.mp hstatus)⟩, fun _ => rfl⟩

end OrderlyRuns

theorem orderlyRuns_run (p : Platform) (ctx : DecimalContext) (botIds : List String)
    (calls : List Call) : OrderlyRuns p (runCalls p ctx calls (empty botIds)) :=
  runCalls_preserves (OrderlyRuns p) (fun _ => True)
    (fun s call _ h => h.step (runEffect p ctx s call)) calls (fun _ _ => trivial)
    (orderlyRuns_empty p botIds)

theorem OrderlyRuns.continues_run (h : OrderlyRuns p s) (calls : List Call) :
    Continues StrategyRun.GoesOn s.strategyRuns (runCalls p ctx calls s).strategyRuns := by
  induction calls generalizing s with
  | nil => exact .of_subset StrategyRun.GoesOn.refl fun _ => id
  | cons call rest ih =>
      have heffect := runEffect p ctx s call
      exact (h.continues heffect).trans StrategyRun.GoesOn.trans (ih (h.step heffect))

/-- From empty tables on, every list of calls leaves each bot with one active run at most and
each run with its count of intents; every run goes on in the rows of every longer list of
calls; and a call to start a run is answered with it exactly when the run is only created. -/
theorem lifecycle_runCalls (p : Platform) (ctx : DecimalContext) (botIds : List String)
    (calls later : List Call) :
    OrderlyRuns p (runCalls p ctx calls (empty botIds)) ∧
      Continues StrategyRun.GoesOn (runCalls p ctx calls (empty botIds)).strategyRuns
        (runCalls p ctx (calls ++ later) (empty botIds)).strategyRuns ∧
      ∀ runId, (Call.startStrategyRun runId).outcome p ctx (runCalls p ctx calls (empty botIds)) =
          .started ↔
        ∃ run ∈ (runCalls p ctx calls (empty botIds)).strategyRuns,
          run.runId = runId ∧ run.StandsAt .created := by
  have horderly := orderlyRuns_run p ctx botIds calls
  refine ⟨horderly, ?_, fun runId => horderly.started_iff runId⟩
  have hsplit : runCalls p ctx (calls ++ later) (empty botIds) =
      runCalls p ctx later (runCalls p ctx calls (empty botIds)) := by
    rw [runCalls, List.foldl_append]
    rfl
  rw [hsplit]
  exact horderly.continues_run later

end Lifecycle

end MemoryStore

end TradingPlatform.Storage

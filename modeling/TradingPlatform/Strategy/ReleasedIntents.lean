import TradingPlatform.Storage.IntentStatus
import TradingPlatform.Strategy.RuntimeLoader

/-! # Intents that are let go

The loader takes an intent for active while it is created or submitted. An order
does not change that, and of all that happens to an order only a fill does: the
one that leaves every order of the intent filled.
-/

namespace TradingPlatform.Strategy

open Storage MemoryStore

section Specification

/-- The intent is in the store, and the loader does not take it for active. -/
def LetGo (s : MemoryStore) (intentId : String) : Prop :=
  ∃ intent ∈ s.orderIntents, intent.intentId = intentId ∧ intent.status ∉ activeIntentStatuses

/-- The call creates the intent in a status that is not active, or records the fill that
leaves all its orders filled. -/
def LetsGo (p : Platform) (ctx : DecimalContext) (intentId : String) (s : MemoryStore) :
    Call → Prop
  | .createOrderIntent new => (s.findRun new.strategyRunId).isSome ∧ p.uuid s.serial = intentId ∧
      new.status ∉ activeIntentStatuses
  | .createFill new => ∃ order, FillsLast ctx s new order ∧ order.orderIntentId = intentId
  | _ => False

/-- Intents have identifiers of their own. -/
structure IssuedIntents (p : Platform) (s : MemoryStore) : Prop where
  issued : ∀ intent ∈ s.orderIntents, ∃ n < s.serial, intent.intentId = p.uuid n
  nodup : (s.orderIntents.map OrderIntent.intentId).Nodup

end Specification

section Identifiers

variable {p : Platform} {ctx : DecimalContext} {s s' : MemoryStore}

@[simp] theorem setIntentStatus_intentIds (id : String) (f : String → String) :
    (s.setIntentStatus id f).orderIntents.map OrderIntent.intentId =
      s.orderIntents.map OrderIntent.intentId := by
  simp only [setIntentStatus, List.map_map]
  refine List.map_congr_left fun intent _ => ?_
  dsimp only [Function.comp_apply]
  split_ifs <;> rfl

theorem addFill_intentIds (fill : Fill) :
    (s.addFill fill).orderIntents.map OrderIntent.intentId =
      s.orderIntents.map OrderIntent.intentId := by
  let restamped := s.setOrderStatus fill.orderId fill.orderStatus fill.createdAt
  have hintents : (s.addFill fill).orderIntents =
      (restamped.settleIntent fill.orderIntentId).orderIntents := rfl
  rw [hintents, settleIntent_eq, setIntentStatus_intentIds]
  rfl

theorem IssuedIntents.of_sameIds (hissued : IssuedIntents p s)
    (hids : s'.orderIntents.map OrderIntent.intentId = s.orderIntents.map OrderIntent.intentId)
    (hserial : s.serial ≤ s'.serial) : IssuedIntents p s' := by
  refine ⟨fun intent hintent => ?_, hids ▸ hissued.nodup⟩
  have hid := hids ▸ List.mem_map_of_mem (f := OrderIntent.intentId) hintent
  obtain ⟨row, hrow, hsame⟩ := List.mem_map.mp hid
  obtain ⟨n, hn, hrowId⟩ := hissued.issued row hrow
  exact ⟨n, hn.trans_le hserial, hsame ▸ hrowId⟩

/-- The next identifier is none of the intents'. -/
theorem IssuedIntents.fresh (hissued : IssuedIntents p s) :
    ∀ intent ∈ s.orderIntents, intent.intentId ≠ p.uuid s.serial := by
  intro intent hintent heq
  obtain ⟨n, hn, hid⟩ := hissued.issued intent hintent
  have hserial := p.uuid_injective (hid.symm.trans heq)
  omega

theorem IssuedIntents.add (hissued : IssuedIntents p s) {intent : OrderIntent}
    (hid : intent.intentId = p.uuid s.serial)
    (hintents : s'.orderIntents = s.orderIntents ++ [intent]) (hserial : s.serial < s'.serial) :
    IssuedIntents p s' := by
  refine ⟨fun other hother => ?_, ?_⟩
  · rw [hintents] at hother
    rcases List.mem_append.mp hother with hold | hnew
    · obtain ⟨n, hn, hotherId⟩ := hissued.issued other hold
      exact ⟨n, hn.trans hserial, hotherId⟩
    · obtain rfl := List.mem_singleton.mp hnew
      exact ⟨s.serial, hserial, hid⟩
  · rw [hintents, List.map_append, List.nodup_append]
    refine ⟨hissued.nodup, by simp, fun one hone other hother heq => ?_⟩
    obtain ⟨row, hrow, rfl⟩ := List.mem_map.mp hone
    rw [List.map_singleton, List.mem_singleton, hid] at hother
    exact hissued.fresh row hrow (heq.trans hother)

theorem IssuedIntents.step (hissued : IssuedIntents p s) (hstep : Step p ctx s s') :
    IssuedIntents p s' := by
  cases hstep with
  | createStrategyRun botId strategyName mode =>
      unfold MemoryStore.createStrategyRun
      split
      · exact hissued
      · split
        · exact hissued
        · exact hissued.of_sameIds rfl (Nat.le_succ _)
  | startStrategyRun runId =>
      unfold MemoryStore.startStrategyRun
      split
      · exact hissued
      · split_ifs
        · exact hissued
        · exact hissued
        · exact hissued.of_sameIds rfl (Nat.le_succ _)
  | stopStrategyRun runId =>
      unfold MemoryStore.stopStrategyRun
      split
      · exact hissued
      · split_ifs
        · exact hissued
        · exact hissued.of_sameIds rfl (Nat.le_succ _)
  | createOrderIntent new =>
      unfold MemoryStore.createOrderIntent
      split
      · exact hissued
      · exact hissued.add rfl rfl (Nat.lt_succ_self _)
  | createOrder new =>
      rcases createOrder_cases p new s with ⟨intent, -, -, -, -, hcreated⟩ | ⟨-, hsame⟩
      · rw [hcreated]
        exact hissued.of_sameIds (setIntentStatus_intentIds _ _) (Nat.le_succ _)
      · rw [hsame]
        exact hissued
  | updateOrderStatus orderId status =>
      unfold MemoryStore.updateOrderStatus
      split
      · exact hissued
      · dsimp only
        split_ifs
        · exact hissued
        · exact hissued
        · exact hissued.of_sameIds rfl (Nat.le_succ _)
        · exact hissued
  | createFill new =>
      rcases createFill_cases p ctx new s with ⟨order, status, -, -, -, hcreated⟩ | ⟨-, hsame⟩
      · rw [hcreated]
        exact hissued.of_sameIds (addFill_intentIds _) (Nat.le_succ _)
      · rw [hsame]
        exact hissued

theorem issuedIntents_of_reachable (hreach : Reachable p ctx s) : IssuedIntents p s := by
  induction hreach with
  | empty botIds => exact ⟨by simp [MemoryStore.empty], List.nodup_nil⟩
  | step _ hstep ih => exact ih.step hstep

theorem exists_run_of_mem_map {runId : String} {f : StrategyRun → StrategyRun}
    {run : StrategyRun} {rows : List StrategyRun}
    (hrun : run ∈ rows.map fun row => if row.runId = runId then f row else row)
    (hf : ∀ run, (f run).runId = run.runId) :
    ∃ row ∈ rows, run.runId = row.runId := by
  obtain ⟨row, hrow, rfl⟩ := List.mem_map.mp hrun
  refine ⟨row, hrow, ?_⟩
  split_ifs
  · exact hf row
  · rfl

/-- Runs after a step are runs before it, or have the next identifier. -/
theorem exists_run_of_step (hstep : Step p ctx s s') {run : StrategyRun}
    (hrun : run ∈ s'.strategyRuns) :
    (∃ row ∈ s.strategyRuns, run.runId = row.runId) ∨ run.runId = p.uuid s.serial := by
  have hsame : run ∈ s.strategyRuns → ∃ row ∈ s.strategyRuns, run.runId = row.runId :=
    fun hmem => ⟨run, hmem, rfl⟩
  cases hstep with
  | createStrategyRun botId strategyName mode =>
      unfold MemoryStore.createStrategyRun at hrun
      split at hrun
      · exact Or.inl (hsame hrun)
      · split at hrun
        · exact Or.inl (hsame hrun)
        · rcases List.mem_append.mp hrun with hold | hnew
          · exact Or.inl (hsame hold)
          · rw [List.mem_singleton.mp hnew]
            exact Or.inr rfl
  | startStrategyRun runId =>
      unfold MemoryStore.startStrategyRun at hrun
      split at hrun
      · exact Or.inl (hsame hrun)
      · split_ifs at hrun
        · exact Or.inl (hsame hrun)
        · exact Or.inl (hsame hrun)
        · dsimp only [updateRun] at hrun
          exact Or.inl (exists_run_of_mem_map hrun fun _ => rfl)
  | stopStrategyRun runId =>
      unfold MemoryStore.stopStrategyRun at hrun
      split at hrun
      · exact Or.inl (hsame hrun)
      · split_ifs at hrun
        · exact Or.inl (hsame hrun)
        · dsimp only [updateRun] at hrun
          exact Or.inl (exists_run_of_mem_map hrun fun _ => rfl)
  | createOrderIntent new =>
      unfold MemoryStore.createOrderIntent at hrun
      split at hrun
      · exact Or.inl (hsame hrun)
      · dsimp only [updateRun] at hrun
        exact Or.inl (exists_run_of_mem_map hrun fun _ => rfl)
  | createOrder new =>
      rcases createOrder_cases p new s with ⟨intent, -, -, -, -, hcreated⟩ | ⟨-, hkept⟩
      · rw [hcreated] at hrun
        exact Or.inl (hsame hrun)
      · rw [hkept] at hrun
        exact Or.inl (hsame hrun)
  | updateOrderStatus orderId status =>
      unfold MemoryStore.updateOrderStatus at hrun
      split at hrun
      · exact Or.inl (hsame hrun)
      · dsimp only at hrun
        split_ifs at hrun <;> exact Or.inl (hsame hrun)
  | createFill new =>
      rcases createFill_cases p ctx new s with ⟨order, status, -, -, -, hcreated⟩ | ⟨-, hkept⟩
      · rw [hcreated] at hrun
        exact Or.inl (hsame hrun)
      · rw [hkept] at hrun
        exact Or.inl (hsame hrun)

/-- The runs of a reachable store are named. -/
theorem runId_ne_empty (hreach : Reachable p ctx s) :
    ∀ run ∈ s.strategyRuns, run.runId ≠ "" := by
  induction hreach with
  | empty botIds => simp [MemoryStore.empty]
  | @step s s' _ hstep ih =>
      intro run hrun
      rcases exists_run_of_step hstep hrun with ⟨row, hrow, hid⟩ | hid
      · rw [hid]
        exact ih row hrow
      · intro hempty
        have hplain := p.uuid_plain s.serial
        rw [← hid, hempty] at hplain
        revert hplain
        decide

/-- An intent of a store is let go exactly when its own status is not active. -/
theorem IssuedIntents.letGo_iff (hissued : IssuedIntents p s) {intent : OrderIntent}
    (hintent : intent ∈ s.orderIntents) :
    LetGo s intent.intentId ↔ intent.status ∉ activeIntentStatuses := by
  constructor
  · rintro ⟨other, hother, hid, hstatus⟩
    rwa [← List.inj_on_of_nodup_map hissued.nodup hother hintent hid]
  · exact fun hstatus => ⟨intent, hintent, rfl, hstatus⟩

end Identifiers

section Steps

variable {p : Platform} {ctx : DecimalContext} {s s' : MemoryStore} {intentId : String}

theorem submittedStatus_mem_active {status : String} :
    submittedStatus status ∈ activeIntentStatuses ↔ status ∈ activeIntentStatuses := by
  unfold submittedStatus
  split_ifs with hcreated
  · rw [hcreated]
    decide
  · exact Iff.rfl

theorem letGo_of_sameIntents (hintents : s'.orderIntents = s.orderIntents) :
    LetGo s' intentId ↔ LetGo s intentId := by
  unfold LetGo
  rw [hintents]

/-- A change of status that leaves active intents active lets none go. -/
theorem letGo_setIntentStatus_iff {id : String} {f : String → String}
    (hactive : ∀ status, f status ∈ activeIntentStatuses ↔ status ∈ activeIntentStatuses) :
    LetGo (s.setIntentStatus id f) intentId ↔ LetGo s intentId := by
  constructor
  · rintro ⟨intent, hintent, hid, hstatus⟩
    obtain ⟨row, hrow, ⟨-, rfl⟩ | ⟨-, rfl⟩⟩ := exists_intent_of_mem_setIntentStatus hintent
    · exact ⟨row, hrow, hid, (hactive _).not.mp hstatus⟩
    · exact ⟨intent, hrow, hid, hstatus⟩
  · rintro ⟨intent, hintent, hid, hstatus⟩
    refine ⟨_, List.mem_map.mpr ⟨intent, hintent, rfl⟩, ?_⟩
    split_ifs
    · exact ⟨hid, (hactive _).not.mpr hstatus⟩
    · exact ⟨hid, hstatus⟩

/-- A change of status that makes an intent inactive lets that intent go. -/
theorem letGo_setIntentStatus_iff_or {id status : String}
    (hinactive : status ∉ activeIntentStatuses)
    (hknown : ∃ intent ∈ s.orderIntents, intent.intentId = id) :
    LetGo (s.setIntentStatus id fun _ => status) intentId ↔ LetGo s intentId ∨ id = intentId := by
  constructor
  · rintro ⟨intent, hintent, hid, hstatus⟩
    obtain ⟨row, hrow, ⟨hrowId, rfl⟩ | ⟨-, rfl⟩⟩ := exists_intent_of_mem_setIntentStatus hintent
    · exact Or.inr (hrowId.symm.trans hid)
    · exact Or.inl ⟨intent, hrow, hid, hstatus⟩
  · rintro (⟨intent, hintent, hid, hstatus⟩ | rfl)
    · refine ⟨_, List.mem_map.mpr ⟨intent, hintent, rfl⟩, ?_⟩
      split_ifs
      · exact ⟨hid, hinactive⟩
      · exact ⟨hid, hstatus⟩
    · obtain ⟨intent, hintent, hid⟩ := hknown
      exact ⟨_, mem_setIntentStatus hintent hid, hid, hinactive⟩

theorem letGo_createOrderIntent_iff {new : NewOrderIntent} :
    LetGo (MemoryStore.createOrderIntent p new s).2 intentId ↔
      LetGo s intentId ∨ LetsGo p ctx intentId s (.createOrderIntent new) := by
  unfold MemoryStore.createOrderIntent LetsGo
  cases hrun : s.findRun new.strategyRunId with
  | none => simp [hrun]
  | some run =>
      simp only [LetGo, List.mem_append, List.mem_singleton, hrun, Option.isSome_some, true_and]
      constructor
      · rintro ⟨intent, hold | rfl, hid, hstatus⟩
        · exact Or.inl ⟨intent, hold, hid, hstatus⟩
        · exact Or.inr ⟨hid, hstatus⟩
      · rintro (⟨intent, hold, hid, hstatus⟩ | ⟨hid, hstatus⟩)
        · exact ⟨intent, Or.inl hold, hid, hstatus⟩
        · exact ⟨_, Or.inr rfl, hid, hstatus⟩

theorem letGo_createFill_iff {new : NewFill}
    (hkeeps : ∀ order ∈ s.orders, s.KeepsToIntent order) :
    LetGo (MemoryStore.createFill p ctx new s).2 intentId ↔
      LetGo s intentId ∨ LetsGo p ctx intentId s (.createFill new) := by
  rcases createFill_cases p ctx new s with
    ⟨order, status, horder, hfree, hstatus, hcreated⟩ | ⟨hnot, hsame⟩
  · set t := s.setOrderStatus new.orderId status (p.sampleTime s.serial) with ht
    have htakes := takesFill_of_fillStatus horder hfree hstatus
    have hlast : LetsGo p ctx intentId s (.createFill new) ↔
        FillsLast ctx s new order ∧ order.orderIntentId = intentId := by
      refine ⟨?_, fun hlast => ⟨order, hlast⟩⟩
      rintro ⟨other, hlast, hid⟩
      obtain rfl := Option.some.inj (horder.symm.trans hlast.found)
      exact ⟨hlast, hid⟩
    have hintents : (MemoryStore.createFill p ctx new s).2.orderIntents =
        (t.settleIntent order.orderIntentId).orderIntents := by
      rw [hcreated]
      rfl
    have hsettled : Settled t order.orderIntentId ↔ FillsLast ctx s new order :=
      settled_setOrderStatus_iff htakes hstatus
    rw [letGo_of_sameIntents hintents, settleIntent_eq, hlast, ← hsettled]
    by_cases hdone : Settled t order.orderIntentId
    · have hknown : ∃ intent ∈ t.orderIntents, intent.intentId = order.orderIntentId := by
        obtain ⟨intent, hintent, -⟩ := hkeeps order (findOrder_mem horder)
        exact ⟨intent, List.mem_of_find?_eq_some hintent, by
          simpa using List.find?_some hintent⟩
      have hsimulated : (fun status : String =>
          if Settled t order.orderIntentId then "simulated" else submittedStatus status) =
          fun _ => "simulated" := funext fun _ => if_pos hdone
      rw [hsimulated, letGo_setIntentStatus_iff_or (by decide) hknown, and_iff_right hdone]
      exact or_congr_left (letGo_of_sameIntents rfl)
    · have hsubmitted : (fun status : String =>
          if Settled t order.orderIntentId then "simulated" else submittedStatus status) =
          submittedStatus := funext fun _ => if_neg hdone
      rw [hsubmitted, letGo_setIntentStatus_iff fun _ => submittedStatus_mem_active,
        or_iff_left fun hboth => hdone hboth.1]
      exact letGo_of_sameIntents rfl
  · rw [hsame, iff_self_or]
    rintro ⟨order, hlast, -⟩
    refine absurd ?_ hnot
    rw [createFill_eq_created hlast.found hlast.fresh (fillStatus_of_takesFill hlast.toTakesFill)]

/-- A call lets go of an intent exactly when it creates it inactive or completes it. -/
theorem letGo_apply_iff (hkeeps : ∀ order ∈ s.orders, s.KeepsToIntent order) (call : Call) :
    LetGo (call.apply p ctx s) intentId ↔ LetGo s intentId ∨ LetsGo p ctx intentId s call := by
  have heffect := call.effect p ctx s
  cases call with
  | createStrategyRun | startStrategyRun | stopStrategyRun =>
      simp only [LetsGo, or_false]
      generalize Call.apply p ctx s _ = s' at heffect ⊢
      cases heffect with
      | refused => exact Iff.rfl
      | runs _ _ hintents => exact letGo_of_sameIntents hintents
  | createOrderIntent new => exact letGo_createOrderIntent_iff
  | createOrder new =>
      simp only [LetsGo, or_false, Call.apply]
      rcases createOrder_cases p new s with ⟨intent, -, -, -, -, hcreated⟩ | ⟨-, hsame⟩
      · rw [hcreated]
        exact letGo_setIntentStatus_iff fun _ => submittedStatus_mem_active
      · rw [hsame]
  | updateOrderStatus orderId status =>
      simp only [LetsGo, or_false]
      generalize Call.outcome p ctx s _ = outcome at heffect
      generalize Call.apply p ctx s _ = s' at heffect ⊢
      cases heffect with
      | refused => exact Iff.rfl
      | runs _ _ hintents => exact letGo_of_sameIntents hintents
      | sameStatus => exact Iff.rfl
      | status => exact letGo_of_sameIntents rfl
  | createFill new => exact letGo_createFill_iff hkeeps

end Steps

end TradingPlatform.Strategy

import TradingPlatform.Recovery.Courses

/-! # Looking for a trace that blocks a bot

A scan that fails is reported, a trace that cannot be read is left out. The
lookup answers that nothing blocks the bot when all its scans succeed and every
trace that would have blocked it is lost in a read.
-/

namespace TradingPlatform.Recovery

open Programs Program TradingPlatform.Runtime RecoveryProgram

section Listing

variable {setup : RecoverySetup} {course : Course} {s : RecoveryState} {turn : Nat}

/-- Items as a listing returns them. -/
def newestFirst (limit : Nat) (items : List Dict) : List Dict :=
  (items.insertionSort fun a b => RedisRuntime.listedAt b ≤ RedisRuntime.listedAt a).take
    (max 1 (min limit 100))

theorem newestFirst_eq_nil {limit : Nat} {items : List Dict} :
    newestFirst limit items = [] ↔ items = [] := by
  have hsorted : ∀ items : List Dict, (items.insertionSort fun a b =>
      RedisRuntime.listedAt b ≤ RedisRuntime.listedAt a) = [] ↔ items = [] := by
    intro items
    rw [← List.length_eq_zero_iff, List.length_insertionSort, List.length_eq_zero_iff]
  rw [newestFirst, List.take_eq_nil_iff, hsorted]
  constructor
  · rintro (hzero | hnil)
    · omega
    · exact hnil
  · exact Or.inr

/-- The traces a listing that begins at a turn has read and kept. -/
def Course.listed (course : Course) (s : RecoveryState) (turn : Nat)
    (botId runId status : String) : List Dict :=
  (course.readTraces s (turn + 1) (course.scanned turn s)).filter
    (RedisRuntime.matchesFilters botId runId status)

theorem run_listRecoveryTraces_fails (halone : course.Undisturbed)
    (hfails : (course.around turn).redisFails = true) (limit : Nat) (botId runId status : String) :
    course.run setup (listRecoveryTraces limit botId runId status) (s, turn) =
      (.ok none, s, turn + 1) := by
  have hscan := @Course.run_operation_undisturbed setup course s turn halone
    .scanTraces
  have hreply : (RecoveryOp.scanTraces.exec setup (course.around turn) s) = (none, s) := by
    simp [RecoveryOp.exec, hfails]
  rw [hreply] at hscan
  exact run_bind_ok hscan

/-- Where a listing ends whose scan succeeds. -/
def Course.afterList (course : Course) (s : RecoveryState) (turn : Nat) : Nat :=
  turn + 1 + (course.scanned turn s).length

/-- A listing ends before the traces are sorted when one of them cannot be dated. -/
theorem run_listRecoveryTraces (halone : course.Undisturbed)
    (hscans : (course.around turn).redisFails = false) (limit : Nat)
    (botId runId status : String) :
    course.run setup (listRecoveryTraces limit botId runId status) (s, turn) =
      (if (course.listed s turn botId runId status).any RedisRuntime.listedDateOverflows then
          .error dateOverflow
        else .ok (some (newestFirst limit (course.listed s turn botId runId status))), s,
        course.afterList s turn) := by
  have hscan := @Course.run_operation_undisturbed setup course s turn halone
    .scanTraces
  have hreply : (RecoveryOp.scanTraces.exec setup (course.around turn) s) =
      (some (course.scanned turn s), s) := by
    simp [RecoveryOp.exec, hscans, Course.scanned]
  rw [hreply] at hscan
  have hcollect := @Course.run_collect setup course s (turn + 1) halone
    (course.scanned turn s)
  unfold Course.run at hscan hcollect ⊢
  rw [listRecoveryTraces]
  refine (run_bind_ok hscan).trans ?_
  refine (run_bind_ok hcollect).trans ?_
  rw [← Course.listed, Course.afterList]
  cases hundated : (course.listed s turn botId runId status).any
    RedisRuntime.listedDateOverflows with
  | true =>
      dsimp only
      rw [if_pos hundated]
      rfl
  | false =>
      dsimp only
      rw [if_neg (by rw [hundated]; exact Bool.false_ne_true)]
      rfl

end Listing

section Blocking

variable {setup : RecoverySetup} {course : Course} {s : RecoveryState} {botId : String}

/-- The turn at which a lookup begins its second listing. -/
def Course.secondListing (course : Course) (s : RecoveryState) : Nat :=
  1 + (course.scanned 0 s).length

/-- A scan of the lookup fails, or a trace that blocks the bot is read in the listing
of its status. -/
def Course.ReadsBlocking (course : Course) (s : RecoveryState) (botId : String) : Prop :=
  (course.around 0).redisFails = true ∨
  course.Reads s 1 (course.scanned 0 s)
    (RedisRuntime.matchesFilters botId "" "handoff_required") ∨
  (course.around (course.secondListing s)).redisFails = true ∨
  course.Reads s (course.secondListing s + 1) (course.scanned (course.secondListing s) s)
    (RedisRuntime.matchesFilters botId "" "active")

/-- What a lookup chooses among the traces it has listed. -/
def latestBlocking (handoffs actives : List Dict) : Option Dict :=
  ((newestFirst 10 handoffs ++ newestFirst 10 actives).insertionSort fun a b =>
    RedisRuntime.listedAt b ≤ RedisRuntime.listedAt a).head?

theorem latestBlocking_eq_none {handoffs actives : List Dict} :
    latestBlocking handoffs actives = none ↔ handoffs = [] ∧ actives = [] := by
  rw [latestBlocking, List.head?_eq_none_iff, ← List.length_eq_zero_iff,
    List.length_insertionSort, List.length_eq_zero_iff, List.append_eq_nil_iff,
    newestFirst_eq_nil, newestFirst_eq_nil]

/-- A lookup whose scans succeed raises when a trace it has listed cannot be dated. -/
theorem run_getBlockingRecoveryTrace {turn : Nat} {runId : String} (halone : course.Undisturbed)
    (hfirst : (course.around turn).redisFails = false)
    (hsecond : (course.around (course.afterList s turn)).redisFails = false) :
    ∃ after, course.run setup (getBlockingRecoveryTrace botId runId) (s, turn) =
      (if (course.listed s turn botId runId "handoff_required").any
            RedisRuntime.listedDateOverflows ||
          (course.listed s (course.afterList s turn) botId runId "active").any
            RedisRuntime.listedDateOverflows then .error dateOverflow
        else .ok (latestBlocking (course.listed s turn botId runId "handoff_required")
          (course.listed s (course.afterList s turn) botId runId "active")), s, after) := by
  have hhandoffs := @run_listRecoveryTraces setup course s _ halone hfirst 10 botId runId
    "handoff_required"
  have hactives := @run_listRecoveryTraces setup course s _ halone hsecond 10 botId runId
    "active"
  unfold Course.run at hhandoffs hactives ⊢
  rw [getBlockingRecoveryTrace]
  cases hundated : (course.listed s turn botId runId "handoff_required").any
      RedisRuntime.listedDateOverflows with
  | true =>
      rw [hundated, if_pos rfl] at hhandoffs
      exact ⟨_, run_bind_error hhandoffs⟩
  | false =>
      rw [hundated, if_neg Bool.false_ne_true] at hhandoffs
      rw [run_bind_ok hhandoffs, Bool.false_or]
      dsimp only
      cases hlater : (course.listed s (course.afterList s turn) botId runId "active").any
          RedisRuntime.listedDateOverflows with
      | true =>
          rw [hlater, if_pos rfl] at hactives
          exact ⟨_, run_bind_error hactives⟩
      | false =>
          rw [hlater, if_neg Bool.false_ne_true] at hactives
          exact ⟨_, run_bind_ok hactives⟩

/-- What a listing has read and kept was read for one of the keys. -/
theorem reads_of_mem_listed {turn : Nat} {runId status : String} {trace : Dict}
    (hmem : trace ∈ course.listed s turn botId runId status) :
    course.Reads s (turn + 1) (course.scanned turn s)
      (RedisRuntime.matchesFilters botId runId status) :=
  Course.filter_readTraces_ne_nil.mp (List.ne_nil_of_mem hmem)

/-- The lookup answers that nothing blocks the bot exactly when its scans succeed and
no blocking trace is read. -/
theorem getBlockingRecoveryTrace_none_iff (halone : course.Undisturbed) :
    (course.run setup (getBlockingRecoveryTrace botId "") (s, 0)).1 = .ok none ↔
      ¬ course.ReadsBlocking s botId := by
  have hlater : course.afterList s 0 = course.secondListing s := by
    rw [Course.afterList, Course.secondListing, Nat.zero_add]
  cases hfirst : (course.around 0).redisFails with
  | true =>
      have hlist := @run_listRecoveryTraces_fails setup course s _ halone hfirst 10 botId ""
        "handoff_required"
      unfold Course.run at hlist ⊢
      rw [getBlockingRecoveryTrace, run_bind_ok hlist]
      simp [Course.ReadsBlocking, hfirst]
  | false =>
      cases hsecond : (course.around (course.secondListing s)).redisFails with
      | true =>
          refine iff_of_false (fun hnone => ?_) (not_not_intro (by simp [Course.ReadsBlocking,
            hsecond]))
          have hhandoffs := @run_listRecoveryTraces setup course s _ halone hfirst 10
            botId "" "handoff_required"
          have hactives := @run_listRecoveryTraces_fails setup course s _ halone hsecond 10
            botId "" "active"
          rw [hlater] at hhandoffs
          unfold Course.run at hhandoffs hactives hnone
          rw [getBlockingRecoveryTrace] at hnone
          split at hhandoffs
          · rw [run_bind_error hhandoffs] at hnone
            cases hnone
          · rw [run_bind_ok hhandoffs] at hnone
            dsimp only at hnone
            rw [run_bind_ok hactives] at hnone
            cases hnone
      | false =>
          obtain ⟨after, hrun⟩ := @run_getBlockingRecoveryTrace setup course s botId 0 "" halone
            hfirst (by rwa [hlater])
          rw [hrun, hlater]
          split
          next hundated =>
            refine iff_of_false (by simp) (not_not_intro ?_)
            rcases Bool.or_eq_true_iff.mp hundated with hundated | hundated
            · obtain ⟨trace, hmem, -⟩ := List.any_eq_true.mp hundated
              exact Or.inr (Or.inl (reads_of_mem_listed hmem))
            · obtain ⟨trace, hmem, -⟩ := List.any_eq_true.mp hundated
              exact Or.inr (Or.inr (Or.inr (reads_of_mem_listed hmem)))
          next =>
            rw [Except.ok.injEq, latestBlocking_eq_none]
            simp only [Course.ReadsBlocking, hfirst, hsecond, Bool.false_eq_true, false_or, not_or]
            rw [Course.listed, Course.listed, ← Course.filter_readTraces_ne_nil,
              ← Course.filter_readTraces_ne_nil, not_not, not_not]

/-- A bot with an open trace is never told that nothing blocks it, whatever commands fail. -/
def LookupFailsClosed (setup : RecoverySetup) (around : Nat → Surroundings) (s : RecoveryState)
    (botId : String) : Prop :=
  s.redis.HasOpenTrace botId →
    (Course.run setup { around := around } (getBlockingRecoveryTrace botId "") (s, 0)).1 ≠ .ok none

/-- The lookup is fail-closed exactly when the reads do not lose every blocking trace. -/
theorem lookupFailsClosed_iff (setup : RecoverySetup) (around : Nat → Surroundings)
    (s : RecoveryState) (botId : String) :
    LookupFailsClosed setup around s botId ↔
      (s.redis.HasOpenTrace botId → Course.ReadsBlocking { around := around } s botId) := by
  apply forall_congr'
  intro _
  have halone : Course.Undisturbed { around := around } := fun _ _ => rfl
  rw [ne_eq, getBlockingRecoveryTrace_none_iff halone, not_not]

/-- The traces of a bot with one active trace. -/
def oneActive : RecoveryState where
  redis := RedisRuntime.empty.syncRecoveryTrace "rt_1"
    [("bot_id", .str "bot"), ("status", .str "active")] "2024-01-01T00:00:00Z"
  store := Storage.MemoryStore.empty ["bot"]

/-- The read of the only trace fails once, between scans that succeed. -/
theorem not_lookupFailsClosed : ¬ ∀ (setup : RecoverySetup) (around : Nat → Surroundings)
    (s : RecoveryState) (botId : String), Course.ScansAll { around := around } →
      LookupFailsClosed setup around s botId := by
  intro hall
  have hclosed := hall ⟨.ofConfig 30 15 3 15, .default, .counting, true⟩
    (fun turn => { redisFails := turn = 3 }) oneActive "bot" (fun _ _ => List.Subset.refl _)
    ⟨"rt_1", _, RedisRuntime.getRecoveryTrace_syncRecoveryTrace _ _ _ _,
      by decide +kernel, Or.inl (by decide +kernel)⟩
  have hnone : ((Course.run ⟨.ofConfig 30 15 3 15, .default, .counting, true⟩
      { around := fun turn => { redisFails := turn = 3 } }
      (getBlockingRecoveryTrace "bot" "") (oneActive, 0)).1.toOption.any Option.isNone) = true := by
    decide +kernel
  revert hclosed hnone
  generalize (Course.run _ _ (getBlockingRecoveryTrace "bot" "") (oneActive, 0)).1 = answer
  intro hclosed hnone
  cases answer with
  | error text => exact absurd hnone Bool.false_ne_true
  | ok found =>
      cases found with
      | none => exact hclosed rfl
      | some trace => exact absurd hnone Bool.false_ne_true

end Blocking

end TradingPlatform.Recovery

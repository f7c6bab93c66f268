import Mathlib.Data.Rat.Floor
import Mathlib.Logic.Function.Basic
import TradingPlatform.Foundation.FixedRates
import TradingPlatform.Foundation.Runs
import TradingPlatform.Foundation.Text

/-! # When exchanges are fetched

A scheduler keeps for each exchange when it is due next. An exchange is due a tolerance
before its time; an attempt moves its time on, without the tolerance, along the grid
that starts at the first attempt.
-/

namespace TradingPlatform.Strategy

section Scheduler

structure ExchangeFetchScheduler where
  intervals : String → Option ℚ
  nextDueAt : String → Option ℚ

namespace ExchangeFetchScheduler

def new (intervals : String → Option ℚ) : ExchangeFetchScheduler := ⟨intervals, fun _ => none⟩

def normalized (exchange : String) : String := Text.lower (Text.strip exchange)

variable (scheduler : ExchangeFetchScheduler)

def intervalSeconds (exchange : String) : {seconds : ℚ // 0 < seconds} :=
  ⟨max ((scheduler.intervals exchange).getD 1) (1 / 10),
    lt_of_lt_of_le (by norm_num) (le_max_right _ _)⟩

def toleranceSeconds (exchange : String) : ℚ :=
  min ((scheduler.intervalSeconds exchange : ℚ) * (1 / 10)) (1 / 50)

/-- Whether an exchange, by its normalized name, is due. -/
def isDue (exchange : String) (nowMonotonic : ℚ) : Bool :=
  match scheduler.nextDueAt exchange with
  | none => true
  | some nextDueAt => nextDueAt - scheduler.toleranceSeconds exchange ≤ nowMonotonic

def dueExchanges (exchanges : List String) (nowMonotonic : ℚ) : List String :=
  (exchanges.map normalized).filter fun exchange =>
    exchange ≠ "" && scheduler.isDue exchange nowMonotonic

/-- The due time that an attempt leaves. -/
def dueAfter (exchange : String) (nowMonotonic : ℚ) : ℚ :=
  match scheduler.nextDueAt exchange with
  | none => nowMonotonic + scheduler.intervalSeconds exchange
  | some nextDueAt =>
      FixedRate.nextAfter (scheduler.intervalSeconds exchange) nowMonotonic nextDueAt

def markAttempt (exchange : String) (nowMonotonic : ℚ) : ExchangeFetchScheduler :=
  { scheduler with
    nextDueAt := Function.update scheduler.nextDueAt (normalized exchange)
      (some (scheduler.dueAfter (normalized exchange) nowMonotonic)) }

variable {scheduler} {exchange : String} {nowMonotonic : ℚ}

theorem toleranceSeconds_nonneg : 0 ≤ scheduler.toleranceSeconds exchange :=
  le_min (mul_nonneg (scheduler.intervalSeconds exchange).property.le (by norm_num)) (by norm_num)

theorem toleranceSeconds_lt :
    scheduler.toleranceSeconds exchange < scheduler.intervalSeconds exchange := by
  have hpos := (scheduler.intervalSeconds exchange).property
  have hpart := min_le_left ((scheduler.intervalSeconds exchange : ℚ) * (1 / 10)) (1 / 50)
  unfold toleranceSeconds
  linarith

theorem isDue_of_none (hnone : scheduler.nextDueAt exchange = none) :
    scheduler.isDue exchange nowMonotonic = true := by
  rw [isDue, hnone]

theorem isDue_iff {due : ℚ} (hdue : scheduler.nextDueAt exchange = some due) :
    scheduler.isDue exchange nowMonotonic = true ↔
      due ≤ nowMonotonic + scheduler.toleranceSeconds exchange := by
  rw [isDue, hdue]
  simp only [decide_eq_true_eq, sub_le_iff_le_add]

theorem le_dueAfter {due : ℚ} (hdue : scheduler.nextDueAt exchange = some due) :
    due ≤ scheduler.dueAfter exchange nowMonotonic := by
  rw [dueAfter, hdue]
  exact FixedRate.le_nextAfter _ nowMonotonic due

theorem nextDueAt_markAttempt (scheduler : ExchangeFetchScheduler) (marked : String)
    (nowMonotonic : ℚ) (exchange : String) :
    (scheduler.markAttempt marked nowMonotonic).nextDueAt exchange =
      if exchange = normalized marked then
        some (scheduler.dueAfter (normalized marked) nowMonotonic)
      else scheduler.nextDueAt exchange := by
  simp only [markAttempt, Function.update_apply]

/-- A mark changes no interval. -/
@[simp] theorem intervalSeconds_markAttempt (scheduler : ExchangeFetchScheduler) (marked : String)
    (nowMonotonic : ℚ) (exchange : String) :
    (scheduler.markAttempt marked nowMonotonic).intervalSeconds exchange =
      scheduler.intervalSeconds exchange := by
  simp only [intervalSeconds, markAttempt]

@[simp] theorem toleranceSeconds_markAttempt (scheduler : ExchangeFetchScheduler)
    (marked : String) (nowMonotonic : ℚ) (exchange : String) :
    (scheduler.markAttempt marked nowMonotonic).toleranceSeconds exchange =
      scheduler.toleranceSeconds exchange := by
  simp only [toleranceSeconds, intervalSeconds_markAttempt]

theorem nextDueAt_markAttempt_self (scheduler : ExchangeFetchScheduler) (marked : String)
    (nowMonotonic : ℚ) : (scheduler.markAttempt marked nowMonotonic).nextDueAt (normalized marked) =
      some (scheduler.dueAfter (normalized marked) nowMonotonic) := by
  rw [nextDueAt_markAttempt, if_pos rfl]

theorem mem_dueExchanges {exchanges : List String} (hmem : exchange ∈
    scheduler.dueExchanges exchanges nowMonotonic) :
    scheduler.isDue exchange nowMonotonic = true := by
  simp only [dueExchanges, List.mem_filter, Bool.and_eq_true] at hmem
  exact hmem.2.2

theorem dueExchanges_singleton_iff :
    scheduler.dueExchanges [exchange] nowMonotonic = [normalized exchange] ↔
      normalized exchange ≠ "" ∧ scheduler.isDue (normalized exchange) nowMonotonic = true := by
  rw [dueExchanges, List.map_singleton, List.filter_singleton]
  by_cases hname : normalized exchange = "" <;>
    cases scheduler.isDue (normalized exchange) nowMonotonic <;> simp [hname]

theorem dueAfter_of_none (hnone : scheduler.nextDueAt exchange = none) :
    scheduler.dueAfter exchange nowMonotonic =
      nowMonotonic + scheduler.intervalSeconds exchange := by
  rw [dueAfter, hnone]

theorem dueAfter_of_some {due : ℚ} (hdue : scheduler.nextDueAt exchange = some due) :
    scheduler.dueAfter exchange nowMonotonic =
      FixedRate.nextAfter (scheduler.intervalSeconds exchange) nowMonotonic due := by
  rw [dueAfter, hdue]

/-- An exchange that is not due is left as it is. -/
theorem dueAfter_of_not_due (hdue : scheduler.isDue exchange nowMonotonic = false) :
    scheduler.nextDueAt exchange = some (scheduler.dueAfter exchange nowMonotonic) := by
  cases hnext : scheduler.nextDueAt exchange with
  | none =>
      have hfree := @isDue_of_none scheduler exchange nowMonotonic hnext
      rw [hdue] at hfree
      cases hfree
  | some due =>
      have hahead : ¬ due ≤ nowMonotonic + scheduler.toleranceSeconds exchange := by
        rw [← isDue_iff hnext, hdue]
        simp
      have htolerance := @toleranceSeconds_nonneg scheduler exchange
      rw [dueAfter_of_some hnext, FixedRate.nextAfter_of_lt _ (by linarith)]

end ExchangeFetchScheduler

end Scheduler

section Histories

inductive SchedulerCall where
  | dueExchanges (exchanges : List String) (nowMonotonic : ℚ)
  | markAttempt (exchange : String) (nowMonotonic : ℚ)

/-- An attempt of an exchange that was due, with its due times before and after. -/
structure FetchAttempt where
  exchange : String
  markedAt : ℚ
  dueBefore : Option ℚ
  dueAfter : ℚ
deriving DecidableEq

/-- A scheduler and the attempts so far, latest first. -/
structure SchedulerHistory where
  scheduler : ExchangeFetchScheduler
  attempts : List FetchAttempt

def SchedulerHistory.start (intervals : String → Option ℚ) : SchedulerHistory :=
  ⟨.new intervals, []⟩

/-- One call. It is an attempt when the exchange is reported due where it is marked. -/
def SchedulerHistory.step (s : SchedulerHistory) : SchedulerCall → SchedulerHistory
  | .dueExchanges _ _ => s
  | .markAttempt exchange nowMonotonic =>
      let name := ExchangeFetchScheduler.normalized exchange
      { scheduler := s.scheduler.markAttempt exchange nowMonotonic
        attempts :=
          if s.scheduler.dueExchanges [exchange] nowMonotonic = [name] then
            ⟨name, nowMonotonic, s.scheduler.nextDueAt name,
              s.scheduler.dueAfter name nowMonotonic⟩ :: s.attempts
          else s.attempts }

/-- The attempts of an exchange, latest first. -/
def SchedulerHistory.attemptsOf (s : SchedulerHistory) (exchange : String) : List FetchAttempt :=
  s.attempts.filter (·.exchange = exchange)

/-- An attempt with no point of the exchange's grid in the tolerance after it. -/
def SchedulerHistory.Clear (s : SchedulerHistory) (attempt : FetchAttempt) : Prop :=
  ∀ due ∈ attempt.dueBefore, FixedRate.Clear (s.scheduler.intervalSeconds attempt.exchange)
    (s.scheduler.toleranceSeconds attempt.exchange) attempt.markedAt due

end Histories

section Attempts

open ExchangeFetchScheduler

variable {s : SchedulerHistory} {attempt : FetchAttempt}

/-- How an attempt left the due time of its exchange, which was due. -/
structure FetchAttempt.Made (scheduler : ExchangeFetchScheduler) (attempt : FetchAttempt) :
    Prop where
  first : attempt.dueBefore = none →
    attempt.dueAfter = attempt.markedAt + scheduler.intervalSeconds attempt.exchange
  later : ∀ due ∈ attempt.dueBefore, attempt.dueAfter =
    FixedRate.nextAfter (scheduler.intervalSeconds attempt.exchange) attempt.markedAt due
  wasDue : ∀ due ∈ attempt.dueBefore,
    due ≤ attempt.markedAt + scheduler.toleranceSeconds attempt.exchange

theorem made_now {scheduler : ExchangeFetchScheduler} {name : String} {nowMonotonic : ℚ}
    (hdue : scheduler.isDue name nowMonotonic = true) :
    FetchAttempt.Made scheduler ⟨name, nowMonotonic, scheduler.nextDueAt name,
      scheduler.dueAfter name nowMonotonic⟩ where
  first := dueAfter_of_none
  later _ hbefore := dueAfter_of_some hbefore
  wasDue _ hbefore := (isDue_iff hbefore).mp hdue

theorem FetchAttempt.Made.markAttempt {scheduler : ExchangeFetchScheduler}
    (hmade : attempt.Made scheduler) (marked : String) (nowMonotonic : ℚ) :
    attempt.Made (scheduler.markAttempt marked nowMonotonic) := by
  constructor
  · simpa only [intervalSeconds_markAttempt] using hmade.first
  · simpa only [intervalSeconds_markAttempt] using hmade.later
  · simpa only [toleranceSeconds_markAttempt] using hmade.wasDue

/-- What the calls keep. -/
structure SchedulerHistory.Kept (s : SchedulerHistory) : Prop where
  named : ∀ attempt ∈ s.attempts, attempt.exchange ≠ ""
  made : ∀ attempt ∈ s.attempts, attempt.Made s.scheduler
  followed : ∀ attempt ∈ s.attempts,
    ∃ due, s.scheduler.nextDueAt attempt.exchange = some due ∧ attempt.dueAfter ≤ due
  ordered : s.attempts.Pairwise fun later earlier => later.exchange = earlier.exchange →
    ∃ due ∈ later.dueBefore, earlier.dueAfter ≤ due
  grid : ∀ exchange, exchange ≠ "" → ∀ due ∈ s.scheduler.nextDueAt exchange,
    ∃ first, (s.attemptsOf exchange).getLast? = some first ∧
      ∃ k : ℕ, due = first.markedAt + (k + 1) * s.scheduler.intervalSeconds exchange

/-- A clear attempt is made at its due time or later. -/
theorem FetchAttempt.Made.over (hmade : attempt.Made s.scheduler) (hclear : s.Clear attempt)
    {due : ℚ} (hdue : due ∈ attempt.dueBefore) : due ≤ attempt.markedAt := by
  have hstart := hclear due hdue 0
  rw [Nat.cast_zero, zero_mul, add_zero] at hstart
  exact hstart.resolve_right (not_lt.mpr (hmade.wasDue due hdue))

/-- A clear attempt leaves its exchange not due. -/
theorem FetchAttempt.Made.beyond (hmade : attempt.Made s.scheduler) (hclear : s.Clear attempt) :
    attempt.markedAt + s.scheduler.toleranceSeconds attempt.exchange < attempt.dueAfter := by
  cases hbefore : attempt.dueBefore with
  | none =>
      rw [hmade.first hbefore]
      exact add_lt_add_right toleranceSeconds_lt _
  | some due =>
      rw [hmade.later due hbefore]
      exact (FixedRate.clear_iff _).mp (hclear due hbefore)

/-- The interval an attempt is taken in starts before it. -/
theorem FetchAttempt.Made.slot_le (hmade : attempt.Made s.scheduler) (hclear : s.Clear attempt) :
    attempt.dueAfter ≤ attempt.markedAt + s.scheduler.intervalSeconds attempt.exchange := by
  cases hbefore : attempt.dueBefore with
  | none => exact (hmade.first hbefore).le
  | some due =>
      rw [hmade.later due hbefore]
      exact FixedRate.nextAfter_le _ (hmade.over hclear hbefore)

theorem kept_start (intervals : String → Option ℚ) : (SchedulerHistory.start intervals).Kept := by
  refine ⟨?_, ?_, ?_, List.Pairwise.nil, fun exchange _ due hdue => ?_⟩
  · intro attempt hattempt
    cases hattempt
  · intro attempt hattempt
    cases hattempt
  · intro attempt hattempt
    cases hattempt
  · cases hdue

theorem SchedulerHistory.Kept.attemptsOf_eq_nil (hkept : s.Kept) {exchange : String}
    (hnone : s.scheduler.nextDueAt exchange = none) : s.attemptsOf exchange = [] := by
  rw [SchedulerHistory.attemptsOf, List.filter_eq_nil_iff]
  intro attempt hattempt hsame
  obtain ⟨due, hdue, -⟩ := hkept.followed attempt hattempt
  rw [of_decide_eq_true hsame, hnone] at hdue
  cases hdue

/-- An attempt starts the grid of its exchange or moves on along it. -/
theorem SchedulerHistory.Kept.grid_attempted (hkept : s.Kept) (marked : String)
    (nowMonotonic : ℚ) (exchange : String) (hname : exchange ≠ "") :
    ∀ due ∈ (s.scheduler.markAttempt marked nowMonotonic).nextDueAt exchange,
      ∃ first, (List.filter (·.exchange = exchange) (⟨normalized marked, nowMonotonic,
          s.scheduler.nextDueAt (normalized marked),
          s.scheduler.dueAfter (normalized marked) nowMonotonic⟩ :: s.attempts)).getLast? =
            some first ∧
        ∃ k : ℕ, due = first.markedAt + (k + 1) *
          (s.scheduler.markAttempt marked nowMonotonic).intervalSeconds exchange := by
  intro due hdue
  rw [nextDueAt_markAttempt] at hdue
  rw [intervalSeconds_markAttempt]
  split at hdue
  next hsame =>
    rw [Option.mem_some_iff] at hdue
    rw [List.filter_cons_of_pos (by simp [hsame]), ← hsame]
    rw [← hsame] at hdue
    cases hnext : s.scheduler.nextDueAt exchange with
    | none =>
        have hempty := hkept.attemptsOf_eq_nil hnext
        rw [SchedulerHistory.attemptsOf] at hempty
        rw [hempty]
        refine ⟨_, List.getLast?_singleton, 0, ?_⟩
        rw [← hdue, dueAfter_of_none hnext, Nat.cast_zero, zero_add, one_mul]
    | some old =>
        obtain ⟨first, hfirst, k, hk⟩ := hkept.grid exchange hname old hnext
        obtain ⟨moved, hmoved⟩ := FixedRate.exists_nextAfter_eq
          (s.scheduler.intervalSeconds exchange) nowMonotonic old
        rw [SchedulerHistory.attemptsOf] at hfirst
        refine ⟨first, by rw [List.getLast?_cons, hfirst, Option.getD_some], k + moved, ?_⟩
        rw [← hdue, dueAfter_of_some hnext, hmoved, hk]
        push_cast
        ring
  next hother =>
    rw [List.filter_cons_of_neg (by simpa using Ne.symm hother)]
    exact hkept.grid exchange hname due hdue

/-- The due times that a mark leaves, when the exchange was due and when it was not. -/
theorem SchedulerHistory.Kept.markAttempt (hkept : s.Kept) (marked : String) (nowMonotonic : ℚ) :
    (s.step (.markAttempt marked nowMonotonic)).Kept := by
  have hfollowed : ∀ attempt ∈ s.attempts, ∃ due,
      (s.scheduler.markAttempt marked nowMonotonic).nextDueAt attempt.exchange = some due ∧
        attempt.dueAfter ≤ due := by
    intro attempt hattempt
    obtain ⟨due, hdue, hle⟩ := hkept.followed attempt hattempt
    rw [nextDueAt_markAttempt]
    split
    next hsame =>
      rw [hsame] at hdue
      exact ⟨_, rfl, hle.trans (le_dueAfter hdue)⟩
    next => exact ⟨due, hdue, hle⟩
  simp only [SchedulerHistory.step, dueExchanges_singleton_iff]
  split
  next hattempted =>
    obtain ⟨hname, hdue⟩ := hattempted
    refine ⟨?_, ?_, ?_, List.pairwise_cons.mpr ⟨?_, hkept.ordered⟩, ?_⟩
    · intro attempt hattempt
      rcases List.mem_cons.mp hattempt with rfl | hold
      · exact hname
      · exact hkept.named attempt hold
    · intro attempt hattempt
      rcases List.mem_cons.mp hattempt with rfl | hold
      · exact (made_now hdue).markAttempt marked nowMonotonic
      · exact (hkept.made attempt hold).markAttempt marked nowMonotonic
    · intro attempt hattempt
      rcases List.mem_cons.mp hattempt with rfl | hold
      · exact ⟨s.scheduler.dueAfter (normalized marked) nowMonotonic,
          nextDueAt_markAttempt_self s.scheduler marked nowMonotonic, le_rfl⟩
      · exact hfollowed attempt hold
    · intro earlier hearlier hsame
      obtain ⟨due, hbefore, hle⟩ := hkept.followed earlier hearlier
      dsimp only at hsame
      exact ⟨due, by rw [hsame]; exact hbefore, hle⟩
    · exact hkept.grid_attempted marked nowMonotonic
  next hnot =>
    refine ⟨hkept.named, fun attempt hattempt => ?_, hfollowed, hkept.ordered, ?_⟩
    · exact (hkept.made attempt hattempt).markAttempt marked nowMonotonic
    · intro exchange hname due hdue
      have hsame : (s.scheduler.markAttempt marked nowMonotonic).nextDueAt exchange =
          s.scheduler.nextDueAt exchange := by
        rw [nextDueAt_markAttempt]
        split
        next hmarked =>
          rw [hmarked] at hname ⊢
          have hfree := Bool.eq_false_iff.mpr fun hdue => hnot ⟨hname, hdue⟩
          exact (dueAfter_of_not_due hfree).symm
        next => rfl
      dsimp only at hdue
      rw [hsame] at hdue
      have hgrid := hkept.grid exchange hname due hdue
      rw [SchedulerHistory.attemptsOf] at hgrid ⊢
      rw [intervalSeconds_markAttempt]
      exact hgrid

theorem SchedulerHistory.Kept.step (hkept : s.Kept) (call : SchedulerCall) :
    (s.step call).Kept := by
  cases call with
  | dueExchanges exchanges nowMonotonic => exact hkept
  | markAttempt marked nowMonotonic => exact hkept.markAttempt marked nowMonotonic

end Attempts

section Schedules

open ExchangeFetchScheduler

variable {s : SchedulerHistory}

/-- The due times of an exchange are on the grid of its first attempt. -/
def SchedulerHistory.OnGrid (s : SchedulerHistory) : Prop :=
  ∀ exchange, exchange ≠ "" → ∀ due ∈ s.scheduler.nextDueAt exchange,
    ∃ first, (s.attemptsOf exchange).getLast? = some first ∧
      ∃ k : ℕ, due = first.markedAt + (k + 1) * s.scheduler.intervalSeconds exchange

/-- An attempt that moved the due time of its exchange on, which is not due again at the
instant it was marked at. -/
def SchedulerHistory.MovedOn (s : SchedulerHistory) (attempt : FetchAttempt) : Prop :=
  (∀ due ∈ attempt.dueBefore, due < attempt.dueAfter) ∧
    ∀ exchanges, attempt.exchange ∉ s.scheduler.dueExchanges exchanges attempt.markedAt

/-- What the clear attempts of a history are. -/
structure SchedulesOnce (s : SchedulerHistory) : Prop where
  moved : ∀ attempt ∈ s.attempts, s.Clear attempt → s.MovedOn attempt
  windows : ∀ exchange (window : List FetchAttempt) (start length : ℚ), 0 ≤ length →
    window.Sublist (s.attemptsOf exchange) →
    (∀ attempt ∈ window, s.Clear attempt ∧ start ≤ attempt.markedAt ∧
      attempt.markedAt ≤ start + length) →
    (window.length : ℤ) ≤ ⌈(length - s.scheduler.toleranceSeconds exchange) /
      s.scheduler.intervalSeconds exchange⌉ + 1
  grid : s.OnGrid

theorem SchedulerHistory.Kept.movedOn (hkept : s.Kept) {attempt : FetchAttempt}
    (hattempt : attempt ∈ s.attempts) (hclear : s.Clear attempt) : s.MovedOn attempt := by
  have hmade := hkept.made attempt hattempt
  have hbeyond := hmade.beyond hclear
  refine ⟨fun due hbefore => ?_, fun exchanges hagain => ?_⟩
  · have hover := hmade.over hclear hbefore
    have htolerance := @toleranceSeconds_nonneg s.scheduler attempt.exchange
    linarith
  · obtain ⟨due, hdue, hle⟩ := hkept.followed attempt hattempt
    have hearly := (isDue_iff hdue).mp (mem_dueExchanges hagain)
    linarith

/-- Clear attempts of an exchange are taken in intervals of their own. -/
theorem SchedulerHistory.Kept.spaced (hkept : s.Kept) {exchange : String}
    {window : List FetchAttempt} (hsub : window.Sublist (s.attemptsOf exchange))
    (hclear : ∀ attempt ∈ window, s.Clear attempt) :
    FixedRate.Spaced (s.scheduler.intervalSeconds exchange : ℚ) (window.map fun attempt =>
      ⟨attempt.markedAt, attempt.dueAfter - s.scheduler.intervalSeconds exchange⟩) := by
  have hordered := hkept.ordered.sublist (hsub.trans List.filter_sublist)
  have hmembers : ∀ attempt ∈ window, attempt ∈ s.attempts ∧ attempt.exchange = exchange := by
    intro attempt hattempt
    simpa [SchedulerHistory.attemptsOf] using hsub.subset hattempt
  refine List.pairwise_map.mpr (hordered.imp_of_mem ?_)
  intro later earlier hlater hearlier hbetween
  obtain ⟨hmember, hexchange⟩ := hmembers later hlater
  have hmade := hkept.made later hmember
  obtain ⟨due, hbefore, hle⟩ := hbetween (hexchange.trans (hmembers earlier hearlier).2.symm)
  have hover := hmade.over (hclear later hlater) hbefore
  have hmoved := FixedRate.add_le_nextAfter (s.scheduler.intervalSeconds later.exchange) hover
  rw [← hmade.later due hbefore, hexchange] at hmoved
  dsimp only
  linarith

theorem SchedulerHistory.Kept.schedules (hkept : s.Kept) : SchedulesOnce s := by
  refine ⟨fun attempt hattempt hclear => hkept.movedOn hattempt hclear, ?_, hkept.grid⟩
  intro exchange window start length hlength hsub hwindow
  have hspaced := hkept.spaced hsub fun attempt hattempt => (hwindow attempt hattempt).1
  have hslots : ∀ event ∈ window.map fun attempt => (⟨attempt.markedAt,
      attempt.dueAfter - s.scheduler.intervalSeconds exchange⟩ : FixedRate.Slotted ℚ),
      event.slot ≤ event.takenAt ∧ event.takenAt + s.scheduler.toleranceSeconds exchange <
        event.slot + s.scheduler.intervalSeconds exchange := by
    intro event hevent
    obtain ⟨attempt, hattempt, rfl⟩ := List.mem_map.mp hevent
    have hmember := hsub.subset hattempt
    simp only [SchedulerHistory.attemptsOf, List.mem_filter, decide_eq_true_eq] at hmember
    obtain ⟨hmember, rfl⟩ := hmember
    have hclear := (hwindow attempt hattempt).1
    have hslot := (hkept.made attempt hmember).slot_le hclear
    have hbeyond := (hkept.made attempt hmember).beyond hclear
    dsimp only
    constructor <;> linarith
  have hwithin : ∀ event ∈ window.map fun attempt => (⟨attempt.markedAt,
      attempt.dueAfter - s.scheduler.intervalSeconds exchange⟩ : FixedRate.Slotted ℚ),
      start ≤ event.takenAt ∧ event.takenAt ≤ start + length := by
    intro event hevent
    obtain ⟨attempt, hattempt, rfl⟩ := List.mem_map.mp hevent
    exact (hwindow attempt hattempt).2
  have hcount := hspaced.length_le (s.scheduler.intervalSeconds exchange).property
    toleranceSeconds_lt hslots hlength hwithin
  rwa [List.length_map] at hcount

/-- In every history of calls, whatever their times. -/
theorem schedulesOnce (intervals : String → Option ℚ) (calls : List SchedulerCall) :
    Runs.Throughout SchedulerHistory.step SchedulesOnce (.start intervals) calls :=
  (Runs.throughout_of_step (kept_start intervals)
    (fun s call (hkept : s.Kept) => hkept.step call) calls).mono
      fun _ hkept => hkept.schedules

def SchedulerCall.time : SchedulerCall → ℚ
  | .dueExchanges _ nowMonotonic | .markAttempt _ nowMonotonic => nowMonotonic

/-- How many attempts of an exchange were marked in a window. -/
def SchedulerHistory.attemptsWithin (s : SchedulerHistory) (exchange : String)
    (start length : ℚ) : ℕ :=
  ((s.attemptsOf exchange).filter fun attempt =>
    start ≤ attempt.markedAt ∧ attempt.markedAt ≤ start + length).length

/-- Marked 5 milliseconds early, an exchange stays due. Marked late and then on time, it has
two attempts in a tenth of its interval. -/
theorem not_schedulesOnce_tolerance :
    ¬ (∀ intervals calls, (calls.map SchedulerCall.time).Pairwise (· ≤ ·) →
      Runs.Throughout SchedulerHistory.step (fun s => ∀ attempt ∈ s.attempts, s.MovedOn attempt)
        (.start intervals) calls) ∧
    ¬ (∀ intervals calls, (calls.map SchedulerCall.time).Pairwise (· ≤ ·) →
      Runs.Throughout SchedulerHistory.step (fun s => ∀ exchange start length, 0 ≤ length →
        (s.attemptsWithin exchange start length : ℤ) ≤
          ⌊(length + s.scheduler.toleranceSeconds exchange) /
            (s.scheduler.intervalSeconds exchange : ℚ)⌋ + 1) (.start intervals) calls) := by
  constructor
  · intro hmoves
    have hrun := (hmoves (fun _ => some (1 / 10))
      [.markAttempt "bithumb" 0, .markAttempt "bithumb" (95 / 1000)] (by decide +kernel)).last
    have hearly := (hrun ⟨"bithumb", 95 / 1000, some (1 / 10), 1 / 10⟩
      (by decide +kernel)).1 (1 / 10) rfl
    exact absurd hearly (lt_irrefl _)
  · intro hfew
    have hrun := (hfew (fun _ => some 1)
      [.markAttempt "bithumb" 0, .markAttempt "bithumb" (19 / 10), .markAttempt "bithumb" 2]
      (by decide +kernel)).last "bithumb" (19 / 10) (1 / 10) (by norm_num)
    revert hrun
    decide +kernel

end Schedules

end TradingPlatform.Strategy

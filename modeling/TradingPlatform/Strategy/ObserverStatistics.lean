import Mathlib.Algebra.BigOperators.Group.List.Basic
import Mathlib.Data.List.Induction
import TradingPlatform.Foundation.Decimal
import TradingPlatform.Foundation.OwnedRows

/-! # Statistics of the simulation observer

What the observer keeps of its observations: for each direction counters, the
profit and the greatest skew, and for all directions together the totals of a
snapshot.
-/

namespace TradingPlatform.Strategy

section Program

variable (ctx : DecimalContext)

structure SimulationObservation where
  market : String
  buyExchange : String
  sellExchange : String
  accepted : Bool
  reasonCode : String
  observedAt : String
  executableProfitQuote : Option ℚ
  executableProfitBps : Option ℚ
  targetQty : Option ℚ
  clockSkewMs : Int
  clockSkewExceeded : Bool
  marketOpportunity : Bool
  actionableOpportunity : Bool
  positiveProfitOpportunity : Bool
  reservationBlocked : Bool
  zeroProfitOpportunity : Bool

def SimulationObservation.directionKey (observation : SimulationObservation) : String :=
  observation.buyExchange ++ "->" ++ observation.sellExchange

structure SimulationDirectionStats where
  market : String
  buyExchange : String
  sellExchange : String
  observedCount : Nat
  acceptedCount : Nat
  rejectedCount : Nat
  cumulativeProfitQuote : ℚ
  bestProfitQuote : Option ℚ
  bestProfitBps : Option ℚ
  latestReasonCode : Option String
  lastObservedAt : Option String
  reasonCounts : String → Nat
  clockSkewExceededCount : Nat
  maxClockSkewMs : Int
  latestClockSkewMs : Int
  marketOpportunityCount : Nat
  actionableOpportunityCount : Nat
  positiveProfitOpportunityCount : Nat
  reservationBlockedCount : Nat
  zeroProfitOpportunityCount : Nat

namespace SimulationDirectionStats

/-- The key of the direction in the tracker. -/
def directionKey (stats : SimulationDirectionStats) : String :=
  stats.buyExchange ++ "->" ++ stats.sellExchange

/-- The statistics a direction starts with. -/
def start (market buyExchange sellExchange : String) : SimulationDirectionStats where
  market := market
  buyExchange := buyExchange
  sellExchange := sellExchange
  observedCount := 0
  acceptedCount := 0
  rejectedCount := 0
  cumulativeProfitQuote := 0
  bestProfitQuote := none
  bestProfitBps := none
  latestReasonCode := none
  lastObservedAt := none
  reasonCounts _ := 0
  clockSkewExceededCount := 0
  maxClockSkewMs := 0
  latestClockSkewMs := 0
  marketOpportunityCount := 0
  actionableOpportunityCount := 0
  positiveProfitOpportunityCount := 0
  reservationBlockedCount := 0
  zeroProfitOpportunityCount := 0

/-- The better of the best so far and another value. -/
def better (best other : Option ℚ) : Option ℚ :=
  match other, best with
  | none, best => best
  | some value, none => some value
  | some value, some best => if best < value then some value else some best

def record (stats : SimulationDirectionStats) (observation : SimulationObservation) :
    SimulationDirectionStats :=
  let profit := if observation.accepted then observation.executableProfitQuote else none
  let profitBps := if observation.accepted then observation.executableProfitBps else none
  { stats with
    observedCount := stats.observedCount + 1
    lastObservedAt := some observation.observedAt
    latestReasonCode := some observation.reasonCode
    reasonCounts := Function.update stats.reasonCounts observation.reasonCode
      (stats.reasonCounts observation.reasonCode + 1)
    latestClockSkewMs := observation.clockSkewMs
    maxClockSkewMs := max stats.maxClockSkewMs observation.clockSkewMs
    clockSkewExceededCount :=
      stats.clockSkewExceededCount + observation.clockSkewExceeded.toNat
    marketOpportunityCount :=
      stats.marketOpportunityCount + observation.marketOpportunity.toNat
    actionableOpportunityCount :=
      stats.actionableOpportunityCount + observation.actionableOpportunity.toNat
    positiveProfitOpportunityCount :=
      stats.positiveProfitOpportunityCount + observation.positiveProfitOpportunity.toNat
    reservationBlockedCount :=
      stats.reservationBlockedCount + observation.reservationBlocked.toNat
    zeroProfitOpportunityCount :=
      stats.zeroProfitOpportunityCount + observation.zeroProfitOpportunity.toNat
    acceptedCount := stats.acceptedCount + observation.accepted.toNat
    rejectedCount := stats.rejectedCount + (!observation.accepted).toNat
    cumulativeProfitQuote :=
      profit.elim stats.cumulativeProfitQuote (ctx.add stats.cumulativeProfitQuote)
    bestProfitQuote := better stats.bestProfitQuote profit
    bestProfitBps := better stats.bestProfitBps profitBps }

@[simp] theorem directionKey_record (stats : SimulationDirectionStats)
    (observation : SimulationObservation) :
    (stats.record ctx observation).directionKey = stats.directionKey := rfl

end SimulationDirectionStats

/-- The statistics of the directions, in the order they were first seen. -/
abbrev SimulationStatsTracker := List SimulationDirectionStats

namespace SimulationStatsTracker

def record (tracker : SimulationStatsTracker) (observation : SimulationObservation) :
    SimulationStatsTracker :=
  match tracker.find? (·.directionKey = observation.directionKey) with
  | some _ =>
      updateAt SimulationDirectionStats.directionKey observation.directionKey
        (fun stats => stats.record ctx observation) tracker
  | none =>
      tracker ++ [(SimulationDirectionStats.start observation.market observation.buyExchange
        observation.sellExchange).record ctx observation]

/-- The totals of a snapshot. -/
structure Totals where
  totalObserved : Nat
  totalAccepted : Nat
  totalRejected : Nat
  totalReasonCounts : String → Nat
  totalClockSkewExceeded : Nat
  maxClockSkewMs : Int
  totalMarketOpportunityCount : Nat
  totalActionableOpportunityCount : Nat
  totalPositiveProfitOpportunityCount : Nat
  totalReservationBlockedCount : Nat
  totalZeroProfitOpportunityCount : Nat

def snapshot (tracker : SimulationStatsTracker) : Totals where
  totalObserved := (tracker.map (·.observedCount)).sum
  totalAccepted := (tracker.map (·.acceptedCount)).sum
  totalRejected := (tracker.map (·.rejectedCount)).sum
  totalReasonCounts reason := (tracker.map (·.reasonCounts reason)).sum
  totalClockSkewExceeded := (tracker.map (·.clockSkewExceededCount)).sum
  maxClockSkewMs := (tracker.map (·.maxClockSkewMs)).foldl max 0
  totalMarketOpportunityCount := (tracker.map (·.marketOpportunityCount)).sum
  totalActionableOpportunityCount := (tracker.map (·.actionableOpportunityCount)).sum
  totalPositiveProfitOpportunityCount := (tracker.map (·.positiveProfitOpportunityCount)).sum
  totalReservationBlockedCount := (tracker.map (·.reservationBlockedCount)).sum
  totalZeroProfitOpportunityCount := (tracker.map (·.zeroProfitOpportunityCount)).sum

/-- The tracker after a list of observations. -/
def ofObservations (observations : List SimulationObservation) : SimulationStatsTracker :=
  observations.foldl (record ctx) []

end SimulationStatsTracker

end Program

section Partition

variable {Item Key : Type*} [DecidableEq Key] {key : Item → Key}

theorem sum_indicator {keys : List Key} (hnodup : keys.Nodup) {k : Key} (hmem : k ∈ keys)
    (n : Nat) :
    (keys.map fun other => if k = other then n else 0).sum = n := by
  induction keys with
  | nil => simp at hmem
  | cons head rest ih =>
      obtain ⟨hfresh, hrest⟩ := List.nodup_cons.mp hnodup
      rw [List.map_cons, List.sum_cons]
      by_cases hat : k = head
      · have hzero : ∀ other ∈ rest, (if k = other then n else 0) = 0 := by
          intro other hother
          refine if_neg ?_
          rintro rfl
          rw [hat] at hother
          exact hfresh hother
        rw [if_pos hat, List.map_congr_left hzero]
        simp
      · rw [if_neg hat, Nat.zero_add]
        exact ih hrest ((List.mem_cons.mp hmem).resolve_left hat)

/-- Items that are counted under each of their keys are all counted once. -/
theorem sum_countP_key {keys : List Key} (hnodup : keys.Nodup) (q : Item → Bool)
    (items : List Item) (hcovered : ∀ item ∈ items, key item ∈ keys) :
    (keys.map fun k => (items.filter (key · = k)).countP q).sum = items.countP q := by
  induction items with
  | nil => simp
  | cons item rest ih =>
      have hsplit : ∀ k ∈ keys, ((item :: rest).filter (key · = k)).countP q =
          (if key item = k then (q item).toNat else 0) +
            (rest.filter (key · = k)).countP q := by
        intro k _
        by_cases hat : key item = k <;> cases hq : q item <;>
          simp [hat, hq, Nat.add_comm]
      rw [List.map_congr_left hsplit, List.sum_map_add,
        sum_indicator hnodup (hcovered item List.mem_cons_self),
        ih fun other hother => hcovered other (List.mem_cons_of_mem _ hother)]
      cases hq : q item <;> simp [hq, Nat.add_comm]

theorem le_foldl_max {xs : List Int} {a : Int} :
    a ≤ xs.foldl max a ∧ ∀ x ∈ xs, x ≤ xs.foldl max a := by
  induction xs generalizing a with
  | nil => simp
  | cons head rest ih =>
      obtain ⟨hstart, hrest⟩ := ih (a := max a head)
      refine ⟨(le_max_left _ _).trans hstart, ?_⟩
      intro x hx
      rcases List.mem_cons.mp hx with rfl | hmem
      · exact (le_max_right _ _).trans hstart
      · exact hrest x hmem

theorem foldl_max_mem {xs : List Int} {a : Int} :
    xs.foldl max a = a ∨ xs.foldl max a ∈ xs := by
  induction xs generalizing a with
  | nil => exact Or.inl rfl
  | cons head rest ih =>
      rcases ih (a := max a head) with hstart | hmem
      · rw [List.foldl_cons, hstart]
        rcases max_choice a head with hleft | hright
        · exact Or.inl hleft
        · rw [hright]
          exact Or.inr List.mem_cons_self
      · exact Or.inr (List.mem_cons_of_mem _ hmem)

end Partition

section Directions

variable {ctx : DecimalContext} {stats : SimulationDirectionStats}
  {seen : List SimulationObservation}

/-- A counter, and which observations it counts. -/
abbrev Counter := (SimulationDirectionStats → Nat) × (SimulationObservation → Bool)

def counters (reason : String) : List Counter :=
  [(fun stats => stats.observedCount, fun _ => true),
    (fun stats => stats.acceptedCount, fun observation => observation.accepted),
    (fun stats => stats.rejectedCount, fun observation => !observation.accepted),
    (fun stats => stats.clockSkewExceededCount, fun observation => observation.clockSkewExceeded),
    (fun stats => stats.marketOpportunityCount, fun observation => observation.marketOpportunity),
    (fun stats => stats.actionableOpportunityCount,
      fun observation => observation.actionableOpportunity),
    (fun stats => stats.positiveProfitOpportunityCount,
      fun observation => observation.positiveProfitOpportunity),
    (fun stats => stats.reservationBlockedCount, fun observation => observation.reservationBlocked),
    (fun stats => stats.zeroProfitOpportunityCount,
      fun observation => observation.zeroProfitOpportunity),
    (fun stats => stats.reasonCounts reason, fun observation => observation.reasonCode = reason)]

/-- Each counter starts at zero and takes the observations that it counts. -/
theorem counters_record {reason : String} {counter : Counter} (hmem : counter ∈ counters reason)
    (stats : SimulationDirectionStats) (observation : SimulationObservation) :
    counter.1 (stats.record ctx observation) =
      counter.1 stats + (counter.2 observation).toNat := by
  simp only [counters, List.mem_cons, List.not_mem_nil, or_false] at hmem
  rcases hmem with rfl | rfl | rfl | rfl | rfl | rfl | rfl | rfl | rfl | rfl
  case inr.inr.inr.inr.inr.inr.inr.inr.inr =>
    by_cases hat : observation.reasonCode = reason
    · simp [SimulationDirectionStats.record, hat]
    · simp [SimulationDirectionStats.record, hat, Function.update_of_ne (Ne.symm hat)]
  all_goals rfl

theorem counters_start {reason : String} {counter : Counter} (hmem : counter ∈ counters reason)
    (market buyExchange sellExchange : String) :
    counter.1 (.start market buyExchange sellExchange) = 0 := by
  simp only [counters, List.mem_cons, List.not_mem_nil, or_false] at hmem
  rcases hmem with rfl | rfl | rfl | rfl | rfl | rfl | rfl | rfl | rfl | rfl <;> rfl

/-- What accepted observations bring in. -/
def acceptedValues (value : SimulationObservation → Option ℚ)
    (seen : List SimulationObservation) : List ℚ :=
  seen.filterMap fun observation => if observation.accepted then value observation else none

/-- The greatest of some values, if there are any. -/
structure IsBest (best : Option ℚ) (values : List ℚ) : Prop where
  mem : ∀ top ∈ best, top ∈ values
  le : ∀ value ∈ values, ∃ top ∈ best, value ≤ top

theorem IsBest.better {best other : Option ℚ} {values : List ℚ} (hbest : IsBest best values) :
    IsBest (SimulationDirectionStats.better best other) (values ++ other.toList) := by
  cases other with
  | none => simpa [SimulationDirectionStats.better] using hbest
  | some value =>
      cases best with
      | none =>
          have hnone : values = [] := by
            refine List.eq_nil_iff_forall_not_mem.mpr fun x hx => ?_
            obtain ⟨top, htop, -⟩ := hbest.le x hx
            simp at htop
          rw [hnone]
          constructor <;> simp [SimulationDirectionStats.better]
      | some top =>
          have hmem := hbest.mem top rfl
          have hle : ∀ x ∈ values, x ≤ top := by
            intro x hx
            obtain ⟨other, hother, hxle⟩ := hbest.le x hx
            rwa [Option.mem_some_iff.mp hother]
          by_cases hlt : top < value
          · constructor
            · simp [SimulationDirectionStats.better, hlt]
            · intro x hx
              refine ⟨value, by simp [SimulationDirectionStats.better, hlt], ?_⟩
              rcases List.mem_append.mp hx with hold | hnew
              · exact (hle x hold).trans hlt.le
              · simpa using (List.mem_singleton.mp hnew).le
          · constructor
            · simp [SimulationDirectionStats.better, hlt, hmem]
            · intro x hx
              refine ⟨top, by simp [SimulationDirectionStats.better, hlt], ?_⟩
              rcases List.mem_append.mp hx with hold | hnew
              · exact hle x hold
              · rw [List.mem_singleton.mp hnew]
                exact not_lt.mp hlt

/-- The statistics are those of the observations seen. -/
structure Summarises (ctx : DecimalContext) (stats : SimulationDirectionStats)
    (seen : List SimulationObservation) : Prop where
  counted : ∀ reason, ∀ counter ∈ counters reason, counter.1 stats = seen.countP counter.2
  profit : stats.cumulativeProfitQuote = ctx.sum (acceptedValues (·.executableProfitQuote) seen)
  bestQuote : IsBest stats.bestProfitQuote (acceptedValues (·.executableProfitQuote) seen)
  bestBps : IsBest stats.bestProfitBps (acceptedValues (·.executableProfitBps) seen)
  latestReason : stats.latestReasonCode = seen.getLast?.map (·.reasonCode)
  lastObserved : stats.lastObservedAt = seen.getLast?.map (·.observedAt)
  latestSkew : stats.latestClockSkewMs = (seen.getLast?.map (·.clockSkewMs)).getD 0
  maxSkew : stats.maxClockSkewMs = (seen.map (·.clockSkewMs)).foldl max 0

theorem summarises_start (ctx : DecimalContext) (market buyExchange sellExchange : String) :
    Summarises ctx (.start market buyExchange sellExchange) [] where
  counted reason counter hmem := counters_start hmem market buyExchange sellExchange
  profit := rfl
  bestQuote := ⟨by simp [SimulationDirectionStats.start], by simp [acceptedValues]⟩
  bestBps := ⟨by simp [SimulationDirectionStats.start], by simp [acceptedValues]⟩
  latestReason := rfl
  lastObserved := rfl
  latestSkew := rfl
  maxSkew := rfl

theorem acceptedValues_concat (value : SimulationObservation → Option ℚ)
    (seen : List SimulationObservation) (observation : SimulationObservation) :
    acceptedValues value (seen ++ [observation]) = acceptedValues value seen ++
      (if observation.accepted then value observation else none).toList := by
  rw [acceptedValues, List.filterMap_append, acceptedValues]
  rfl

theorem Summarises.record (h : Summarises ctx stats seen) (observation : SimulationObservation) :
    Summarises ctx (stats.record ctx observation) (seen ++ [observation]) where
  counted := by
    intro reason counter hmem
    rw [counters_record hmem, h.counted reason counter hmem, List.countP_append]
    cases hcounts : counter.2 observation <;> simp [hcounts]
  profit := by
    rw [acceptedValues_concat, DecimalContext.sum, List.foldl_append, ← DecimalContext.sum,
      ← h.profit]
    simp only [SimulationDirectionStats.record]
    cases (if observation.accepted then observation.executableProfitQuote else none) <;> rfl
  bestQuote := by
    rw [acceptedValues_concat]
    exact h.bestQuote.better
  bestBps := by
    rw [acceptedValues_concat]
    exact h.bestBps.better
  latestReason := by simp [SimulationDirectionStats.record]
  lastObserved := by simp [SimulationDirectionStats.record]
  latestSkew := by simp [SimulationDirectionStats.record]
  maxSkew := by
    rw [List.map_append, List.foldl_append, ← h.maxSkew]
    rfl

end Directions

namespace SimulationStatsTracker

variable {ctx : DecimalContext} {tracker : SimulationStatsTracker}
  {observations : List SimulationObservation}

/-- The observations of a direction. -/
def ofDirection (directionKey : String) (observations : List SimulationObservation) :
    List SimulationObservation :=
  observations.filter (·.directionKey = directionKey)

theorem ofDirection_concat (directionKey : String) (observations : List SimulationObservation)
    (observation : SimulationObservation) :
    ofDirection directionKey (observations ++ [observation]) =
      ofDirection directionKey observations ++
        if observation.directionKey = directionKey then [observation] else [] := by
  rw [ofDirection, List.filter_append, ofDirection]
  by_cases hat : observation.directionKey = directionKey <;> simp [hat]

/-- The tracker has one entry for each direction seen, with the statistics of its
observations. -/
structure Tracked (ctx : DecimalContext) (observations : List SimulationObservation)
    (tracker : SimulationStatsTracker) : Prop where
  keys : (tracker.map SimulationDirectionStats.directionKey).Nodup
  covered : ∀ observation ∈ observations,
    ∃ stats ∈ tracker, stats.directionKey = observation.directionKey
  summarised : ∀ stats ∈ tracker,
    Summarises ctx stats (ofDirection stats.directionKey observations)

theorem Tracked.record (h : Tracked ctx observations tracker)
    (observation : SimulationObservation) :
    Tracked ctx (observations ++ [observation]) (tracker.record ctx observation) := by
  unfold SimulationStatsTracker.record
  split
  next found hfind =>
    have hfound := List.mem_of_find?_eq_some hfind
    have hkey : found.directionKey = observation.directionKey := by
      simpa using List.find?_some hfind
    refine ⟨?_, ?_, ?_⟩
    · have hkept : ∀ stats ∈ tracker, stats.directionKey = observation.directionKey →
          (stats.record ctx observation).directionKey = stats.directionKey := fun _ _ _ => rfl
      rw [map_updateAt hkept]
      exact h.keys
    · intro other hother
      have hold : ∃ stats ∈ tracker, stats.directionKey = other.directionKey := by
        rcases List.mem_append.mp hother with hmem | hnew
        · exact h.covered other hmem
        · rw [List.mem_singleton.mp hnew]
          exact ⟨found, hfound, hkey⟩
      obtain ⟨stats, hstats, hsame⟩ := hold
      by_cases hat : stats.directionKey = observation.directionKey
      · exact ⟨stats.record ctx observation,
          mem_updateAt.mpr (Or.inl ⟨stats, hstats, hat, rfl⟩), hsame⟩
      · exact ⟨stats, mem_updateAt.mpr (Or.inr ⟨hstats, hat⟩), hsame⟩
    · intro later hlater
      rw [ofDirection_concat]
      rcases mem_updateAt.mp hlater with ⟨stats, hstats, hat, rfl⟩ | ⟨hstats, hat⟩
      · rw [SimulationDirectionStats.directionKey_record, if_pos hat.symm]
        exact (h.summarised stats hstats).record observation
      · rw [if_neg (Ne.symm hat), List.append_nil]
        exact h.summarised later hstats
  next hnone =>
    have hfresh : ∀ stats ∈ tracker, stats.directionKey ≠ observation.directionKey := by
      intro stats hstats
      simpa using List.find?_eq_none.mp hnone stats hstats
    refine ⟨?_, ?_, ?_⟩
    · rw [List.map_append, List.map_singleton, List.nodup_append]
      refine ⟨h.keys, List.nodup_singleton _, ?_⟩
      rintro key hmem other hother rfl
      obtain ⟨stats, hstats, rfl⟩ := List.mem_map.mp hmem
      exact hfresh stats hstats (List.mem_singleton.mp hother)
    · intro other hother
      rcases List.mem_append.mp hother with hmem | hnew
      · obtain ⟨stats, hstats, hsame⟩ := h.covered other hmem
        exact ⟨stats, List.mem_append_left _ hstats, hsame⟩
      · rw [List.mem_singleton.mp hnew]
        exact ⟨_, List.mem_append_right _ List.mem_cons_self, rfl⟩
    · intro stats hmem
      rw [ofDirection_concat]
      rcases List.mem_append.mp hmem with hold | hnew
      · rw [if_neg (Ne.symm (hfresh stats hold)), List.append_nil]
        exact h.summarised stats hold
      · rw [List.mem_singleton.mp hnew]
        -- a direction that is new has no observation so far
        have hempty : ofDirection observation.directionKey observations = [] := by
          refine List.filter_eq_nil_iff.mpr fun other hother => ?_
          obtain ⟨stats, hstats, hsame⟩ := h.covered other hother
          simpa [← hsame] using hfresh stats hstats
        have hkey : (SimulationDirectionStats.start observation.market observation.buyExchange
            observation.sellExchange).directionKey = observation.directionKey := rfl
        rw [SimulationDirectionStats.directionKey_record, hkey, hempty, if_pos rfl]
        exact (summarises_start ctx _ _ _).record observation

theorem tracked_ofObservations (ctx : DecimalContext) (observations : List SimulationObservation) :
    Tracked ctx observations (ofObservations ctx observations) := by
  induction observations using List.reverseRecOn with
  | nil => exact ⟨List.nodup_nil, by simp, by simp [ofObservations]⟩
  | append_singleton earlier last ih =>
      rw [ofObservations, List.foldl_append]
      exact ih.record last

/-- A counter adds up to the number of observations it counts. -/
theorem Tracked.sum_counter (h : Tracked ctx observations tracker) {reason : String}
    {count : SimulationDirectionStats → Nat} {q : SimulationObservation → Bool}
    (hmem : (count, q) ∈ counters reason) :
    (tracker.map count).sum = observations.countP q := by
  have hcounted : ∀ stats ∈ tracker, count stats =
      (observations.filter (·.directionKey = stats.directionKey)).countP q :=
    fun stats hstats => (h.summarised stats hstats).counted reason (count, q) hmem
  rw [List.map_congr_left hcounted, ← sum_countP_key h.keys q observations, List.map_map]
  · rfl
  · intro observation hobservation
    obtain ⟨stats, hstats, hsame⟩ := h.covered observation hobservation
    exact hsame ▸ List.mem_map_of_mem hstats

/-- The totals count every observation once. -/
structure TotalsOf (totals : Totals) (observations : List SimulationObservation) : Prop where
  observed : totals.totalObserved = observations.length
  accepted : totals.totalAccepted = observations.countP (·.accepted)
  rejected : totals.totalRejected = observations.countP (!·.accepted)
  reasons : ∀ reason, totals.totalReasonCounts reason =
    observations.countP fun observation => observation.reasonCode = reason
  clockSkewExceeded : totals.totalClockSkewExceeded = observations.countP (·.clockSkewExceeded)
  market : totals.totalMarketOpportunityCount = observations.countP (·.marketOpportunity)
  actionable : totals.totalActionableOpportunityCount =
    observations.countP (·.actionableOpportunity)
  positiveProfit : totals.totalPositiveProfitOpportunityCount =
    observations.countP (·.positiveProfitOpportunity)
  reservationBlocked : totals.totalReservationBlockedCount =
    observations.countP (·.reservationBlocked)
  zeroProfit : totals.totalZeroProfitOpportunityCount =
    observations.countP (·.zeroProfitOpportunity)
  skew_le : ∀ observation ∈ observations, observation.clockSkewMs ≤ totals.maxClockSkewMs
  skew_mem : totals.maxClockSkewMs = 0 ∨
    ∃ observation ∈ observations, observation.clockSkewMs = totals.maxClockSkewMs

theorem Tracked.totalsOf (h : Tracked ctx observations tracker) :
    TotalsOf tracker.snapshot observations where
  observed := by
    have hcounter : ((fun stats => stats.observedCount, fun _ => true) : Counter) ∈
        counters "" := List.mem_cons_self
    simpa [snapshot] using h.sum_counter hcounter
  accepted := h.sum_counter (by simp [counters] : _ ∈ counters "")
  rejected := h.sum_counter (by simp [counters] : _ ∈ counters "")
  reasons reason := h.sum_counter (by simp [counters] : _ ∈ counters reason)
  clockSkewExceeded := h.sum_counter (by simp [counters] : _ ∈ counters "")
  market := h.sum_counter (by simp [counters] : _ ∈ counters "")
  actionable := h.sum_counter (by simp [counters] : _ ∈ counters "")
  positiveProfit := h.sum_counter (by simp [counters] : _ ∈ counters "")
  reservationBlocked := h.sum_counter (by simp [counters] : _ ∈ counters "")
  zeroProfit := h.sum_counter (by simp [counters] : _ ∈ counters "")
  skew_le := by
    intro observation hobservation
    obtain ⟨stats, hstats, hsame⟩ := h.covered observation hobservation
    have hseen : observation ∈ ofDirection stats.directionKey observations :=
      List.mem_filter.mpr ⟨hobservation, by simp [hsame]⟩
    have hskew : observation.clockSkewMs ≤ stats.maxClockSkewMs := by
      rw [(h.summarised stats hstats).maxSkew]
      exact le_foldl_max.2 _ (List.mem_map_of_mem hseen)
    exact hskew.trans (le_foldl_max.2 _ (List.mem_map_of_mem hstats))
  skew_mem := by
    rcases @foldl_max_mem (tracker.map (·.maxClockSkewMs)) 0 with hzero | hmem
    · exact Or.inl hzero
    · obtain ⟨stats, hstats, hskew⟩ := List.mem_map.mp hmem
      have hmax := (h.summarised stats hstats).maxSkew
      rcases @foldl_max_mem ((ofDirection stats.directionKey observations).map (·.clockSkewMs)) 0
        with hzero | hseen
      · exact Or.inl (hskew.symm.trans (hmax.trans hzero))
      · obtain ⟨observation, hobservation, hvalue⟩ := List.mem_map.mp hseen
        refine Or.inr ⟨observation, (List.mem_filter.mp hobservation).1, ?_⟩
        exact hvalue.trans (hmax.symm.trans hskew)

/-- After any observations each direction has one entry, which says of the observations of the
direction what they were, and the totals of a snapshot count every observation once. -/
theorem statistics_ofObservations (ctx : DecimalContext)
    (observations : List SimulationObservation) :
    Tracked ctx observations (ofObservations ctx observations) ∧
      TotalsOf (ofObservations ctx observations).snapshot observations := by
  have htracked := tracked_ofObservations ctx observations
  exact ⟨htracked, htracked.totalsOf⟩

end SimulationStatsTracker

end TradingPlatform.Strategy

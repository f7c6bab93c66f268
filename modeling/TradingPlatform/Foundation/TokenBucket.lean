import Mathlib.Algebra.Order.Field.Basic
import Mathlib.Tactic.Linarith
import Mathlib.Tactic.Ring

/-! # Token buckets

A bucket fills at a rate, up to its burst, and every grant takes a token out of it.
However the grants are spread, between any two of them there are at most as many as
the burst and what has flowed in since allow; so are the events that follow the grants
at distances that do not shrink.
-/

namespace TokenBucket

variable {K : Type} [Field K] [LinearOrder K] [IsStrictOrderedRing K]

/-- A bucket, as it was when it was last looked at. -/
structure Bucket (K : Type) where
  tokens : K
  updatedAt : K

section Filling

variable (rate burst : K)

def Bucket.refill (bucket : Bucket K) (now : K) : Bucket K where
  tokens := min burst (bucket.tokens + max (now - bucket.updatedAt) 0 * rate)
  updatedAt := now

/-- Take a token, if there is a whole one. -/
def Bucket.take? (bucket : Bucket K) : Option (Bucket K) :=
  if 1 ≤ bucket.tokens then some { bucket with tokens := bucket.tokens - 1 } else none

omit [IsStrictOrderedRing K] in
theorem Bucket.take?_of_le {bucket : Bucket K} (hwhole : 1 ≤ bucket.tokens) :
    bucket.take? = some { bucket with tokens := bucket.tokens - 1 } := if_pos hwhole

omit [IsStrictOrderedRing K] in
theorem Bucket.take?_eq_none {bucket : Bucket K} : bucket.take? = none ↔ bucket.tokens < 1 := by
  simp [Bucket.take?]

omit [IsStrictOrderedRing K] in
theorem Bucket.updatedAt_of_take {bucket left : Bucket K} (htake : bucket.take? = some left) :
    left.updatedAt = bucket.updatedAt := by
  unfold Bucket.take? at htake
  split at htake
  next => rw [← Option.some.inj htake]
  next => cases htake

/-- The grants in a list, latest first, are as many as the burst and the rate allow,
between whichever two of them. -/
def Spaced (grants : List K) : Prop :=
  ∀ first middle last, (first :: middle ++ [last]).Sublist grants →
    (middle.length : K) + 2 ≤ burst + rate * (first - last)

/-- What is in the bucket was not granted since any of the grants. -/
structure Paid (bucket : Bucket K) (grants : List K) : Prop where
  spaced : Spaced rate burst grants
  balance : ∀ since last, (since ++ [last]).Sublist grants →
    bucket.tokens + since.length + 1 ≤ burst + rate * (bucket.updatedAt - last)
  nonneg : 0 ≤ bucket.tokens
  bounded : bucket.tokens ≤ burst

variable {rate burst} {bucket : Bucket K} {grants : List K} {now : K}

omit [IsStrictOrderedRing K] in
theorem paid_full {updatedAt : K} (hburst : 0 ≤ burst) : Paid rate burst ⟨burst, updatedAt⟩ [] := by
  refine ⟨?_, ?_, hburst, le_rfl⟩
  · intro first middle last hsub
    cases hsub
  · intro since last hsub
    simp at hsub

/-- Filling up spends nothing. -/
theorem Paid.refill (hpaid : Paid rate burst bucket grants) (hrate : 0 ≤ rate)
    (hnow : bucket.updatedAt ≤ now) :
    Paid rate burst (bucket.refill rate burst now) grants := by
  have helapsed : max (now - bucket.updatedAt) 0 = now - bucket.updatedAt :=
    max_eq_left (sub_nonneg.mpr hnow)
  have hflow : 0 ≤ (now - bucket.updatedAt) * rate := mul_nonneg (sub_nonneg.mpr hnow) hrate
  refine ⟨hpaid.spaced, fun since last hsub => ?_, ?_, min_le_left _ _⟩
  · have hbalance := hpaid.balance since last hsub
    have htokens : (bucket.refill rate burst now).tokens ≤
        bucket.tokens + (now - bucket.updatedAt) * rate := by
      rw [Bucket.refill, helapsed]
      exact min_le_right _ _
    have hsum : rate * (now - last) =
        rate * (bucket.updatedAt - last) + (now - bucket.updatedAt) * rate := by ring
    change (bucket.refill rate burst now).tokens + since.length + 1 ≤ burst + rate * (now - last)
    rw [hsum]
    linarith
  · rw [Bucket.refill, helapsed]
    exact le_min (hpaid.nonneg.trans hpaid.bounded) (add_nonneg hpaid.nonneg hflow)

/-- A grant is paid for with a token. -/
theorem Paid.take (hpaid : Paid rate burst bucket grants) {left : Bucket K}
    (htake : bucket.take? = some left) : Paid rate burst left (bucket.updatedAt :: grants) := by
  unfold Bucket.take? at htake
  split at htake
  next hwhole =>
    rw [Option.some.injEq] at htake
    subst htake
    refine ⟨?_, ?_, sub_nonneg.mpr hwhole, (sub_le_self _ zero_le_one).trans hpaid.bounded⟩
    · intro first middle last hsub
      cases hsub with
      | cons _ hsub => exact hpaid.spaced first middle last hsub
      | cons_cons _ hsub =>
          have hbalance := hpaid.balance middle last hsub
          linarith
    · intro since last hsub
      dsimp only
      cases since with
      | nil =>
          rcases List.sublist_cons_iff.mp hsub with hold | ⟨rest, hrest, hrestSub⟩
          · have hbalance := hpaid.balance [] last hold
            simp only [List.length_nil, Nat.cast_zero] at hbalance ⊢
            linarith
          · obtain ⟨rfl, -⟩ := List.cons.inj hrest
            have hbounded := hpaid.bounded
            simp only [List.length_nil, Nat.cast_zero, sub_self, mul_zero]
            linarith
      | cons first more =>
          cases hsub with
          | cons _ hsub =>
              have hbalance := hpaid.balance (first :: more) last hsub
              linarith
          | cons_cons _ hsub =>
              have hbalance := hpaid.balance more last hsub
              rw [List.length_cons, Nat.cast_succ]
              linarith
  next => cases htake

end Filling

section Windows

variable {rate burst : K}

/-- Some grants among those of a list. -/
theorem Spaced.length_le {grants : List K} (hspaced : Spaced rate burst grants)
    {first last : K} {middle : List K} (hsub : (first :: middle ++ [last]).Sublist grants) :
    ((first :: middle ++ [last]).length : K) ≤ burst + rate * (first - last) := by
  have hbound := hspaced first middle last hsub
  simp only [List.length_append, List.length_cons, List.length_nil, Nat.cast_add, Nat.cast_one,
    Nat.cast_zero]
  linarith

/-- An event, and the grant it was paid with. -/
structure Event (K : Type) where
  grantedAt : K
  happensAt : K

def Event.lag (event : Event K) : K := event.happensAt - event.grantedAt

/-- Events, latest first, whose distances from their grants do not shrink. -/
def Steady (events : List (Event K)) : Prop :=
  events.Pairwise fun later earlier => earlier.lag ≤ later.lag

/-- In a window of some length there are at most as many events as the burst and the
rate allow. -/
theorem length_window_le {events : List (Event K)} (hrate : 0 ≤ rate) (hburst : 1 ≤ burst)
    (hspaced : Spaced rate burst (events.map Event.grantedAt)) (hsteady : Steady events)
    (start length : K) (hlength : 0 ≤ length) :
    ((events.filter fun event => start ≤ event.happensAt ∧
      event.happensAt ≤ start + length).length : K) ≤ burst + rate * length := by
  set window := events.filter fun event => start ≤ event.happensAt ∧
    event.happensAt ≤ start + length with hwindow
  have hsub : window.Sublist events := List.filter_sublist
  have hinside : ∀ event ∈ window, start ≤ event.happensAt ∧ event.happensAt ≤ start + length := by
    intro event hevent
    simpa using (List.mem_filter.mp hevent).2
  have hflow : 0 ≤ rate * length := mul_nonneg hrate hlength
  rcases List.eq_nil_or_concat window with hnil | ⟨front, last, hlast⟩
  · rw [hnil, List.length_nil, Nat.cast_zero]
    linarith
  rw [List.concat_eq_append] at hlast
  cases front with
  | nil =>
      rw [hlast, List.nil_append, List.length_singleton, Nat.cast_one]
      linarith
  | cons first middle =>
      have hgrants : (first.grantedAt :: middle.map Event.grantedAt ++ [last.grantedAt]).Sublist
          (events.map Event.grantedAt) := by
        have hmapped := hsub.map Event.grantedAt
        rwa [hlast, List.map_append] at hmapped
      have hbound := hspaced.length_le hgrants
      have hlag : last.lag ≤ first.lag := by
        have hpairs := hsteady.sublist hsub
        rw [hlast] at hpairs
        exact (List.pairwise_cons.mp hpairs).1 last (by simp)
      have hfirst := (hinside first (by simp [hlast])).2
      have hstart := (hinside last (by simp [hlast])).1
      have hspan : first.grantedAt - last.grantedAt ≤ length := by
        unfold Event.lag at hlag
        linarith
      have hrated := mul_le_mul_of_nonneg_left hspan hrate
      have hcount : (window.length : K) =
          ((first.grantedAt :: middle.map Event.grantedAt ++ [last.grantedAt]).length : K) := by
        rw [hlast]
        simp
      rw [hcount]
      linarith

/-- The grants themselves, each taken for the event it pays for. -/
theorem Spaced.length_window_le {grants : List K} (hspaced : Spaced rate burst grants)
    (hrate : 0 ≤ rate) (hburst : 1 ≤ burst) (start length : K) (hlength : 0 ≤ length) :
    ((grants.filter fun grantedAt => start ≤ grantedAt ∧ grantedAt ≤ start + length).length : K) ≤
      burst + rate * length := by
  let prompt (grantedAt : K) : Event K := ⟨grantedAt, grantedAt⟩
  have hgrants : (grants.map prompt).map Event.grantedAt = grants := by
    rw [List.map_map]
    exact List.map_id grants
  have hsteady : Steady (grants.map prompt) :=
    List.pairwise_map.mpr (List.pairwise_of_forall fun _ _ => by simp [prompt, Event.lag])
  have hwindow := TokenBucket.length_window_le hrate hburst (hgrants.symm ▸ hspaced) hsteady
    start length hlength
  rwa [List.filter_map, List.length_map] at hwindow

end Windows

end TokenBucket

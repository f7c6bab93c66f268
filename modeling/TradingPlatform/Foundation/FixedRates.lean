import Mathlib.Algebra.Order.Floor.Ring
import Mathlib.Tactic.FieldSimp
import Mathlib.Tactic.Linarith
import Mathlib.Tactic.Positivity
import Mathlib.Tactic.Ring

/-! # Fixed rates

A due time that is over moves on by whole intervals until it lies ahead, so it stays on
the grid it started on. Events that are taken in different intervals of the grid, none
of them right before a point of it, are as few in a window as the intervals that the
window can touch.
-/

namespace FixedRate

variable {K : Type} [Field K] [LinearOrder K]

/-- The first due time after `now`, from one that may be over. -/
def nextAfter [IsStrictOrderedRing K] [FloorRing K] (interval : {seconds : K // 0 < seconds})
    (now due : K) : K :=
  if due ≤ now then nextAfter interval now (due + interval) else due
termination_by (⌊(now - due) / interval⌋ + 1).toNat
decreasing_by
  next hover =>
    have hpos := interval.property
    have hstep : (now - (due + interval)) / (interval : K) = (now - due) / interval - 1 := by
      field_simp
      ring
    have hfloor : 0 ≤ ⌊(now - due) / (interval : K)⌋ :=
      Int.floor_nonneg.mpr (div_nonneg (sub_nonneg.mpr hover) hpos.le)
    rw [hstep, Int.floor_sub_one]
    omega

variable [IsStrictOrderedRing K] [FloorRing K]

section Due

variable (interval : {seconds : K // 0 < seconds}) {now due : K}

theorem nextAfter_of_lt (hahead : now < due) : nextAfter interval now due = due := by
  rw [nextAfter, if_neg (not_le.mpr hahead)]

theorem nextAfter_of_le (hover : due ≤ now) :
    nextAfter interval now due = nextAfter interval now (due + interval) := by
  rw [nextAfter, if_pos hover]

theorem lt_nextAfter (now due : K) : now < nextAfter interval now due := by
  induction due using nextAfter.induct interval now with
  | case1 due hover ih => rwa [nextAfter_of_le interval hover]
  | case2 due hahead =>
      rw [nextAfter, if_neg hahead]
      exact not_le.mp hahead

/-- The due time stays on its grid. -/
theorem exists_nextAfter_eq (now due : K) :
    ∃ k : ℕ, nextAfter interval now due = due + k * interval := by
  induction due using nextAfter.induct interval now with
  | case1 due hover ih =>
      obtain ⟨k, hk⟩ := ih
      refine ⟨k + 1, ?_⟩
      rw [nextAfter_of_le interval hover, hk]
      push_cast
      ring
  | case2 due hahead =>
      exact ⟨0, by rw [nextAfter, if_neg hahead, Nat.cast_zero, zero_mul, add_zero]⟩

theorem le_nextAfter (now due : K) : due ≤ nextAfter interval now due := by
  obtain ⟨k, hk⟩ := exists_nextAfter_eq interval now due
  rw [hk]
  exact le_add_of_nonneg_right (mul_nonneg (Nat.cast_nonneg k) interval.property.le)

/-- A due time that is over moves on by an interval at least. -/
theorem add_le_nextAfter (hover : due ≤ now) :
    due + interval ≤ nextAfter interval now due := by
  rw [nextAfter_of_le interval hover]
  exact le_nextAfter interval now (due + interval)

/-- It moves on no further than it has to. -/
theorem nextAfter_le (hover : due ≤ now) : nextAfter interval now due ≤ now + interval := by
  induction due using nextAfter.induct interval now with
  | case1 due _ ih =>
      rw [nextAfter_of_le interval hover]
      rcases le_or_gt (due + interval) now with hagain | hahead
      · exact ih hagain
      · rw [nextAfter_of_lt interval hahead]
        exact add_le_add_left hover _
  | case2 due hahead => exact absurd hover hahead

/-- No point of the grid lies in a margin after an instant. -/
def Clear (margin now due : K) : Prop :=
  ∀ k : ℕ, due + k * interval ≤ now ∨ now + margin < due + k * interval

/-- The next due time is the first point of the grid ahead. -/
theorem clear_iff {margin : K} :
    Clear interval margin now due ↔ now + margin < nextAfter interval now due := by
  constructor
  · intro hclear
    obtain ⟨k, hk⟩ := exists_nextAfter_eq interval now due
    have hahead := lt_nextAfter interval now due
    rcases hclear k with hbehind | hbeyond
    · rw [hk] at hahead
      exact absurd hahead (not_lt.mpr hbehind)
    · rwa [hk]
  · intro hbeyond k
    rcases le_or_gt (due + k * interval) now with hbehind | hahead
    · exact .inl hbehind
    · refine .inr (hbeyond.trans_le ?_)
      induction k generalizing due with
      | zero =>
          rw [Nat.cast_zero, zero_mul, add_zero] at hahead ⊢
          rw [nextAfter_of_lt interval hahead]
      | succ k ih =>
          have hshift : due + ((k + 1 : ℕ) : K) * interval = due + interval + k * interval := by
            push_cast
            ring
          rw [hshift] at hahead ⊢
          rcases le_or_gt due now with hover | hfirst
          · rw [nextAfter_of_le interval hover] at hbeyond ⊢
            exact ih hbeyond hahead
          · rw [nextAfter_of_lt interval hfirst, add_assoc]
            exact le_add_of_nonneg_right (add_nonneg interval.property.le
              (mul_nonneg (Nat.cast_nonneg k) interval.property.le))

end Due

section Windows

/-- An event, and the start of the interval of the grid it is taken in. -/
structure Slotted (K : Type) where
  takenAt : K
  slot : K

variable {interval margin : K}

/-- Events, latest first, in intervals of the grid that are all different. -/
def Spaced (interval : K) (events : List (Slotted K)) : Prop :=
  events.Pairwise fun later earlier => earlier.slot + interval ≤ later.slot

omit [FloorRing K] in
theorem Spaced.slot_le {first last : Slotted K} {middle : List (Slotted K)}
    (hspaced : Spaced interval (first :: middle ++ [last])) :
    last.slot + (middle.length + 1) * interval ≤ first.slot := by
  induction middle generalizing first with
  | nil => simpa using List.rel_of_pairwise_cons hspaced (List.mem_singleton_self last)
  | cons second rest ih =>
      have hfirst := List.rel_of_pairwise_cons hspaced (List.mem_append_left _ List.mem_cons_self)
      have hsecond := ih (List.Pairwise.of_cons hspaced)
      rw [List.length_cons, Nat.cast_succ]
      linarith

/-- In a window of some length, where each of the events is within its interval up to a
margin at the end. -/
theorem Spaced.length_le {events : List (Slotted K)} (hspaced : Spaced interval events)
    (hinterval : 0 < interval) (hmargin : margin < interval)
    (hslot : ∀ event ∈ events, event.slot ≤ event.takenAt ∧
      event.takenAt + margin < event.slot + interval)
    {start length : K} (hlength : 0 ≤ length)
    (hwindow : ∀ event ∈ events, start ≤ event.takenAt ∧ event.takenAt ≤ start + length) :
    (events.length : ℤ) ≤ ⌈(length - margin) / interval⌉ + 1 := by
  have hceil : 0 ≤ ⌈(length - margin) / interval⌉ := by
    have hlow : (-1 : K) < (length - margin) / interval := by
      rw [lt_div_iff₀ hinterval]
      linarith
    have hcast : ((-1 : ℤ) : K) < (length - margin) / interval := by
      rwa [Int.cast_neg, Int.cast_one]
    have := Int.lt_ceil.mpr hcast
    omega
  rcases List.eq_nil_or_concat events with hnil | ⟨front, last, hlast⟩
  · rw [hnil, List.length_nil]
    omega
  rw [List.concat_eq_append] at hlast
  cases front with
  | nil =>
      rw [hlast, List.nil_append, List.length_singleton]
      omega
  | cons first middle =>
      subst hlast
      have hslots := hspaced.slot_le
      have hfirst := (hslot first (by simp)).1
      have hend := (hwindow first (by simp)).2
      have hstart := (hwindow last (by simp)).1
      have hlate := (hslot last (by simp)).2
      have hspan : ((middle.length : ℤ) : K) < (length - margin) / interval := by
        rw [lt_div_iff₀ hinterval, Int.cast_natCast]
        linarith
      have hcount := Int.lt_ceil.mpr hspan
      simp only [List.length_append, List.length_cons, List.length_nil]
      push_cast
      omega

end Windows

end FixedRate

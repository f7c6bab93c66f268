import Mathlib.Algebra.Order.Group.Defs
import Mathlib.Data.List.Basic
import Mathlib.Algebra.Order.Group.Basic
import Mathlib.Tactic.Abel

/-! # Sliding windows

A limiter remembers the readings of the clock at which it granted requests, and forgets
those that have left the window. Requests enter it one after another, each with a reading
that was taken some time before, so that what it remembers need not be in order. However
the requests come, in no window that is shorter by the delay of the readings does it grant
more of them than its capacity.
-/

namespace SlidingWindow

variable {T : Type} [AddCommGroup T] [LinearOrder T]

/-- How many requests are granted within a window. -/
structure Limit (T : Type) where
  window : T
  capacity : ℕ

/-- When a request read the clock, and when it entered the limiter. -/
structure Request (T : Type) where
  reading : T
  entered : T

namespace Limit

variable (l : Limit T)

/-- What is left when the readings at the front have left the window. -/
def kept (reading : T) (grants : List T) : List T :=
  grants.dropWhile fun grant => grant ≤ reading - l.window

/-- Whether a request is granted, and what the limiter remembers after it. -/
def enter (reading : T) (grants : List T) : Bool × List T :=
  let kept := l.kept reading grants
  if l.capacity ≤ kept.length then (false, kept) else (true, kept ++ [reading])

/-- The requests that are granted, one after another. -/
def granted (grants : List T) : List (Request T) → List (Request T)
  | [] => []
  | request :: rest =>
      let (grant, after) := l.enter request.reading grants
      if grant then request :: granted after rest else granted after rest

variable {l} {grants : List T} {reading : T}

theorem enter_of_full (hfull : l.capacity ≤ (l.kept reading grants).length) :
    l.enter reading grants = (false, l.kept reading grants) := if_pos hfull

theorem enter_of_room (hroom : ¬ l.capacity ≤ (l.kept reading grants).length) :
    l.enter reading grants = (true, l.kept reading grants ++ [reading]) := if_neg hroom

theorem granted_cons (request : Request T) (rest : List (Request T)) :
    l.granted grants (request :: rest) =
      if (l.enter request.reading grants).1 then
        request :: l.granted (l.enter request.reading grants).2 rest
      else l.granted (l.enter request.reading grants).2 rest := (rfl)

theorem kept_sublist (reading : T) (grants : List T) : (l.kept reading grants).Sublist grants :=
  List.dropWhile_sublist _

/-- A limiter remembers no more than its capacity. -/
theorem length_enter_le (reading : T) (hlength : grants.length ≤ l.capacity) :
    (l.enter reading grants).2.length ≤ l.capacity := by
  have hkept := (l.kept_sublist reading grants).length_le
  by_cases hfull : l.capacity ≤ (l.kept reading grants).length
  · rw [enter_of_full hfull]
    exact hkept.trans hlength
  · rw [enter_of_room hfull, List.length_append, List.length_singleton]
    exact Nat.lt_of_not_le hfull

/-- What is in the window of a later reading is not forgotten. -/
theorem filter_sublist_kept [IsOrderedAddMonoid T] {later : T} (hlater : reading ≤ later) :
    (grants.filter fun grant => later - l.window < grant).Sublist (l.kept reading grants) := by
  unfold kept
  induction grants with
  | nil => exact List.Sublist.slnil
  | cons grant rest ih =>
      by_cases hleft : grant ≤ reading - l.window
      · have hgone : ¬ later - l.window < grant :=
          not_lt.mpr (hleft.trans (sub_le_sub_right hlater _))
        rw [List.filter_cons_of_neg (by simpa using hgone),
          List.dropWhile_cons_of_pos (by simpa using hleft)]
        exact ih
      · rw [List.dropWhile_cons_of_neg (by simpa using hleft)]
        exact List.filter_sublist

section Bound

/-- The requests that entered within a window that begins after an instant. -/
def entering (length start : T) (requests : List (Request T)) : List (Request T) :=
  requests.filter fun request => start < request.entered ∧ request.entered ≤ start + length

/-- The requests that read the clock within the window of an instant. -/
def recent (l : Limit T) (now : T) (requests : List (Request T)) : List (Request T) :=
  requests.filter fun request => now - l.window < request.reading

/-- What the limiter remembers accounts for what it has granted up to an instant. -/
structure Accounts (l : Limit T) (delay now : T) (grants : List T) (past : List (Request T)) :
    Prop where
  entered_le : ∀ request ∈ past, request.entered ≤ now
  delayed : ∀ request ∈ past, request.entered ≤ request.reading + delay
  remembered : ((l.recent now past).map Request.reading).Sublist grants
  length_le : grants.length ≤ l.capacity
  bounded : ∀ start, (entering (l.window - delay) start past).length ≤ l.capacity

variable {delay now start : T} {past : List (Request T)} {request : Request T}

theorem accounts_nil (now : T) : l.Accounts delay now [] [] :=
  ⟨by simp, by simp, by simp [recent], Nat.zero_le _, by simp [entering]⟩

variable [IsOrderedAddMonoid T]

/-- A later request finds remembered what read the clock within its own window. -/
theorem Accounts.recent_sublist (hpast : l.Accounts delay now grants past)
    (hnow : now ≤ request.entered) (hreading : request.reading ≤ request.entered) :
    ((l.recent request.entered past).map Request.reading).Sublist
      (l.kept request.reading grants) := by
  have hrecent : (l.recent request.entered past).map Request.reading =
      ((l.recent now past).map Request.reading).filter fun reading =>
        request.entered - l.window < reading := by
    unfold recent
    rw [List.filter_map, List.filter_filter]
    congr 1
    apply List.filter_congr
    intro other _
    have hmono : now - l.window ≤ request.entered - l.window := sub_le_sub_right hnow _
    simp only [Function.comp_apply, ← Bool.decide_and, decide_eq_decide]
    exact ⟨fun hother => ⟨hother, hmono.trans_lt hother⟩, And.left⟩
  rw [hrecent]
  exact (hpast.remembered.filter _).trans (filter_sublist_kept hreading)

/-- What was granted in the window of a request is remembered when it enters. -/
theorem Accounts.entering_le (hpast : l.Accounts delay now grants past)
    (hnow : now ≤ request.entered) (hreading : request.reading ≤ request.entered)
    (hwithin : request.entered ≤ start + (l.window - delay)) :
    (entering (l.window - delay) start past).length ≤ (l.kept request.reading grants).length := by
  have hrecent : (entering (l.window - delay) start past).length ≤
      (l.recent request.entered past).length := by
    unfold entering recent
    rw [← List.countP_eq_length_filter, ← List.countP_eq_length_filter]
    apply List.countP_mono_left
    intro other hother hentering
    rw [decide_eq_true_eq] at hentering ⊢
    have hdelayed := hpast.delayed other hother
    calc request.entered - l.window ≤ start + (l.window - delay) - l.window :=
          sub_le_sub_right hwithin _
      _ = start - delay := by abel
      _ < other.entered - delay := sub_lt_sub_right hentering.1 _
      _ ≤ other.reading := sub_le_iff_le_add.mpr hdelayed
  have hkept := (hpast.recent_sublist hnow hreading).length_le
  rw [List.length_map] at hkept
  exact hrecent.trans hkept

/-- One request keeps the account, with the request in it when it is granted. -/
theorem Accounts.enter (hpast : l.Accounts delay now grants past)
    (hnow : now ≤ request.entered) (hreading : request.reading ≤ request.entered)
    (hdelayed : request.entered ≤ request.reading + delay) :
    l.Accounts delay request.entered (l.enter request.reading grants).2
      (if (l.enter request.reading grants).1 then past ++ [request] else past) := by
  have hremembered := hpast.recent_sublist hnow hreading
  have hlength := length_enter_le request.reading hpast.length_le
  by_cases hfull : l.capacity ≤ (l.kept request.reading grants).length
  · rw [enter_of_full hfull] at hlength ⊢
    exact ⟨fun other hother => (hpast.entered_le other hother).trans hnow, hpast.delayed,
      hremembered, hlength, hpast.bounded⟩
  · rw [enter_of_room hfull] at hlength ⊢
    rw [if_pos rfl]
    refine ⟨?_, ?_, ?_, hlength, fun start => ?_⟩
    · intro other hother
      rcases List.mem_append.mp hother with hold | hlast
      · exact (hpast.entered_le other hold).trans hnow
      · rw [List.mem_singleton.mp hlast]
    · intro other hother
      rcases List.mem_append.mp hother with hold | hlast
      · exact hpast.delayed other hold
      · rw [List.mem_singleton.mp hlast]
        exact hdelayed
    · rw [recent, List.filter_append, List.map_append]
      apply hremembered.append
      exact List.filter_sublist.map _
    · rw [entering, List.filter_append, List.length_append]
      by_cases hwithin : request.entered ≤ start + (l.window - delay)
      · have hold := hpast.entering_le hnow hreading hwithin
        have hroom := Nat.lt_of_not_le hfull
        have hone : (entering (l.window - delay) start [request]).length ≤ 1 :=
          List.length_filter_le _ _
        unfold entering at hold hone
        omega
      · rw [List.filter_cons_of_neg (by simpa using fun _ => hwithin)]
        exact hpast.bounded start

/-- **The bound.** When the requests enter in the order of their instants, each of them no
later after its reading than the delay, no window that is shorter by the delay sees more
grants than the capacity. -/
theorem Accounts.bounded_granted (hpast : l.Accounts delay now grants past) (start : T)
    {requests : List (Request T)} (hordered : (requests.map Request.entered).Pairwise (· ≤ ·))
    (hnow : ∀ request ∈ requests, now ≤ request.entered)
    (hreading : ∀ request ∈ requests, request.reading ≤ request.entered ∧
      request.entered ≤ request.reading + delay) :
    (entering (l.window - delay) start (past ++ l.granted grants requests)).length ≤
      l.capacity := by
  induction requests generalizing now grants past with
  | nil => simpa [granted] using hpast.bounded start
  | cons request rest ih =>
      rw [List.map_cons, List.pairwise_cons] at hordered
      obtain ⟨hafter, hbefore⟩ := hreading request List.mem_cons_self
      have hnext := hpast.enter (hnow request List.mem_cons_self) hafter hbefore
      have hrest := ih hnext hordered.2
        (fun other hother => hordered.1 _ (List.mem_map_of_mem hother))
        (fun other hother => hreading other (List.mem_cons_of_mem _ hother))
      rw [granted_cons]
      split_ifs at hrest ⊢ with hgrant
      · rwa [List.append_assoc] at hrest
      · exact hrest

theorem length_entering_granted_le {requests : List (Request T)}
    (hordered : (requests.map Request.entered).Pairwise (· ≤ ·))
    (hreading : ∀ request ∈ requests, request.reading ≤ request.entered ∧
      request.entered ≤ request.reading + delay) (start : T) :
    (entering (l.window - delay) start (l.granted [] requests)).length ≤ l.capacity := by
  cases requests with
  | nil => simp [granted, entering]
  | cons request rest =>
      have hbound := (accounts_nil (l := l) request.entered).bounded_granted start hordered
        ?_ hreading
      · simpa using hbound
      · intro other hother
        rcases List.mem_cons.mp hother with rfl | hrest
        · exact le_rfl
        · rw [List.map_cons, List.pairwise_cons] at hordered
          exact hordered.1 _ (List.mem_map_of_mem hrest)

end Bound

section Waiting

variable [IsOrderedAddMonoid T] {first : T} {rest : List T}

/-- A full limiter grants nothing until what it has remembered longest leaves the window,
and remembers what it did. -/
theorem enter_of_lt (hfull : l.capacity ≤ (first :: rest).length)
    (hbefore : reading < first + l.window) :
    l.enter reading (first :: rest) = (false, first :: rest) := by
  have hkept : l.kept reading (first :: rest) = first :: rest := by
    apply List.dropWhile_cons_of_neg
    simpa [sub_lt_iff_lt_add] using hbefore
  rw [enter_of_full (by rw [hkept]; exact hfull), hkept]

/-- From then on the next request is granted. -/
theorem enter_of_le (hlength : (first :: rest).length ≤ l.capacity)
    (hafter : first + l.window ≤ reading) : (l.enter reading (first :: rest)).1 = true := by
  have hkept : l.kept reading (first :: rest) = l.kept reading rest := by
    apply List.dropWhile_cons_of_pos
    simpa [le_sub_iff_add_le] using hafter
  have hshorter := (l.kept_sublist reading rest).length_le
  rw [List.length_cons] at hlength
  rw [enter_of_room]
  rw [hkept]
  omega

omit [IsOrderedAddMonoid T] in
/-- What has been remembered longest is still in the window. -/
theorem lt_of_kept_eq (hkept : l.kept reading grants = first :: rest) :
    reading - l.window < first := by
  have hhead := List.head?_dropWhile_not (fun grant => decide (grant ≤ reading - l.window)) grants
  rw [show grants.dropWhile _ = first :: rest from hkept] at hhead
  simpa using hhead

theorem granted_of_lt {requests : List (Request T)} (hfull : l.capacity ≤ (first :: rest).length)
    (hbefore : ∀ request ∈ requests, request.reading < first + l.window) :
    l.granted (first :: rest) requests = [] := by
  induction requests with
  | nil => rfl
  | cons request more ih =>
      rw [granted_cons, enter_of_lt hfull (hbefore request List.mem_cons_self)]
      exact ih fun other hother => hbefore other (List.mem_cons_of_mem _ hother)

end Waiting

end Limit

end SlidingWindow

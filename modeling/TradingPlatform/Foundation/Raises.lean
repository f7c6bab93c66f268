import Mathlib.Data.List.Forall2

/-! # Computations that raise

When a computation that may raise does so, in terms of its parts. The rules
follow the shape of the computation, so that a condition on what it is given
can be read off.
-/

/-- An exception; some handlers only take runtime errors. -/
structure HostError where
  isRuntimeError : Bool
  text : String
deriving DecidableEq

namespace HostError

def runtime (text : String) : HostError := ⟨true, text⟩

def other (text : String) : HostError := ⟨false, text⟩

/-- A reader's failure as an exception that is no runtime error. -/
def ofText {α : Type} : Except String α → Except HostError α
  | .ok value => .ok value
  | .error text => .error (other text)

end HostError

section Rules

variable {ε α β : Type}

def Raises (x : Except ε α) : Prop := ∃ e, x = .error e

@[simp] theorem raises_error (e : ε) : Raises (.error e : Except ε α) := ⟨e, rfl⟩

@[simp] theorem not_raises_ok (a : α) : ¬ Raises (.ok a : Except ε α) := nofun

@[simp] theorem not_raises_pure (a : α) : ¬ Raises (pure a : Except ε α) := nofun

theorem not_raises_iff {x : Except ε α} : ¬ Raises x ↔ ∃ a, x = .ok a := by
  cases x with
  | error e => exact iff_of_false (fun hnot => hnot ⟨e, rfl⟩) nofun
  | ok a => exact iff_of_true nofun ⟨a, rfl⟩

theorem raises_bind_iff {x : Except ε α} {f : α → Except ε β} :
    Raises (x >>= f) ↔ Raises x ∨ ∃ a, x = .ok a ∧ Raises (f a) := by
  cases x with
  | error e => exact iff_of_true ⟨e, rfl⟩ (Or.inl ⟨e, rfl⟩)
  | ok a =>
      constructor
      · exact fun hraises => Or.inr ⟨a, rfl, hraises⟩
      · rintro (⟨e, herror⟩ | ⟨b, hok, hraises⟩)
        · cases herror
        · cases hok
          exact hraises

/-- The second part raises whatever the first one gives, or never. -/
theorem raises_bind_iff_or {x : Except ε α} {f : α → Except ε β} {p : Prop}
    (hsecond : ∀ a, Raises (f a) ↔ p) : Raises (x >>= f) ↔ Raises x ∨ p := by
  cases x with
  | error e => exact iff_of_true ⟨e, rfl⟩ (Or.inl ⟨e, rfl⟩)
  | ok a => exact (hsecond a).trans (or_iff_right (not_raises_ok a)).symm

@[simp] theorem raises_bind_pure_iff {x : Except ε α} {g : α → β} :
    Raises (x >>= fun a => pure (g a)) ↔ Raises x := by
  cases x with
  | error e => exact iff_of_true ⟨e, rfl⟩ ⟨e, rfl⟩
  | ok a => exact iff_of_false (not_raises_ok _) (not_raises_ok _)

@[simp] theorem raises_map_iff {x : Except ε α} {f : α → β} : Raises (f <$> x) ↔ Raises x := by
  cases x with
  | error e => exact iff_of_true ⟨e, rfl⟩ ⟨e, rfl⟩
  | ok a => exact iff_of_false nofun nofun

@[simp] theorem raises_discard_iff {x : Except ε α} : Raises (discard x) ↔ Raises x := by
  cases x with
  | error e => exact iff_of_true ⟨e, rfl⟩ ⟨e, rfl⟩
  | ok a => exact iff_of_false nofun nofun

/-- Two computations one after the other, the second one not reading the first. -/
theorem raises_seq_iff {x : Except ε α} {y : Except ε β} :
    Raises (x >>= fun _ => y) ↔ Raises x ∨ Raises y :=
  raises_bind_iff_or fun _ => Iff.rfl

theorem bind_eq_ok_iff {x : Except ε α} {f : α → Except ε β} {b : β} :
    (x >>= f) = .ok b ↔ ∃ a, x = .ok a ∧ f a = .ok b := by
  cases x with
  | error e => exact iff_of_false nofun nofun
  | ok a => exact ⟨fun hok => ⟨a, rfl, hok⟩, fun ⟨_, hx, hok⟩ => by cases hx; exact hok⟩

theorem toOption_eq_some_iff {x : Except ε α} {a : α} : x.toOption = some a ↔ x = .ok a := by
  cases x <;> simp [Except.toOption]

theorem join_toOption_eq_some_iff {x : Except ε (Option α)} {a : α} :
    x.toOption.join = some a ↔ x = .ok (some a) := by
  rw [Option.join_eq_some_iff, toOption_eq_some_iff]

/-- What follows matters where there is something to go on with. -/
theorem bind_congr_of_ok {x : Except ε α} {f g : α → Except ε β}
    (hsame : ∀ a, x = .ok a → f a = g a) : (x >>= f) = (x >>= g) := by
  cases x with
  | error e => rfl
  | ok a => exact hsame a rfl

/-- Going through a list raises exactly when some element does. -/
theorem raises_mapM_iff {f : α → Except ε β} {xs : List α} :
    Raises (xs.mapM f) ↔ ∃ x ∈ xs, Raises (f x) := by
  induction xs with
  | nil => simp
  | cons x rest ih =>
      rw [List.mapM_cons, raises_bind_iff, List.exists_mem_cons_iff]
      by_cases hx : Raises (f x)
      · exact iff_of_true (Or.inl hx) (Or.inl hx)
      · obtain ⟨b, hb⟩ := not_raises_iff.mp hx
        rw [← ih]
        simp [hb]

/-- What going through a list gives, element by element. -/
theorem mapM_eq_ok_iff {f : α → Except ε β} {xs : List α} {ys : List β} :
    xs.mapM f = .ok ys ↔ List.Forall₂ (fun x y => f x = .ok y) xs ys := by
  induction xs generalizing ys with
  | nil =>
      rw [List.mapM_nil, List.forall₂_nil_left_iff]
      exact ⟨fun hok => (Except.ok.inj hok).symm, fun hnil => congrArg Except.ok hnil.symm⟩
  | cons x rest ih =>
      rw [List.mapM_cons, bind_eq_ok_iff, List.forall₂_cons_left_iff]
      constructor
      · rintro ⟨y, hy, hrest⟩
        obtain ⟨tail, htail, hok⟩ := bind_eq_ok_iff.mp hrest
        exact ⟨y, tail, hy, ih.mp htail, (Except.ok.inj hok).symm⟩
      · rintro ⟨y, tail, hy, htail, rfl⟩
        exact ⟨y, hy, bind_eq_ok_iff.mpr ⟨tail, ih.mpr htail, rfl⟩⟩

/-- What going through a list gives comes from its elements. -/
theorem exists_of_mem_mapM {f : α → Except ε β} {xs : List α} {ys : List β}
    (hok : xs.mapM f = .ok ys) {y : β} (hmem : y ∈ ys) : ∃ x ∈ xs, f x = .ok y := by
  have hall := mapM_eq_ok_iff.mp hok
  clear hok
  induction hall with
  | nil => simp at hmem
  | cons hhead _ ih =>
      rcases List.mem_cons.mp hmem with rfl | htail
      · exact ⟨_, List.mem_cons_self, hhead⟩
      · obtain ⟨x, hx, hxok⟩ := ih htail
        exact ⟨x, List.mem_cons_of_mem _ hx, hxok⟩

theorem mapM_congr_of_mem {f g : α → Except ε β} {xs : List α} (hsame : ∀ x ∈ xs, f x = g x) :
    xs.mapM f = xs.mapM g := by
  induction xs with
  | nil => rfl
  | cons x rest ih =>
      rw [List.mapM_cons, List.mapM_cons, hsame x List.mem_cons_self,
        ih fun y hy => hsame y (List.mem_cons_of_mem _ hy)]

/-- What going through a list keeps of each element. -/
theorem map_of_mapM_eq_ok {γ : Type} {f : α → Except ε β} {g : α → γ} {h : β → γ}
    (hkeeps : ∀ x y, f x = .ok y → h y = g x) {xs : List α} {ys : List β}
    (hok : xs.mapM f = .ok ys) : ys.map h = xs.map g := by
  have hforall := mapM_eq_ok_iff.mp hok
  clear hok
  induction hforall with
  | nil => rfl
  | cons hhead _ ih => rw [List.map_cons, List.map_cons, ih, hkeeps _ _ hhead]

/-- Going through a list where no element raises. -/
theorem mapM_eq_ok_map {f : α → Except ε β} {g : α → β} {xs : List α}
    (hok : ∀ x ∈ xs, f x = .ok (g x)) : xs.mapM f = .ok (xs.map g) := by
  refine mapM_eq_ok_iff.mpr ?_
  rw [List.forall₂_map_right_iff, List.forall₂_same]
  exact hok

@[simp] theorem raises_ofText {x : Except String α} :
    Raises (HostError.ofText x) ↔ Raises x := by
  cases x with
  | error text => exact iff_of_true ⟨_, rfl⟩ ⟨_, rfl⟩
  | ok a => exact iff_of_false nofun nofun

end Rules

section Attempts

variable {ε α β : Type}

/-- What was attempted of a list of jobs, and the exception that ended it. -/
structure Attempts (ε α : Type) where
  attempted : List α
  raised : Option ε

namespace Attempts

/-- The attempts as one computation. -/
def outcome (attempts : Attempts ε α) : Except ε Unit :=
  match attempts.raised with
  | none => .ok ()
  | some e => .error e

theorem raises_outcome_iff {attempts : Attempts ε α} :
    Raises attempts.outcome ↔ attempts.raised ≠ none := by
  unfold outcome
  cases attempts.raised <;> simp

end Attempts

/-- Attempt the jobs in order, up to the first one that raises or that finds a stop
requested. -/
def attemptAll (stopRequested : α → Bool) (job : α → Except ε β) : List α → Attempts ε α
  | [] => ⟨[], none⟩
  | x :: rest =>
      if stopRequested x then ⟨[], none⟩
      else
        match job x with
        | .error e => ⟨[x], some e⟩
        | .ok _ =>
            ⟨x :: (attemptAll stopRequested job rest).attempted,
              (attemptAll stopRequested job rest).raised⟩

variable {stopRequested : α → Bool} {job : α → Except ε β} {jobs : List α}

/-- Without a stop the jobs end by an exception exactly when some job raises. -/
theorem raised_attemptAll_iff (hgo : ∀ x ∈ jobs, stopRequested x = false) :
    (attemptAll stopRequested job jobs).raised = none ↔ ∀ x ∈ jobs, ¬ Raises (job x) := by
  induction jobs with
  | nil => simp [attemptAll]
  | cons x rest ih =>
      rw [attemptAll, hgo x List.mem_cons_self, List.forall_mem_cons,
        ← ih fun y hy => hgo y (List.mem_cons_of_mem _ hy)]
      cases job x <;> simp

/-- Jobs that are not ended are all attempted. -/
theorem attempted_attemptAll (hgo : ∀ x ∈ jobs, stopRequested x = false)
    (hraised : (attemptAll stopRequested job jobs).raised = none) :
    (attemptAll stopRequested job jobs).attempted = jobs := by
  induction jobs with
  | nil => rfl
  | cons x rest ih =>
      rw [attemptAll, hgo x List.mem_cons_self] at hraised ⊢
      cases hjob : job x with
      | error e => simp [hjob] at hraised
      | ok y =>
          simp only [hjob, Bool.false_eq_true, if_false] at hraised ⊢
          rw [ih (fun y hy => hgo y (List.mem_cons_of_mem _ hy)) hraised]

end Attempts

import Mathlib.Data.List.Basic

/-! # Runs of labelled steps

A system takes one labelled step after another. What a run keeps to in all the
states it goes through is reduced to what a step does: an invariant that every
admissible step keeps holds throughout a run of admissible steps, and when it
takes an admissible step to keep it, only such a run stays in it.
-/

namespace Runs

variable {State Label : Type} (step : State → Label → State)

/-- The state after a run. -/
def after (s : State) (labels : List Label) : State := labels.foldl step s

/-- Every step of a run is taken where a condition holds. -/
def Along (condition : State → Label → Prop) (s : State) : List Label → Prop
  | [] => True
  | label :: rest => condition s label ∧ Along condition (step s label) rest

/-- Every state that a run goes through has a property. -/
def Throughout (property : State → Prop) (s : State) (labels : List Label) : Prop :=
  ∀ done, done <+: labels → property (after step s done)

/-- Some step of a run is taken where a condition holds. -/
def Meets (condition : State → Label → Prop) (s : State) : List Label → Prop
  | [] => False
  | label :: rest => condition s label ∨ Meets condition (step s label) rest

/-- Once it holds in a state that a run goes through, a property holds in all the
states that come after. -/
def Persists (property : State → Prop) (s : State) (labels : List Label) : Prop :=
  ∀ first second, first ++ second <+: labels →
    property (after step s first) → property (after step s (first ++ second))

variable {step} {condition : State → Label → Prop} {property invariant : State → Prop}
  {s : State} {label : Label} {labels rest : List Label}

@[simp] theorem after_nil : after step s [] = s := rfl

@[simp] theorem after_cons : after step s (label :: rest) = after step (step s label) rest := rfl

theorem after_append (first second : List Label) :
    after step s (first ++ second) = after step (after step s first) second :=
  List.foldl_append

@[simp] theorem along_nil : Along step condition s [] := trivial

@[simp] theorem along_cons : Along step condition s (label :: rest) ↔
    condition s label ∧ Along step condition (step s label) rest := Iff.rfl

theorem along_append {first second : List Label} :
    Along step condition s (first ++ second) ↔
      Along step condition s first ∧ Along step condition (after step s first) second := by
  induction first generalizing s with
  | nil => simp
  | cons label rest ih => simp [ih, and_assoc]

@[simp] theorem meets_nil : ¬ Meets step condition s [] := id

@[simp] theorem meets_cons : Meets step condition s (label :: rest) ↔
    condition s label ∨ Meets step condition (step s label) rest := Iff.rfl

instance Along.decidable [∀ s label, Decidable (condition s label)] (s : State) :
    (labels : List Label) → Decidable (Along step condition s labels)
  | [] => inferInstanceAs (Decidable True)
  | label :: rest =>
      have := Along.decidable (step s label) rest
      inferInstanceAs (Decidable (condition s label ∧ Along step condition (step s label) rest))

theorem Along.mono {weaker : State → Label → Prop}
    (halong : Along step condition s labels)
    (hweaker : ∀ s label, condition s label → weaker s label) : Along step weaker s labels := by
  induction labels generalizing s with
  | nil => trivial
  | cons label rest ih => exact ⟨hweaker s label halong.1, ih halong.2⟩

theorem throughout_nil : Throughout step property s [] ↔ property s := by
  simp [Throughout]

theorem throughout_cons : Throughout step property s (label :: rest) ↔
    property s ∧ Throughout step property (step s label) rest := by
  constructor
  · intro hall
    refine ⟨hall [] List.nil_prefix, fun done hdone => ?_⟩
    exact hall (label :: done) ((List.prefix_cons_inj label).mpr hdone)
  · intro hall done hdone
    cases done with
    | nil => exact hall.1
    | cons first more =>
        obtain ⟨rfl, hmore⟩ := List.cons_prefix_cons.mp hdone
        exact hall.2 more hmore

instance Throughout.decidable [∀ s, Decidable (property s)] (s : State) :
    (labels : List Label) → Decidable (Throughout step property s labels)
  | [] => decidable_of_iff (property s) throughout_nil.symm
  | label :: rest =>
      have := Throughout.decidable (step s label) rest
      decidable_of_iff (property s ∧ Throughout step property (step s label) rest)
        throughout_cons.symm

theorem Throughout.start (hall : Throughout step property s labels) : property s :=
  hall [] List.nil_prefix

theorem Throughout.last (hall : Throughout step property s labels) :
    property (after step s labels) :=
  hall labels (List.prefix_refl labels)

theorem Throughout.mono (hall : Throughout step invariant s labels)
    (hweaker : ∀ s, invariant s → property s) : Throughout step property s labels :=
  fun done hdone => hweaker _ (hall done hdone)

/-- The rule of invariants. -/
theorem Along.throughout (halong : Along step condition s labels) (hstart : invariant s)
    (hstep : ∀ s label, invariant s → condition s label → invariant (step s label)) :
    Throughout step invariant s labels := by
  induction labels generalizing s with
  | nil => exact throughout_nil.mpr hstart
  | cons label rest ih =>
      exact throughout_cons.mpr ⟨hstart, ih halong.2 (hstep s label hstart halong.1)⟩

theorem Along.upTo (halong : Along step condition s labels) {done : List Label}
    (hdone : done <+: labels) : Along step condition s done := by
  obtain ⟨rest, rfl⟩ := hdone
  exact (along_append.mp halong).1

/-- What admissible steps keep, given an invariant, persists in a run of them. -/
theorem Along.persists (halong : Along step condition s labels) (hstart : invariant s)
    (hstep : ∀ s label, invariant s → condition s label → invariant (step s label))
    (hkeep : ∀ s label, invariant s → condition s label → property s → property (step s label)) :
    Persists step property s labels := by
  intro first second hdone hfirst
  obtain ⟨hbefore, hsince⟩ := along_append.mp (halong.upTo hdone)
  have hinvariant := (hbefore.throughout hstart hstep).last
  have hboth : Throughout step (fun s => invariant s ∧ property s) (after step s first) second := by
    refine hsince.throughout ⟨hinvariant, hfirst⟩ fun s label hs hlabel => ?_
    exact ⟨hstep s label hs.1 hlabel, hkeep s label hs.1 hlabel hs.2⟩
  rw [after_append]
  exact hboth.last.2

/-- An invariant that every step keeps holds throughout every run. -/
theorem throughout_of_step (hstart : invariant s)
    (hstep : ∀ s label, invariant s → invariant (step s label)) (labels : List Label) :
    Throughout step invariant s labels := by
  induction labels generalizing s with
  | nil => exact throughout_nil.mpr hstart
  | cons label rest ih => exact throughout_cons.mpr ⟨hstart, ih (hstep s label hstart)⟩

/-- Where a step keeps the invariant exactly under a condition, so does a run. -/
theorem throughout_iff_along (hstart : invariant s)
    (hstep : ∀ s label, invariant s → (invariant (step s label) ↔ condition s label)) :
    Throughout step invariant s labels ↔ Along step condition s labels := by
  constructor
  · intro hall
    induction labels generalizing s with
    | nil => trivial
    | cons label rest ih =>
        obtain ⟨-, hrest⟩ := throughout_cons.mp hall
        exact ⟨(hstep s label hstart).mp hrest.start, ih hrest.start hrest⟩
  · intro halong
    exact halong.throughout hstart fun s label hs hlabel => (hstep s label hs).mpr hlabel

/-- The same where the steps keep another property, whatever is admissible. -/
theorem throughout_iff_along_of_kept {kept : State → Prop} (hkept : kept s)
    (hkeep : ∀ s label, kept s → kept (step s label)) (hstart : invariant s)
    (hstep : ∀ s label, kept s → invariant s → (invariant (step s label) ↔ condition s label)) :
    Throughout step invariant s labels ↔ Along step condition s labels := by
  have hboth : Throughout step (fun s => kept s ∧ invariant s) s labels ↔
      Along step condition s labels :=
    throughout_iff_along ⟨hkept, hstart⟩ fun s label hs =>
      ⟨fun hafter => (hstep s label hs.1 hs.2).mp hafter.2,
        fun hcondition => ⟨hkeep s label hs.1, (hstep s label hs.1 hs.2).mpr hcondition⟩⟩
  have hthroughout := throughout_of_step hkept hkeep labels
  rw [← hboth]
  exact ⟨fun hall done hdone => ⟨hthroughout done hdone, hall done hdone⟩,
    fun hall => hall.mono fun s hs => hs.2⟩

/-- What a step brings about exactly under a condition, and no step undoes, holds after a
run when it held before or the run meets the condition. -/
theorem after_iff_meets (property : State → Prop) {kept : State → Prop} (hkept : kept s)
    (hkeep : ∀ s label, kept s → kept (step s label))
    (hstep : ∀ s label, kept s → (property (step s label) ↔ property s ∨ condition s label)) :
    property (after step s labels) ↔ property s ∨ Meets step condition s labels := by
  induction labels generalizing s with
  | nil => simp
  | cons label rest ih =>
      rw [after_cons, ih (hkeep s label hkept), hstep s label hkept, meets_cons, or_assoc]

end Runs

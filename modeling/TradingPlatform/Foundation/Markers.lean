import Mathlib.Data.List.Basic

/-! # Two-character markers in a text

A marker is replaced wherever it stands, by one new text each. Replacing the first
marker of what is already there, once for each new text, comes to the same as replacing
all markers at once exactly when no new text but the last brings a marker of its own.
-/

namespace Markers

variable {α : Type} [DecidableEq α] (a b : α)

/-- Replace the first marker. -/
def replaceFirst (new : List α) : List α → List α
  | [] => []
  | [c] => [c]
  | c :: d :: rest => if c = a ∧ d = b then new ++ rest else c :: replaceFirst new (d :: rest)

/-- Replace the first marker of what is there, once for each new text. -/
def replaceEach (text : List α) (news : List (List α)) : List α :=
  news.foldl (fun text new => replaceFirst a b new text) text

/-- Replace the n-th marker by the n-th new text, all at once. -/
def substitute : List α → List (List α) → List α
  | c :: d :: rest, news =>
      if c = a ∧ d = b then
        match news with
        | [] => c :: d :: substitute rest []
        | new :: more => new ++ substitute rest more
      else c :: substitute (d :: rest) news
  | text, _ => text

def count : List α → Nat
  | c :: d :: rest => if c = a ∧ d = b then count rest + 1 else count (d :: rest)
  | _ => 0

/-- No marker stands in a text. -/
def Free (text : List α) : Prop := count a b text = 0

instance (text : List α) : Decidable (Free a b text) := inferInstanceAs (Decidable (_ = 0))

/-- A text that makes no marker with what stands before or after it. -/
structure Solid (text : List α) : Prop where
  nonempty : text ≠ []
  begins : text.head? ≠ some a ∧ text.head? ≠ some b
  ends : text.getLast? ≠ some a

section Laws

variable {a b} {text pre post xs ys new : List α} {news : List (List α)}

theorem replaceFirst_marker : replaceFirst a b new (a :: b :: text) = new ++ text :=
  if_pos ⟨rfl, rfl⟩

theorem replaceFirst_cons_cons {c d : α} (hmarker : ¬ (c = a ∧ d = b)) :
    replaceFirst a b new (c :: d :: text) = c :: replaceFirst a b new (d :: text) :=
  if_neg hmarker

theorem substitute_marker :
    substitute a b (a :: b :: text) (new :: news) = new ++ substitute a b text news :=
  if_pos ⟨rfl, rfl⟩

theorem substitute_cons_cons {c d : α} (hmarker : ¬ (c = a ∧ d = b)) :
    substitute a b (c :: d :: text) news = c :: substitute a b (d :: text) news :=
  if_neg hmarker

theorem count_marker : count a b (a :: b :: text) = count a b text + 1 :=
  if_pos ⟨rfl, rfl⟩

theorem count_cons_cons {c d : α} (hmarker : ¬ (c = a ∧ d = b)) :
    count a b (c :: d :: text) = count a b (d :: text) :=
  if_neg hmarker

theorem free_nil : Free a b ([] : List α) := rfl

theorem free_singleton (c : α) : Free a b [c] := rfl

theorem free_cons_cons {c d : α} : Free a b (c :: d :: text) ↔
    ¬ (c = a ∧ d = b) ∧ Free a b (d :: text) := by
  unfold Free
  by_cases hmarker : c = a ∧ d = b
  · obtain ⟨rfl, rfl⟩ := hmarker
    simp [count_marker]
  · rw [count_cons_cons hmarker, and_iff_right hmarker]

/-- What is left of a text without markers has none either. -/
theorem Free.tail {c : α} (hfree : Free a b (c :: text)) : Free a b text := by
  cases text with
  | nil => exact free_nil
  | cons d rest => exact (free_cons_cons.mp hfree).2

/-- A text has no marker, or a first one. -/
theorem free_or_first (text : List α) :
    Free a b text ∨ ∃ pre post, Free a b pre ∧ text = pre ++ a :: b :: post := by
  induction text with
  | nil => exact Or.inl free_nil
  | cons c rest ih =>
      rcases ih with hrest | ⟨pre, post, hpre, rfl⟩
      · cases rest with
        | nil => exact Or.inl (free_singleton c)
        | cons d rest =>
            by_cases hmarker : c = a ∧ d = b
            · obtain ⟨rfl, rfl⟩ := hmarker
              exact Or.inr ⟨[], rest, free_nil, rfl⟩
            · exact Or.inl (free_cons_cons.mpr ⟨hmarker, hrest⟩)
      · cases pre with
        | nil =>
            by_cases hmarker : c = a ∧ a = b
            · exact Or.inr ⟨[], b :: post, free_nil, by simp [hmarker.1, ← hmarker.2]⟩
            · exact Or.inr ⟨[c], post, free_singleton c, rfl⟩
        | cons d pre =>
            by_cases hmarker : c = a ∧ d = b
            · obtain ⟨rfl, rfl⟩ := hmarker
              exact Or.inr ⟨[], pre ++ c :: d :: post, free_nil, rfl⟩
            · exact Or.inr ⟨c :: d :: pre, post, free_cons_cons.mpr ⟨hmarker, hpre⟩, rfl⟩

/-- Two texts without markers have none together, unless one is made where they meet. -/
theorem Free.append (hxs : Free a b xs) (hys : Free a b ys)
    (hmeet : xs.getLast? = some a → ys.head? ≠ some b) : Free a b (xs ++ ys) := by
  induction xs with
  | nil => exact hys
  | cons c rest ih =>
      cases rest with
      | nil =>
          cases ys with
          | nil => exact free_singleton c
          | cons d more =>
              refine free_cons_cons.mpr ⟨?_, hys⟩
              rintro ⟨rfl, rfl⟩
              exact hmeet rfl rfl
      | cons d more =>
          obtain ⟨hmarker, hrest⟩ := free_cons_cons.mp hxs
          refine free_cons_cons.mpr ⟨hmarker, ih hrest ?_⟩
          rwa [List.getLast?_cons_cons] at hmeet

/-- What stands before a first marker stays. -/
theorem replaceFirst_append (hxs : Free a b xs)
    (hmeet : xs.getLast? = some a → ys.head? ≠ some b) :
    replaceFirst a b new (xs ++ ys) = xs ++ replaceFirst a b new ys := by
  induction xs with
  | nil => rfl
  | cons c rest ih =>
      cases rest with
      | nil =>
          cases ys with
          | nil => rfl
          | cons d more =>
              have hmarker : ¬ (c = a ∧ d = b) := by
                rintro ⟨rfl, rfl⟩
                exact hmeet rfl rfl
              rw [List.singleton_append, List.singleton_append, replaceFirst_cons_cons hmarker]
      | cons d more =>
          obtain ⟨hmarker, hrest⟩ := free_cons_cons.mp hxs
          rw [List.getLast?_cons_cons] at hmeet
          rw [List.cons_append, List.cons_append, replaceFirst_cons_cons hmarker,
            ← List.cons_append, ih hrest hmeet]
          rfl

theorem replaceFirst_first (hne : a ≠ b) (hpre : Free a b pre) :
    replaceFirst a b new (pre ++ a :: b :: post) = pre ++ (new ++ post) := by
  rw [replaceFirst_append hpre fun _ => by simpa using hne, replaceFirst_marker]

theorem replaceEach_append (hxs : Free a b xs) (hlast : xs.getLast? ≠ some a) :
    replaceEach a b (xs ++ ys) news = xs ++ replaceEach a b ys news := by
  induction news generalizing ys with
  | nil => rfl
  | cons new more ih =>
      rw [replaceEach, List.foldl_cons, replaceFirst_append hxs fun h => absurd h hlast]
      exact ih

theorem substitute_first (hne : a ≠ b) (hpre : Free a b pre) :
    substitute a b (pre ++ a :: b :: post) (new :: news) =
      pre ++ (new ++ substitute a b post news) := by
  induction pre with
  | nil => rw [List.nil_append, substitute_marker, List.nil_append]
  | cons c rest ih =>
      cases rest with
      | nil =>
          have hmarker : ¬ (c = a ∧ a = b) := fun h => hne h.2
          rw [List.singleton_append, substitute_cons_cons hmarker, substitute_marker]
          rfl
      | cons d more =>
          obtain ⟨hmarker, hrest⟩ := free_cons_cons.mp hpre
          have hih := ih hrest
          rw [List.cons_append] at hih
          rw [List.cons_append, List.cons_append, substitute_cons_cons hmarker, hih]
          rfl

theorem count_first (hne : a ≠ b) (hpre : Free a b pre) :
    count a b (pre ++ a :: b :: post) = count a b post + 1 := by
  induction pre with
  | nil => rw [List.nil_append, count_marker]
  | cons c rest ih =>
      cases rest with
      | nil =>
          have hmarker : ¬ (c = a ∧ a = b) := fun h => hne h.2
          rw [List.singleton_append, count_cons_cons hmarker, count_marker]
      | cons d more =>
          obtain ⟨hmarker, hrest⟩ := free_cons_cons.mp hpre
          have hih := ih hrest
          rw [List.cons_append] at hih
          rw [List.cons_append, List.cons_append, count_cons_cons hmarker, hih]

@[simp] theorem substitute_nil (text : List α) : substitute a b text [] = text := by
  generalize hnews : ([] : List (List α)) = news
  fun_induction substitute a b text news with
  | case1 c d rest hmarker ih => rw [ih rfl]
  | case2 c d rest hmarker new more ih => cases hnews
  | case3 c d rest news hmarker ih => rw [ih hnews]
  | case4 text news hshort => rfl

/-- A new text that brings a marker takes the next new text into itself. -/
theorem replaceEach_ne_substitute {next tail : List α} (hne : a ≠ b) (hpre : Free a b pre)
    (hnew : Solid a b new) (hnext : Solid a b next) (hmarker : ¬ Free a b new) :
    replaceEach a b (pre ++ (new ++ post)) (next :: news) ≠ pre ++ (new ++ tail) := by
  obtain hfree | ⟨front, back, hfront, rfl⟩ := free_or_first (a := a) (b := b) new
  · exact absurd hfree hmarker
  obtain ⟨c, rest, rfl⟩ := List.exists_cons_of_ne_nil hnext.nonempty
  have hbegins : c ≠ a ∧ c ≠ b := by simpa using hnext.begins
  -- What comes in front of the marker is not empty, so it makes none with what precedes it.
  have hprefix : Free a b (pre ++ front) := by
    apply hpre.append hfront
    intro _
    cases front with
    | nil => simp
    | cons d more => simpa using hnew.begins.2
  have hfixed : Free a b (pre ++ front ++ [c]) :=
    hprefix.append (free_singleton c) fun _ => by simpa using hbegins.2
  have hlast : (pre ++ front ++ [c]).getLast? ≠ some a := by
    simpa using hbegins.1
  have hreplaced :
      replaceEach a b (pre ++ (front ++ a :: b :: back ++ post)) ((c :: rest) :: news) =
      (pre ++ front ++ [c]) ++ replaceEach a b (rest ++ (back ++ post)) news := by
    rw [← replaceEach_append hfixed hlast, replaceEach, List.foldl_cons, ← replaceEach,
      List.append_assoc front, List.cons_append, List.cons_append, ← List.append_assoc pre,
      replaceFirst_first hne hprefix]
    simp
  rw [hreplaced]
  intro hsame
  simp only [List.append_assoc, List.append_cancel_left_eq, List.cons_append,
    List.cons.injEq] at hsame
  exact hbegins.1 hsame.1

/-- **Replacing one by one.** Where each marker has its new text, replacing the first
marker again and again replaces them all at once exactly if no new text but the last
has a marker. -/
theorem replaceEach_eq_substitute_iff (hne : a ≠ b) (hcount : count a b text = news.length)
    (hsolid : ∀ new ∈ news, Solid a b new) :
    replaceEach a b text news = substitute a b text news ↔ ∀ new ∈ news.dropLast, Free a b new := by
  induction news generalizing text with
  | nil => simp [replaceEach]
  | cons new more ih =>
      obtain ⟨hnew, hmore⟩ := List.forall_mem_cons.mp hsolid
      rcases free_or_first (a := a) (b := b) text with hfree | ⟨pre, post, hpre, rfl⟩
      · exact absurd (hfree.symm.trans hcount) (by simp)
      rw [count_first hne hpre, List.length_cons, Nat.add_right_cancel_iff] at hcount
      rw [replaceEach, List.foldl_cons, replaceFirst_first hne hpre, substitute_first hne hpre,
        ← replaceEach]
      cases more with
      | nil => simp [replaceEach]
      | cons next rest =>
          have hmeet : pre.getLast? = some a → new.head? ≠ some b := fun _ => hnew.begins.2
          rw [List.dropLast_cons_of_ne_nil (List.cons_ne_nil next rest), List.forall_mem_cons]
          by_cases hfree : Free a b new
          · have hlast : (pre ++ new).getLast? ≠ some a := by
              rw [List.getLast?_append_of_ne_nil _ hnew.nonempty]
              exact hnew.ends
            rw [← List.append_assoc, replaceEach_append (hpre.append hfree hmeet) hlast,
              List.append_assoc, List.append_cancel_left_eq, List.append_cancel_left_eq,
              ih hcount hmore]
            exact (and_iff_right hfree).symm
          · refine iff_of_false ?_ fun hall => hfree hall.1
            exact replaceEach_ne_substitute hne hpre hnew (hmore next List.mem_cons_self) hfree

end Laws

end Markers

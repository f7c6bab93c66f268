import TradingPlatform.Foundation.Text

/-! # Blanks and letter case

A change of case neither brings in nor removes blanks, and it is done once.
Texts compared without blanks and in one case therefore keep their form.
-/

namespace Text

theorem isSpace_iff {c : Char} : isSpace c = true ↔
    (9 ≤ c.toNat ∧ c.toNat ≤ 13) ∨ (28 ≤ c.toNat ∧ c.toNat ≤ 32) ∨ c.toNat = 0x85 ∨
      c.toNat = 0xA0 ∨ c.toNat = 0x1680 ∨ (0x2000 ≤ c.toNat ∧ c.toNat ≤ 0x200A) ∨
      c.toNat = 0x2028 ∨ c.toNat = 0x2029 ∨ c.toNat = 0x202F ∨ c.toNat = 0x205F ∨
      c.toNat = 0x3000 := by
  simp only [isSpace, Bool.or_eq_true, Bool.and_eq_true, decide_eq_true_eq, beq_iff_eq, or_assoc]

theorem upperChar_of_isSpace {c : Char} (hspace : isSpace c = true) : upperChar c = [c] := by
  have hcodes : ∀ n ∈ [9, 10, 11, 12, 13, 28, 29, 30, 31, 32, 0x85, 0xA0, 0x1680, 0x2000, 0x2001,
      0x2002, 0x2003, 0x2004, 0x2005, 0x2006, 0x2007, 0x2008, 0x2009, 0x200A, 0x2028, 0x2029,
      0x202F, 0x205F, 0x3000], upperChar (Char.ofNat n) = [Char.ofNat n] := by decide +kernel
  have hcode := hcodes c.toNat (by
    rw [isSpace_iff] at hspace
    simp only [List.mem_cons, List.not_mem_nil, or_false]
    omega)
  rwa [Char.ofNat_toNat] at hcode

/-- Capital letters that upper case brings in. -/
def IsCapital (c : Char) : Prop :=
  (0x41 ≤ c.toNat ∧ c.toNat ≤ 0x5A) ∨ (0xC0 ≤ c.toNat ∧ c.toNat ≤ 0xDE) ∨ c.toNat = 0x178 ∨
    c.toNat = 0x39C ∨ (0x400 ≤ c.toNat ∧ c.toNat ≤ 0x42F) ∨ (0xFF21 ≤ c.toNat ∧ c.toNat ≤ 0xFF3A)

/-- A character without another upper case keeps its own. -/
theorem upperChar_cases (c : Char) :
    upperChar c = [c] ∨ upperChar c ≠ [] ∧ ∀ d ∈ upperChar c, IsCapital d := by
  have hite : ∀ {p : Prop} [Decidable p] {xs ys : List Char},
      (p → xs ≠ [] ∧ ∀ d ∈ xs, IsCapital d) → (ys = [c] ∨ ys ≠ [] ∧ ∀ d ∈ ys, IsCapital d) →
      (if p then xs else ys) = [c] ∨
        (if p then xs else ys) ≠ [] ∧ ∀ d ∈ (if p then xs else ys), IsCapital d := by
    intro p _ xs ys hxs hys
    by_cases hp : p
    · simpa only [hp, if_true] using Or.inr (hxs hp)
    · simpa only [hp, if_false] using hys
  have hvalid : ∀ n, n < 0xD800 ∨ (0xDFFF < n ∧ n < 0x110000) → (Char.ofNat n).toNat = n := by
    intro n hn
    rw [Char.ofNat, dif_pos (show n.isValidChar by unfold Nat.isValidChar; omega)]
    rfl
  unfold upperChar
  refine hite (fun hcase => ⟨by simp, ?_⟩) (hite (fun hcase => ⟨by simp, ?_⟩) ?_)
  · simp only [Bool.or_eq_true, Bool.and_eq_true, decide_eq_true_eq, bne_iff_ne] at hcase
    intro d hd
    rw [IsCapital, List.mem_singleton.mp hd, hvalid _ (by omega)]
    omega
  · simp only [Bool.and_eq_true, decide_eq_true_eq] at hcase
    intro d hd
    rw [IsCapital, List.mem_singleton.mp hd, hvalid _ (by omega)]
    omega
  · iterate 11 refine hite (fun _ => ⟨by simp, by simp [IsCapital]⟩) ?_
    exact Or.inl rfl

theorem upperChar_ne_nil (c : Char) : upperChar c ≠ [] := by
  rcases upperChar_cases c with hsame | ⟨hne, -⟩
  · simp [hsame]
  · exact hne

/-- Upper case brings in no blank. -/
theorem isSpace_of_mem_upperChar {c d : Char} (hmem : d ∈ upperChar c) (hspace : isSpace d = true) :
    isSpace c = true := by
  rcases upperChar_cases c with hsame | ⟨-, hcapital⟩
  · rw [hsame, List.mem_singleton] at hmem
    rwa [← hmem]
  · have hd := hcapital d hmem
    rw [isSpace_iff] at hspace
    unfold IsCapital at hd
    omega

theorem upperChar_of_isCapital {d : Char} (hcapital : IsCapital d) : upperChar d = [d] := by
  unfold IsCapital at hcapital
  unfold upperChar
  iterate 13
    rw [if_neg (by
      simp only [Bool.or_eq_true, Bool.and_eq_true, decide_eq_true_eq, beq_iff_eq, bne_iff_ne]
      omega)]

theorem upperChar_of_mem_upperChar {c d : Char} (hmem : d ∈ upperChar c) : upperChar d = [d] := by
  rcases upperChar_cases c with hsame | ⟨-, hcapital⟩
  · rw [hsame, List.mem_singleton] at hmem
    rw [hmem, hsame]
  · exact upperChar_of_isCapital (hcapital d hmem)

/-- A change of case that touches none of the letters it brings in is done once. -/
theorem flatMap_flatMap_self {f : Char → List Char} (hfixed : ∀ c, ∀ d ∈ f c, f d = [d])
    (cs : List Char) : (cs.flatMap f).flatMap f = cs.flatMap f := by
  have hflat : ∀ ds : List Char, (∀ d ∈ ds, f d = [d]) → ds.flatMap f = ds := by
    intro ds hds
    induction ds with
    | nil => rfl
    | cons d rest ih =>
        rw [List.flatMap_cons, hds d List.mem_cons_self,
          ih fun other hother => hds other (List.mem_cons_of_mem _ hother)]
        rfl
  apply hflat
  intro d hd
  obtain ⟨c, -, hmem⟩ := List.mem_flatMap.mp hd
  exact hfixed c d hmem

@[simp] theorem upper_upper (s : String) : upper (upper s) = upper s := by
  have hfixed := flatMap_flatMap_self (fun _ _ => upperChar_of_mem_upperChar) s.toList
  simp only [upper, String.toList_ofList, hfixed]

/-- Dropping blanks passes through a change of case. -/
theorem dropWhile_flatMap {f : Char → List Char} (hspace : ∀ c, isSpace c = true → f c = [c])
    (hmem : ∀ c, ∀ d ∈ f c, isSpace d = true → isSpace c = true) (hne : ∀ c, f c ≠ [])
    (cs : List Char) :
    (cs.flatMap f).dropWhile isSpace = (cs.dropWhile isSpace).flatMap f := by
  induction cs with
  | nil => rfl
  | cons c rest ih =>
      by_cases hc : isSpace c = true
      · simp [hspace c hc, hc, ih]
      · obtain ⟨d, ds, hd⟩ := List.exists_cons_of_ne_nil (hne c)
        have hnot : ¬ isSpace d = true := fun hd' => hc (hmem c d (by simp [hd]) hd')
        simp [hc, hd, hnot]

theorem stripChars_flatMap {f : Char → List Char} (hspace : ∀ c, isSpace c = true → f c = [c])
    (hmem : ∀ c, ∀ d ∈ f c, isSpace d = true → isSpace c = true) (hne : ∀ c, f c ≠ [])
    (cs : List Char) : stripChars (cs.flatMap f) = (stripChars cs).flatMap f := by
  have hreverse := dropWhile_flatMap (f := fun c => (f c).reverse)
    (fun c hc => by simp [hspace c hc])
    (fun c d hd => hmem c d (List.mem_reverse.mp hd))
    (fun c => by simpa using hne c)
  have hflip : ∀ cs : List Char, (cs.flatMap f).reverse =
      cs.reverse.flatMap fun c => (f c).reverse := by
    intro cs
    rw [List.reverse_flatMap]
    rfl
  have hflip' : ∀ cs : List Char, (cs.flatMap fun c => (f c).reverse).reverse =
      cs.reverse.flatMap f := by
    intro cs
    rw [List.reverse_flatMap]
    simp [Function.comp_def]
  simp only [stripChars, dropWhile_flatMap hspace hmem hne, hflip, hreverse, hflip']

theorem upper_ne_empty {s : String} (hne : s ≠ "") : upper s ≠ "" := by
  intro hupper
  have hchars : s.toList.flatMap upperChar = [] := by
    simpa [upper] using congrArg String.toList hupper
  cases hlist : s.toList with
  | nil => exact hne (String.toList_inj.mp hlist)
  | cons c rest =>
      rw [hlist, List.flatMap_cons, List.append_eq_nil_iff] at hchars
      exact upperChar_ne_nil c hchars.1

theorem strip_upper (s : String) : strip (upper s) = upper (strip s) := by
  have hstrip := stripChars_flatMap (f := upperChar) (fun _ => upperChar_of_isSpace)
    (fun _ _ => isSpace_of_mem_upperChar) upperChar_ne_nil s.toList
  simp only [strip, upper, String.toList_ofList, hstrip]

/-- Letters that lower case brings in. -/
def IsSmall (c : Char) : Prop :=
  (0x61 ≤ c.toNat ∧ c.toNat ≤ 0x7A) ∨ (0xE0 ≤ c.toNat ∧ c.toNat ≤ 0xFE) ∨ c.toNat = 0x307 ∨
    (0x430 ≤ c.toNat ∧ c.toNat ≤ 0x45F) ∨ (0xFF41 ≤ c.toNat ∧ c.toNat ≤ 0xFF5A)

/-- A character without another lower case keeps its own. -/
theorem lowerChar_cases (c : Char) :
    lowerChar c = [c] ∨ lowerChar c ≠ [] ∧ ∀ d ∈ lowerChar c, IsSmall d := by
  have hvalid : ∀ n, n < 0xD800 ∨ (0xDFFF < n ∧ n < 0x110000) → (Char.ofNat n).toNat = n := by
    intro n hn
    rw [Char.ofNat, dif_pos (show n.isValidChar by unfold Nat.isValidChar; omega)]
    rfl
  unfold lowerChar
  dsimp only
  split
  next hcase =>
    simp only [Bool.or_eq_true, Bool.and_eq_true, decide_eq_true_eq, bne_iff_ne] at hcase
    refine Or.inr ⟨by simp, fun d hd => ?_⟩
    rw [IsSmall, List.mem_singleton.mp hd, hvalid _ (by omega)]
    omega
  next =>
    split
    next hcase =>
      simp only [Bool.and_eq_true, decide_eq_true_eq] at hcase
      refine Or.inr ⟨by simp, fun d hd => ?_⟩
      rw [IsSmall, List.mem_singleton.mp hd, hvalid _ (by omega)]
      omega
    next =>
      split
      next => exact Or.inr ⟨by simp, by simp [IsSmall]⟩
      next =>
        split
        next => exact Or.inr ⟨by simp, by simp [IsSmall, hvalid 0x307 (by omega)]⟩
        next => exact Or.inl rfl

theorem lowerChar_of_isSmall {d : Char} (hsmall : IsSmall d) : lowerChar d = [d] := by
  unfold IsSmall at hsmall
  unfold lowerChar
  iterate 4
    rw [if_neg (by
      simp only [Bool.or_eq_true, Bool.and_eq_true, decide_eq_true_eq, beq_iff_eq, bne_iff_ne]
      omega)]

theorem lowerChar_of_mem_lowerChar {c d : Char} (hmem : d ∈ lowerChar c) : lowerChar d = [d] := by
  rcases lowerChar_cases c with hsame | ⟨-, hsmall⟩
  · rw [hsame, List.mem_singleton] at hmem
    rw [hmem, hsame]
  · exact lowerChar_of_isSmall (hsmall d hmem)

@[simp] theorem lower_lower (s : String) : lower (lower s) = lower s := by
  have hfixed := flatMap_flatMap_self (fun _ _ => lowerChar_of_mem_lowerChar) s.toList
  simp only [lower, String.toList_ofList, hfixed]

/-- Lower case brings in no blank. -/
theorem isSpace_of_mem_lowerChar {c d : Char} (hmem : d ∈ lowerChar c) (hspace : isSpace d = true) :
    isSpace c = true := by
  rcases lowerChar_cases c with hsame | ⟨-, hsmall⟩
  · rw [hsame, List.mem_singleton] at hmem
    rwa [← hmem]
  · have hd := hsmall d hmem
    rw [isSpace_iff] at hspace
    unfold IsSmall at hd
    omega

theorem lowerChar_of_isSpace {c : Char} (hspace : isSpace c = true) : lowerChar c = [c] := by
  rw [isSpace_iff] at hspace
  unfold lowerChar
  iterate 4
    rw [if_neg (by
      simp only [Bool.or_eq_true, Bool.and_eq_true, decide_eq_true_eq, beq_iff_eq, bne_iff_ne]
      omega)]

theorem strip_lower (s : String) : strip (lower s) = lower (strip s) := by
  have hne : ∀ c, lowerChar c ≠ [] := by
    intro c
    rcases lowerChar_cases c with hsame | ⟨hne, -⟩
    · simp [hsame]
    · exact hne
  have hstrip := stripChars_flatMap (f := lowerChar) (fun _ => lowerChar_of_isSpace)
    (fun _ _ => isSpace_of_mem_lowerChar) hne s.toList
  simp only [strip, lower, String.toList_ofList, hstrip]

end Text

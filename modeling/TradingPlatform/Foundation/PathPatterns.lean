import TradingPlatform.Foundation.Text

/-! # Paths with an identifier in them

A pattern matches the paths that have an identifier between a prefix and a suffix. Two
patterns exclude each other when no path matches both; where resolvers find nothing but
what a path means, the order in which they are tried does not matter.
-/

namespace PathPatterns

open Text

def endsWith (suf s : String) : Bool := suf.toList.isSuffixOf s.toList

/-- What is between a prefix of the length of one text and a suffix of the length of another. -/
def between (pre suf path : String) : String :=
  String.ofList ((path.toList.take (path.toList.length - suf.toList.length)).drop pre.toList.length)

section Texts

variable {pre suf path id : String}

@[simp] theorem startsWith_append : startsWith pre (pre ++ id) = true := by
  rw [startsWith, List.isPrefixOf_iff_prefix, String.toList_append]
  exact List.prefix_append _ _

@[simp] theorem endsWith_append : endsWith suf (id ++ suf) = true := by
  rw [endsWith, List.isSuffixOf_iff_suffix, String.toList_append]
  exact List.suffix_append _ _

@[simp] theorem between_append : between pre suf (pre ++ id ++ suf) = id := by
  rw [between, String.toList_append, String.toList_append, List.length_append,
    Nat.add_sub_cancel, List.take_left, List.drop_left, String.ofList_toList]

theorem between_empty : between pre "" (pre ++ id) = id := by
  have hbetween : between pre "" (pre ++ id ++ "") = id := between_append
  rwa [String.append_empty] at hbetween

theorem eq_append_of_startsWith (hstart : startsWith pre path = true) :
    path = pre ++ between pre "" path := by
  obtain ⟨rest, hrest⟩ := List.isPrefixOf_iff_prefix.mp hstart
  have hpath : path = pre ++ String.ofList rest := by
    rw [← String.toList_inj, ← hrest, String.toList_append, String.toList_ofList]
  rw [hpath, between_empty]

/-- A path is put together from its prefix, what is between and its suffix, unless
there is nothing between them. -/
theorem eq_append_of_between (hstart : startsWith pre path = true)
    (hend : endsWith suf path = true) (hne : between pre suf path ≠ "") :
    path = pre ++ between pre suf path ++ suf := by
  obtain ⟨rest, hrest⟩ := List.isPrefixOf_iff_prefix.mp hstart
  obtain ⟨front, hfront⟩ := List.isSuffixOf_iff_suffix.mp hend
  have hbetween : between pre suf path = String.ofList (front.drop pre.toList.length) := by
    rw [between, ← hfront, List.length_append, Nat.add_sub_cancel, List.take_left]
  have hlength : pre.toList.length ≤ front.length := by
    by_contra hlt
    apply hne
    rw [hbetween, List.drop_eq_nil_of_le (Nat.le_of_not_le hlt), String.ofList_nil]
  obtain ⟨mid, rfl⟩ : pre.toList <+: front :=
    List.prefix_of_prefix_length_le ⟨rest, hrest⟩ ⟨suf.toList, hfront⟩ hlength
  rw [← String.toList_inj, hbetween, List.drop_left, ← hfront]
  simp

theorem between_empty_left : between "" suf (id ++ suf) = id := by
  have hbetween : between "" suf ("" ++ id ++ suf) = id := between_append
  rwa [String.empty_append] at hbetween

theorem eq_append_of_endsWith (hend : endsWith suf path = true) (hne : between "" suf path ≠ "") :
    path = between "" suf path ++ suf := by
  have hpath : path = "" ++ between "" suf path ++ suf :=
    eq_append_of_between (by simp [startsWith]) hend hne
  rwa [String.empty_append] at hpath

end Texts

/-- Paths with an identifier; in a flat one it has no slash. -/
structure Pattern where
  pre : String
  suf : String
  flat : Bool
deriving DecidableEq

namespace Pattern

def path (p : Pattern) (id : String) : String := p.pre ++ id ++ p.suf

/-- An identifier is not empty, and has no slash where the pattern is flat. -/
def Admits (p : Pattern) (id : String) : Prop := id ≠ "" ∧ (p.flat = true → '/' ∉ id.toList)

instance instDecidableAdmits (p : Pattern) (id : String) : Decidable (p.Admits id) :=
  inferInstanceAs (Decidable (_ ∧ _))

/-- The identifier in a path that matches. -/
def id? (p : Pattern) (path : String) : Option String :=
  if startsWith p.pre path && endsWith p.suf path then
    let id := between p.pre p.suf path
    if p.Admits id then some id else none
  else none

variable {p q : Pattern} {path id : String}

theorem toList_path : (p.path id).toList = p.pre.toList ++ id.toList ++ p.suf.toList := by
  simp [Pattern.path]

/-- **A pattern reads back the identifier it was given.** -/
theorem id?_eq_some_iff : p.id? path = some id ↔ p.Admits id ∧ path = p.path id := by
  constructor
  · intro hid
    unfold id? at hid
    dsimp only at hid
    split_ifs at hid with hmatch hadmits
    obtain rfl := Option.some.inj hid
    rw [Bool.and_eq_true] at hmatch
    exact ⟨hadmits, eq_append_of_between hmatch.1 hmatch.2 hadmits.1⟩
  · intro ⟨hadmits, hpath⟩
    have hpre : startsWith p.pre path = true := by
      rw [hpath, Pattern.path, String.append_assoc]
      exact startsWith_append
    have hsuf : endsWith p.suf path = true := hpath ▸ endsWith_append
    have hbetween : between p.pre p.suf path = id := hpath ▸ between_append
    simp only [id?, hpre, hsuf, hbetween, Bool.and_self, if_true, if_pos hadmits]

/-- No path matches both. -/
def Excludes (p q : Pattern) : Prop :=
  ∀ id other, p.Admits id → q.Admits other → p.path id ≠ q.path other

theorem Excludes.symm (hpq : p.Excludes q) : q.Excludes p :=
  fun id other hid hother heq => hpq other id hother hid heq.symm

/-- A slash and what is after it, up to the end of a path. -/
def IsSegment (suf : String) : Prop := ∃ rest, suf.toList = '/' :: rest ∧ '/' ∉ rest

theorem eq_of_suffix {segment other : String} (hsegment : IsSegment segment)
    (hother : IsSegment other) (hsuffix : segment.toList <:+ other.toList) : segment = other := by
  obtain ⟨rest, hrest, -⟩ := hsegment
  obtain ⟨rest', hrest', hslash⟩ := hother
  rw [hrest, hrest', List.suffix_cons_iff] at hsuffix
  rcases hsuffix with heq | hsuffix
  · rw [← String.toList_inj, hrest, hrest', heq]
  · exact absurd (hsuffix.subset List.mem_cons_self) hslash

/-- A text ends with one segment at most. -/
theorem segment_unique {segment other text : String} (hsegment : IsSegment segment)
    (hother : IsSegment other) (hend : segment.toList <:+ text.toList)
    (hend' : other.toList <:+ text.toList) : segment = other := by
  rcases List.suffix_or_suffix_of_suffix hend hend' with hle | hle
  · exact eq_of_suffix hsegment hother hle
  · exact (eq_of_suffix hother hsegment hle).symm

theorem suffix_path : p.suf.toList <:+ (p.path id).toList := by
  rw [toList_path]
  exact List.suffix_append _ _

/-- Patterns that end with different segments exclude each other. -/
theorem excludes_of_segments (hp : IsSegment p.suf) (hq : IsSegment q.suf)
    (hne : p.suf ≠ q.suf) : p.Excludes q := by
  intro id other _ _ heq
  have hend : q.suf.toList <:+ (p.path id).toList := by
    rw [heq]
    exact suffix_path
  exact hne (segment_unique hp hq suffix_path hend)

/-- So do patterns of which neither prefix goes on with the other. -/
theorem excludes_of_prefixes (hpq : ¬ p.pre.toList <+: q.pre.toList)
    (hqp : ¬ q.pre.toList <+: p.pre.toList) : p.Excludes q := by
  intro id other _ _ heq
  have hlist := congrArg String.toList heq
  rw [toList_path, toList_path, List.append_assoc, List.append_assoc] at hlist
  rcases List.prefix_or_prefix_of_prefix (List.prefix_append _ _)
    (hlist ▸ List.prefix_append _ _) with hle | hle
  · exact hqp hle
  · exact hpq hle

/-- A flat pattern without a suffix excludes those that go on with a segment. -/
theorem excludes_of_flat (hpre : p.pre = q.pre) (hp : IsSegment p.suf) (hflat : q.flat = true)
    (hsuf : q.suf = "") : p.Excludes q := by
  intro id other _ hother heq
  have hlist := congrArg String.toList heq
  rw [toList_path, toList_path, hpre, hsuf] at hlist
  simp only [List.append_assoc, List.append_cancel_left_eq, String.toList_empty,
    List.append_nil] at hlist
  apply hother.2 hflat
  obtain ⟨rest, hrest, -⟩ := hp
  rw [← hlist, hrest]
  exact List.mem_append_right _ List.mem_cons_self

end Pattern

section Chains

variable {α β : Type} {R : α → β → Prop} {resolvers : List (α → Option β)}

/-- **Chains of resolvers.** Where an input means one thing at most, resolvers that find
nothing but what inputs mean, and among them all of it, may be tried in any order. -/
theorem findSome?_eq_some_iff (hone : ∀ a b other, R a b → R a other → b = other)
    (hsound : ∀ resolver ∈ resolvers, ∀ a b, resolver a = some b → R a b)
    (hcomplete : ∀ a b, R a b → ∃ resolver ∈ resolvers, resolver a = some b)
    {a : α} {b : β} : resolvers.findSome? (fun resolver => resolver a) = some b ↔ R a b := by
  constructor
  · intro hfound
    obtain ⟨resolver, hmem, hresolver⟩ := List.exists_of_findSome?_eq_some hfound
    exact hsound resolver hmem a b hresolver
  · intro hmeaning
    obtain ⟨resolver, hmem, hresolver⟩ := hcomplete a b hmeaning
    cases hfound : resolvers.findSome? fun resolver => resolver a with
    | none =>
        rw [List.findSome?_eq_none_iff.mp hfound resolver hmem] at hresolver
        cases hresolver
    | some other =>
        obtain ⟨first, hfirst, hother⟩ := List.exists_of_findSome?_eq_some hfound
        rw [hone a other b (hsound first hfirst a other hother) hmeaning]

end Chains

section Separators

/-- A separator is found where it occurs first. -/
theorem partition_eq_some_iff {sep : Char} {s first rest : String} :
    Text.partition sep s = some (first, rest) ↔
      s = first ++ String.singleton sep ++ rest ∧ sep ∉ first.toList := by
  constructor
  · intro hpartition
    unfold Text.partition at hpartition
    split_ifs at hpartition with hmem
    obtain ⟨rfl, rfl⟩ := Prod.mk.inj (Option.some.inj hpartition)
    have hsep : s.toList.dropWhile (· != sep) =
        sep :: (s.toList.dropWhile (· != sep)).drop 1 := by
      cases hdrop : s.toList.dropWhile (· != sep) with
      | nil =>
          have hnone := List.dropWhile_eq_nil_iff.mp hdrop sep hmem
          simp at hnone
      | cons c more =>
          have hhead := List.head?_dropWhile_not (· != sep) s.toList
          rw [hdrop] at hhead
          have hc : c = sep := by simpa using hhead
          rw [hc]
          rfl
    constructor
    · rw [← String.toList_inj]
      simp only [String.toList_append, String.toList_ofList, String.toList_singleton,
        List.append_assoc, List.singleton_append]
      rw [← hsep, List.takeWhile_append_dropWhile]
    · rw [String.toList_ofList]
      intro hfirst
      have hne := List.mem_takeWhile_imp hfirst
      simp at hne
  · rintro ⟨rfl, hfirst⟩
    have hbefore : ∀ c ∈ first.toList, (c != sep) = true := fun c hc => by
      rw [bne_iff_ne]
      rintro rfl
      exact hfirst hc
    unfold Text.partition
    rw [if_pos (by simp), String.toList_append, String.toList_append, String.toList_singleton,
      List.append_assoc, List.takeWhile_append_of_pos hbefore,
      List.dropWhile_append_of_pos hbefore]
    simp

end Separators

end PathPatterns

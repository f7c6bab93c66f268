import Mathlib.Data.List.Dedup
import Mathlib.Data.List.Sort
import Mathlib.Data.String.Basic
import TradingPlatform.Foundation.JsonValues

/-! # How a newly assigned configuration is applied

An assignment is compared with the configuration assigned before. What changed
is reported by the dotted paths of the changed values, which decide whether a
running bot can take the configuration over.
-/

namespace TradingPlatform.Config

section Program

def hotReloadableSectionPaths : List String :=
  ["arbitrage_runtime.risk_config", "arbitrage_runtime.runtime_state.open_order_cap",
    "arbitrage_runtime.runtime_state.remaining_bot_notional"]

inductive ApplyPolicy where
  | noop
  | hotReload
  | restartRequired
deriving DecidableEq

def ApplyPolicy.text : ApplyPolicy → String
  | .noop => "noop"
  | .hotReload => "hot_reload"
  | .restartRequired => "restart_required"

structure AssignmentPolicy where
  applyPolicy : ApplyPolicy
  changedSections : List String
  hotReloadableSections : List String
  restartRequiredSections : List String
deriving DecidableEq

/-- Lists that differ. -/
def sequenceChanged : Json → Json → Bool
  | .arr previous, .arr current => !(Json.arr previous).equals (.arr current)
  | _, _ => false

def joinPath (parent key : String) : String := if parent = "" then key else parent ++ "." ++ key

/-- Two values that are not both dictionaries are changed as a whole. -/
def diffValue (path : String) (previous current : Json) : List String :=
  if sequenceChanged previous current || !previous.equals current then [path] else []

mutual

/-- The changed paths at a path and below it. -/
def diffEntry (path : String) : Json → Json → List String
  | .obj previous, .obj current =>
      diffKnown path current previous ++
        ((current.map Prod.fst).filter fun key => !Dict.has previous key).flatMap fun key =>
          diffValue (joinPath path key) (Dict.get previous key) (Dict.get current key)
  | previous, current => diffValue path previous current

/-- The keys of the previous dictionary, each with what the current one has for it. -/
def diffKnown (path : String) (current : Dict) : Dict → List String
  | [] => []
  | (key, value) :: rest =>
      diffEntry (joinPath path key) value (Dict.get current key) ++ diffKnown path current rest

end

/-- The dotted paths of what changed; the program keeps them as a set. -/
def diffPaths (previous current : Dict) : List String := diffEntry "" (.obj previous) (.obj current)

def isUnderSection (path sectionPath : String) : Bool :=
  path = sectionPath ∨ Text.startsWith (sectionPath ++ ".") path

def collapseSectionPath (path : String) : String :=
  (hotReloadableSectionPaths.find? (isUnderSection path)).getD path

def collapseSectionPaths (changed : List String) : List String :=
  (changed.map collapseSectionPath).dedup

def summarizeSections (changedSections : List String) : AssignmentPolicy :=
  if changedSections = ["no_effective_change"] then ⟨.noop, changedSections, [], []⟩
  else
    let hotReloadableSections := changedSections.filter (· ∈ hotReloadableSectionPaths)
    let restartRequiredSections := changedSections.filter (· ∉ hotReloadableSections)
    { applyPolicy := if restartRequiredSections = [] then .hotReload else .restartRequired
      changedSections := changedSections
      hotReloadableSections := hotReloadableSections
      restartRequiredSections := restartRequiredSections }

def summarizeConfigAssignmentPolicy (previous : Option Dict) (next : Dict) : AssignmentPolicy :=
  summarizeSections <|
    match previous with
    | none => ["initial_assignment"]
    | some previous =>
        let changed := (collapseSectionPaths (diffPaths previous next)).insertionSort (· ≤ ·)
        if changed = [] then ["no_effective_change"] else changed

end Program

section Specification

/-- A decoded configuration. -/
structure ConfigDocument where
  fields : Dict
  distinct : Json.DistinctKeys (.obj fields)

def ConfigDocument.value (document : ConfigDocument) : Json := .obj document.fields

def dottedPath (keys : List String) : String := keys.foldl joinPath ""

def IsHotReloadable (path : String) : Prop :=
  ∃ sectionPath ∈ hotReloadableSectionPaths, isUnderSection path sectionPath = true

/-- Neither do both documents have a dictionary at the path, nor equal values. -/
structure DiffersAt (a b : Json) (keys : List String) : Prop where
  apart : ¬ ((a.valueAt keys).isObject = true ∧ (b.valueAt keys).isObject = true)
  differ : (a.valueAt keys).equals (b.valueAt keys) = false

/-- At the path one document has a leaf and the other has not the same. -/
def LeafDiffers (a b : Json) (keys : List String) : Prop :=
  match a.leafAt? keys, b.leafAt? keys with
  | none, none => False
  | some leaf, some other => leaf.equalsJson other = false
  | _, _ => True

variable (previous next : ConfigDocument)

def policy : AssignmentPolicy :=
  summarizeConfigAssignmentPolicy (some previous.fields) next.fields

/-- The policy is exact with respect to the JSON documents and their leaves. -/
structure ExactPolicy : Prop where
  noop : (policy previous next).applyPolicy = .noop ↔
    previous.value.equalsJson next.value = true
  hotReload : (policy previous next).applyPolicy = .hotReload ↔
    previous.value.equalsJson next.value = false ∧
      ∀ keys, LeafDiffers previous.value next.value keys → IsHotReloadable (dottedPath keys)
  sections : (policy previous next).changedSections.Perm
    ((policy previous next).hotReloadableSections ++
      (policy previous next).restartRequiredSections)

/-- The policy follows the paths at which the documents differ, a missing key being null. -/
structure PolicyFollows : Prop where
  noop : (policy previous next).applyPolicy = .noop ↔
    ∀ keys, ¬ DiffersAt previous.value next.value keys
  hotReload : (policy previous next).applyPolicy = .hotReload ↔
    (∃ keys, DiffersAt previous.value next.value keys) ∧
      ∀ keys, DiffersAt previous.value next.value keys → IsHotReloadable (dottedPath keys)
  restartRequired : (policy previous next).applyPolicy = .restartRequired ↔
    ∃ keys, DiffersAt previous.value next.value keys ∧ ¬ IsHotReloadable (dottedPath keys)
  marker : (policy previous next).applyPolicy = .noop →
    policy previous next = ⟨.noop, ["no_effective_change"], [], []⟩
  sections : (policy previous next).applyPolicy ≠ .noop →
    (policy previous next).changedSections.Nodup ∧
      (policy previous next).changedSections.Perm
        ((policy previous next).hotReloadableSections ++
          (policy previous next).restartRequiredSections)

end Specification

section Diff

variable {a b : Json} {previous current : Dict} {path text : String}

/-- A path down to where two documents stop having dictionaries both, and differ. -/
inductive Changed : Json → Json → List String → Prop
  | here {a b : Json} (hobjects : ¬ (a.isObject = true ∧ b.isObject = true))
      (hdiffer : a.equals b = false) : Changed a b []
  | under {previous current : Dict} {key : String} {keys : List String}
      (hbelow : Changed (Dict.get previous key) (Dict.get current key) keys) :
      Changed (.obj previous) (.obj current) (key :: keys)

theorem sequenceChanged_of_equals (hequal : a.equals b = true) : sequenceChanged a b = false := by
  unfold sequenceChanged
  split
  · rw [hequal, Bool.not_true]
  · rfl

theorem mem_diffValue : text ∈ diffValue path a b ↔ a.equals b = false ∧ text = path := by
  unfold diffValue
  cases hequal : a.equals b with
  | false => simp
  | true => simp [sequenceChanged_of_equals hequal]

theorem diffKnown_eq_flatMap : diffKnown path current previous =
    previous.flatMap fun entry =>
      diffEntry (joinPath path entry.1) entry.2 (Dict.get current entry.1) := by
  induction previous with
  | nil => rfl
  | cons entry rest ih =>
      obtain ⟨key, value⟩ := entry
      rw [diffKnown, ih, List.flatMap_cons]

theorem diffEntry_of_not_objects (hobjects : ¬ (a.isObject = true ∧ b.isObject = true)) :
    diffEntry path a b = diffValue path a b := by
  cases a <;> cases b <;> first | rfl | exact absurd ⟨rfl, rfl⟩ hobjects

theorem changed_iff_of_not_objects (hobjects : ¬ (a.isObject = true ∧ b.isObject = true))
    {keys : List String} : Changed a b keys ↔ a.equals b = false ∧ keys = [] := by
  constructor
  · intro hchanged
    cases hchanged with
    | here _ hdiffer => exact ⟨hdiffer, rfl⟩
    | under _ => exact absurd ⟨rfl, rfl⟩ hobjects
  · rintro ⟨hdiffer, rfl⟩
    exact .here hobjects hdiffer

/-- A key that neither dictionary has a dictionary for is reported when the values differ. -/
theorem mem_added_iff {key : String} {keys : List String}
    (hmissing : Dict.get? previous key = none) :
    Changed (Dict.get previous key) (Dict.get current key) keys ↔
      key ∈ (current.map Prod.fst).filter (fun key => !Dict.has previous key) ∧
        (Dict.get previous key).equals (Dict.get current key) = false ∧ keys = [] := by
  have hnull : Dict.get previous key = .null := by rw [Dict.get, hmissing]; rfl
  have hobjects : ¬ ((Dict.get previous key).isObject = true ∧
      (Dict.get current key).isObject = true) := by
    rw [hnull]
    exact fun hboth => absurd hboth.1 Bool.false_ne_true
  rw [changed_iff_of_not_objects hobjects]
  refine (and_iff_right_of_imp fun hdiffer => ?_).symm
  refine List.mem_filter.mpr ⟨?_, by simp [Dict.has, hmissing]⟩
  cases hcurrent : Dict.get? current key with
  | some value => exact List.mem_map_of_mem (Dict.mem_of_get? hcurrent)
  | none =>
      have hsame : Dict.get current key = .null := by rw [Dict.get, hcurrent]; rfl
      rw [hnull, hsame, Json.equals_null] at hdiffer
      exact absurd hdiffer.1 Bool.true_eq_false_eq_False

theorem mem_diffEntry_of_not_objects (hobjects : ¬ (a.isObject = true ∧ b.isObject = true)) :
    text ∈ diffEntry path a b ↔ ∃ keys, Changed a b keys ∧ text = keys.foldl joinPath path := by
  rw [diffEntry_of_not_objects hobjects, mem_diffValue]
  simp only [changed_iff_of_not_objects hobjects]
  constructor
  · rintro ⟨hdiffer, rfl⟩
    exact ⟨[], ⟨hdiffer, rfl⟩, rfl⟩
  · rintro ⟨_, ⟨hdiffer, rfl⟩, rfl⟩
    exact ⟨hdiffer, rfl⟩

/-- The reported paths are the paths of what changed. -/
theorem mem_diffEntry (hdistinct : a.DistinctKeys) :
    text ∈ diffEntry path a b ↔ ∃ keys, Changed a b keys ∧ text = keys.foldl joinPath path := by
  induction a using Json.objectInduction generalizing b path with
  | value a hvalue => exact mem_diffEntry_of_not_objects (by simp [hvalue])
  | obj previous ih =>
      by_cases hobjects : (Json.obj previous).isObject = true ∧ b.isObject = true
      · obtain ⟨current, rfl⟩ := Json.isObject_iff.mp hobjects.2
        obtain ⟨hkeys, hvalues⟩ := Json.distinctKeys_obj_iff.mp hdistinct
        rw [diffEntry, diffKnown_eq_flatMap, List.mem_append, List.mem_flatMap, List.mem_flatMap]
        constructor
        · rintro (⟨entry, hentry, htext⟩ | ⟨key, hkey, htext⟩)
          · obtain ⟨keys, hchanged, rfl⟩ := (ih entry hentry (hvalues entry hentry)).mp htext
            refine ⟨entry.1 :: keys, .under ?_, rfl⟩
            rwa [Dict.get.eq_1 previous, Dict.get?_of_mem hkeys hentry]
          · have hmissing : Dict.get? previous key = none := by
              simpa [Dict.has] using (List.mem_filter.mp hkey).2
            obtain ⟨hdiffer, rfl⟩ := mem_diffValue.mp htext
            exact ⟨[key], .under ((mem_added_iff hmissing).mpr ⟨hkey, hdiffer, rfl⟩), rfl⟩
        · rintro ⟨keys, hchanged, rfl⟩
          cases hchanged with
          | here hnot _ => exact absurd hobjects hnot
          | @under _ _ key keys hbelow =>
              cases hget : Dict.get? previous key with
              | some value =>
                  have hentry := Dict.mem_of_get? hget
                  rw [Dict.get.eq_1 previous, hget] at hbelow
                  exact Or.inl ⟨(key, value), hentry,
                    (ih _ hentry (hvalues _ hentry)).mpr ⟨keys, hbelow, rfl⟩⟩
              | none =>
                  obtain ⟨hkey, hdiffer, rfl⟩ := (mem_added_iff hget).mp hbelow
                  exact Or.inr ⟨key, hkey, mem_diffValue.mpr ⟨hdiffer, rfl⟩⟩
      · exact mem_diffEntry_of_not_objects hobjects

end Diff

section Paths

variable {a b : Json} {keys : List String}

theorem Changed.differsAt (hchanged : Changed a b keys) : DiffersAt a b keys := by
  induction hchanged with
  | here hobjects hdiffer =>
      exact ⟨by simpa using hobjects, by simpa using hdiffer⟩
  | under _ ih => exact ⟨ih.apart, ih.differ⟩

/-- A path at which documents differ goes on from one on which they stop agreeing. -/
theorem DiffersAt.exists_changed (hdiffers : DiffersAt a b keys) :
    ∃ above below, keys = above ++ below ∧ Changed a b above := by
  induction keys generalizing a b with
  | nil =>
      refine ⟨[], [], rfl, .here ?_ ?_⟩
      · simpa using hdiffers.apart
      · simpa using hdiffers.differ
  | cons key rest ih =>
      by_cases hobjects : a.isObject = true ∧ b.isObject = true
      · obtain ⟨previous, rfl⟩ := Json.isObject_iff.mp hobjects.1
        obtain ⟨current, rfl⟩ := Json.isObject_iff.mp hobjects.2
        obtain ⟨above, below, rfl, hchanged⟩ := ih ⟨hdiffers.apart, hdiffers.differ⟩
        exact ⟨key :: above, below, rfl, .under hchanged⟩
      · refine ⟨[], key :: rest, rfl, .here hobjects ?_⟩
        by_contra hequal
        -- equal values that are not both dictionaries have nothing below
        have hsame := Json.isObject_eq_of_equals (Bool.not_eq_false _ ▸ hequal)
        have hleft : a.isObject = false := by
          cases hvalue : a.isObject with
          | false => rfl
          | true => exact absurd ⟨hvalue, hsame ▸ hvalue⟩ hobjects
        have hdiffer := hdiffers.differ
        rw [Json.valueAt_cons_of_not_isObject hleft,
          Json.valueAt_cons_of_not_isObject (hsame ▸ hleft), Json.equals_null] at hdiffer
        exact absurd hdiffer Bool.true_eq_false_eq_False

theorem startsWith_iff {pre s : String} :
    Text.startsWith pre s = true ↔ pre.toList <+: s.toList := List.isPrefixOf_iff_prefix

/-- Below a section are its paths only. -/
theorem isUnderSection_joinPath {path sectionPath key : String}
    (hunder : isUnderSection path sectionPath = true) (hsection : sectionPath ≠ "") :
    isUnderSection (joinPath path key) sectionPath = true := by
  have hcases := of_decide_eq_true hunder
  rw [startsWith_iff, String.toList_append] at hcases
  have hne : path ≠ "" := by
    rintro rfl
    rcases hcases with hsame | hpre
    · exact hsection hsame.symm
    · simp at hpre
  refine decide_eq_true (Or.inr ?_)
  rw [joinPath, if_neg hne, startsWith_iff]
  simp only [String.toList_append]
  rcases hcases with rfl | hpre
  · exact List.prefix_append _ _
  · exact hpre.trans ((List.prefix_append _ _).trans (List.prefix_append _ _))

theorem IsHotReloadable.extend {path : String} (hpath : IsHotReloadable path)
    (more : List String) : IsHotReloadable (more.foldl joinPath path) := by
  induction more generalizing path with
  | nil => exact hpath
  | cons key rest ih =>
      obtain ⟨sectionPath, hmem, hunder⟩ := hpath
      refine ih ⟨sectionPath, hmem, isUnderSection_joinPath hunder ?_⟩
      rintro rfl
      revert hmem
      decide

end Paths

section Summary

variable {previous next : ConfigDocument} {path text : String} {sections : List String}

theorem mem_diffPaths : text ∈ diffPaths previous.fields next.fields ↔
    ∃ keys, Changed previous.value next.value keys ∧ text = dottedPath keys :=
  mem_diffEntry previous.distinct

/-- The changed paths and the paths at which the documents differ lie under the same sections. -/
theorem forall_differsAt_iff : (∀ keys, DiffersAt previous.value next.value keys →
      IsHotReloadable (dottedPath keys)) ↔
    ∀ text ∈ diffPaths previous.fields next.fields, IsHotReloadable text := by
  constructor
  · intro hall text htext
    obtain ⟨keys, hchanged, rfl⟩ := mem_diffPaths.mp htext
    exact hall keys hchanged.differsAt
  · intro hall keys hdiffers
    obtain ⟨above, below, rfl, hchanged⟩ := hdiffers.exists_changed
    have habove := hall _ (mem_diffPaths.mpr ⟨above, hchanged, rfl⟩)
    rw [dottedPath, List.foldl_append]
    exact habove.extend below

theorem exists_differsAt_iff : (∃ keys, DiffersAt previous.value next.value keys) ↔
    diffPaths previous.fields next.fields ≠ [] := by
  rw [ne_eq, List.eq_nil_iff_forall_not_mem, not_forall_not]
  constructor
  · rintro ⟨keys, hdiffers⟩
    obtain ⟨above, _, _, hchanged⟩ := hdiffers.exists_changed
    exact ⟨_, mem_diffPaths.mpr ⟨above, hchanged, rfl⟩⟩
  · rintro ⟨text, htext⟩
    obtain ⟨keys, hchanged, _⟩ := mem_diffPaths.mp htext
    exact ⟨keys, hchanged.differsAt⟩

/-- A path collapses to a hot reloadable section exactly when it lies under one. -/
theorem collapseSectionPath_mem_iff :
    collapseSectionPath path ∈ hotReloadableSectionPaths ↔ IsHotReloadable path := by
  unfold collapseSectionPath
  cases hfound : hotReloadableSectionPaths.find? (isUnderSection path) with
  | some sectionPath =>
      have hmem := List.mem_of_find?_eq_some hfound
      exact iff_of_true hmem ⟨sectionPath, hmem, List.find?_some hfound⟩
  | none =>
      have hnone := List.find?_eq_none.mp hfound
      refine iff_of_false (fun hmem => hnone path hmem ?_) ?_
      · exact decide_eq_true (Or.inl rfl)
      · rintro ⟨sectionPath, hmem, hunder⟩
        exact hnone sectionPath hmem hunder

theorem collapseSectionPath_of_not_mem
    (hnot : collapseSectionPath path ∉ hotReloadableSectionPaths) :
    collapseSectionPath path = path := by
  unfold collapseSectionPath at hnot ⊢
  cases hfound : hotReloadableSectionPaths.find? (isUnderSection path) with
  | some sectionPath =>
      rw [hfound] at hnot
      exact absurd (List.mem_of_find?_eq_some hfound) hnot
  | none => rfl

/-- The sections reported for two documents, before an empty report is marked. -/
def changedSectionsOf (previous next : ConfigDocument) : List String :=
  (collapseSectionPaths (diffPaths previous.fields next.fields)).insertionSort (· ≤ ·)

theorem mem_changedSectionsOf : text ∈ changedSectionsOf previous next ↔
    ∃ path ∈ diffPaths previous.fields next.fields, collapseSectionPath path = text := by
  rw [changedSectionsOf, (List.perm_insertionSort _ _).mem_iff, collapseSectionPaths,
    List.mem_dedup, List.mem_map]

theorem nodup_changedSectionsOf : (changedSectionsOf previous next).Nodup :=
  (List.perm_insertionSort _ _).nodup_iff.mpr (List.nodup_dedup _)

theorem changedSectionsOf_eq_nil_iff : changedSectionsOf previous next = [] ↔
    diffPaths previous.fields next.fields = [] := by
  simp only [List.eq_nil_iff_forall_not_mem, mem_changedSectionsOf]
  constructor
  · intro hnone path hpath
    exact hnone _ ⟨path, hpath, rfl⟩
  · rintro hnone text ⟨path, hpath, _⟩
    exact hnone path hpath

/-- The two lists of sections are a partition of the changed ones. -/
theorem perm_sections (sections : List String) :
    sections.Perm (sections.filter (· ∈ hotReloadableSectionPaths) ++
      sections.filter (· ∉ sections.filter (· ∈ hotReloadableSectionPaths))) := by
  have hrest : sections.filter (· ∉ sections.filter (· ∈ hotReloadableSectionPaths)) =
      sections.filter fun text => !decide (text ∈ hotReloadableSectionPaths) := by
    refine List.filter_congr fun text htext => ?_
    simp [htext]
  rw [hrest]
  exact (List.filter_append_perm _ _).symm

theorem restartRequired_eq_nil_iff :
    sections.filter (· ∉ sections.filter (· ∈ hotReloadableSectionPaths)) = [] ↔
      ∀ text ∈ sections, text ∈ hotReloadableSectionPaths := by
  simp only [List.filter_eq_nil_iff, decide_eq_true_eq, not_not, List.mem_filter]
  exact forall₂_congr fun text htext => and_iff_right htext

theorem policy_eq : policy previous next =
    summarizeSections (if changedSectionsOf previous next = [] then ["no_effective_change"]
      else changedSectionsOf previous next) := rfl

theorem policy_of_agree (hagree : diffPaths previous.fields next.fields = []) :
    policy previous next = ⟨.noop, ["no_effective_change"], [], []⟩ := by
  rw [policy_eq, if_pos (changedSectionsOf_eq_nil_iff.mpr hagree)]
  rfl

/-- No path where the documents differ is spelled like the mark of an empty report. -/
def Unmarked (previous next : ConfigDocument) : Prop :=
  ∀ keys, DiffersAt previous.value next.value keys → dottedPath keys ≠ "no_effective_change"

/-- The report of a change then is not taken for an empty one. -/
theorem changedSectionsOf_ne_marker (hunmarked : Unmarked previous next) :
    changedSectionsOf previous next ≠ ["no_effective_change"] := by
  intro hmarker
  have hmem : "no_effective_change" ∈ changedSectionsOf previous next :=
    hmarker ▸ List.mem_singleton.mpr rfl
  obtain ⟨path, hpath, hcollapse⟩ := mem_changedSectionsOf.mp hmem
  have hcold : collapseSectionPath path ∉ hotReloadableSectionPaths := by
    rw [hcollapse]
    decide
  rw [collapseSectionPath_of_not_mem hcold] at hcollapse
  obtain ⟨keys, hchanged, hkeys⟩ := mem_diffPaths.mp hpath
  exact hunmarked keys hchanged.differsAt (hkeys ▸ hcollapse)

theorem policy_of_differ (hdiffer : diffPaths previous.fields next.fields ≠ [])
    (hunmarked : Unmarked previous next) :
    let sections := changedSectionsOf previous next
    let hot := sections.filter (· ∈ hotReloadableSectionPaths)
    let restart := sections.filter (· ∉ hot)
    policy previous next =
      ⟨if restart = [] then .hotReload else .restartRequired, sections, hot, restart⟩ := by
  rw [policy_eq, if_neg (mt changedSectionsOf_eq_nil_iff.mp hdiffer), summarizeSections,
    if_neg (changedSectionsOf_ne_marker hunmarked)]

/-- No section asks for a restart when every changed path lies under a hot one. -/
theorem restartRequired_changedSectionsOf_iff :
    let sections := changedSectionsOf previous next
    sections.filter (· ∉ sections.filter (· ∈ hotReloadableSectionPaths)) = [] ↔
      ∀ keys, DiffersAt previous.value next.value keys → IsHotReloadable (dottedPath keys) := by
  intro sections
  rw [restartRequired_eq_nil_iff, forall_differsAt_iff]
  constructor
  · intro hall path hpath
    exact collapseSectionPath_mem_iff.mp (hall _ (mem_changedSectionsOf.mpr ⟨path, hpath, rfl⟩))
  · intro hall text htext
    obtain ⟨path, hpath, rfl⟩ := mem_changedSectionsOf.mp htext
    exact collapseSectionPath_mem_iff.mpr (hall path hpath)

/-- The policy follows the paths at which the documents differ. -/
theorem policyFollows (hunmarked : Unmarked previous next) : PolicyFollows previous next := by
  by_cases hagree : diffPaths previous.fields next.fields = []
  · have hpolicy := policy_of_agree hagree
    have hnone : ¬ ∃ keys, DiffersAt previous.value next.value keys :=
      fun hsome => exists_differsAt_iff.mp hsome hagree
    constructor
    · rw [hpolicy]
      exact iff_of_true rfl (not_exists.mp hnone)
    · rw [hpolicy]
      exact iff_of_false (by decide) fun hhot => hnone hhot.1
    · rw [hpolicy]
      exact iff_of_false (by decide) fun ⟨keys, hdiffers, _⟩ => hnone ⟨keys, hdiffers⟩
    · exact fun _ => hpolicy
    · exact fun hnot => absurd (hpolicy ▸ rfl) hnot
  · have hpolicy := policy_of_differ hagree hunmarked
    have hsome := exists_differsAt_iff.mpr hagree
    have hrestart := @restartRequired_changedSectionsOf_iff previous next
    dsimp only at hpolicy hrestart
    have hnoop : (policy previous next).applyPolicy ≠ .noop := by
      rw [hpolicy]
      dsimp only
      split <;> decide
    constructor
    · exact iff_of_false hnoop (not_forall_not.mpr hsome)
    · rw [hpolicy, and_iff_right hsome, ← hrestart]
      dsimp only
      split
      next hnil => exact iff_of_true rfl hnil
      next hsections => exact iff_of_false (by decide) hsections
    · rw [hpolicy]
      dsimp only
      have hcold : (∃ keys, DiffersAt previous.value next.value keys ∧
          ¬ IsHotReloadable (dottedPath keys)) ↔
        ¬ ∀ keys, DiffersAt previous.value next.value keys →
            IsHotReloadable (dottedPath keys) := by
        simp only [not_forall, exists_prop]
      rw [hcold, ← hrestart]
      split
      next hnil => exact iff_of_false (by decide) (not_not.mpr hnil)
      next hsections => exact iff_of_true rfl hsections
    · exact fun hisNoop => absurd hisNoop hnoop
    · intro _
      rw [hpolicy]
      exact ⟨nodup_changedSectionsOf, perm_sections _⟩

end Summary

section Runs

variable {previous next : ConfigDocument}

/-- A document of which only hot reloadable sections change has no mark of an empty report. -/
theorem unmarked_of_isHotReloadable
    (hhot : ∀ text ∈ diffPaths previous.fields next.fields, IsHotReloadable text) :
    Unmarked previous next := by
  intro keys hdiffers hmarker
  obtain ⟨sectionPath, hmem, hunder⟩ := forall_differsAt_iff.mpr hhot keys hdiffers
  rw [hmarker] at hunder
  have hcold : hotReloadableSectionPaths.any (isUnderSection "no_effective_change") = false := by
    decide +kernel
  exact absurd (List.any_eq_true.mpr ⟨sectionPath, hmem, hunder⟩) (by rw [hcold]; decide)

/-- A note, and a limit on the risk. -/
def riskConfig (minProfitQuote : Int) : ConfigDocument where
  fields := [("note", .int 1), ("arbitrage_runtime",
    .obj [("risk_config", .obj [("min_profit_quote", .int minProfitQuote)])])]
  distinct := by simp [Json.DistinctKeys, Json.DistinctFields]

/-- A limit on the risk is changed. -/
theorem policyFollows_riskConfig : PolicyFollows (riskConfig 1000) (riskConfig 1100) := by
  refine policyFollows (unmarked_of_isHotReloadable fun text htext => ?_)
  have hpaths : diffPaths (riskConfig 1000).fields (riskConfig 1100).fields =
      ["arbitrage_runtime.risk_config.min_profit_quote"] := by decide +kernel
  rw [hpaths, List.mem_singleton] at htext
  exact ⟨"arbitrage_runtime.risk_config", List.mem_cons_self, htext ▸ by decide +kernel⟩

def noteConfig (note : Json) (hnote : note.DistinctKeys) : ConfigDocument where
  fields := [("note", note)]
  distinct := by simpa [Json.DistinctKeys, Json.DistinctFields] using hnote

def emptyConfig : ConfigDocument where
  fields := []
  distinct := by simp [Json.DistinctKeys, Json.DistinctFields]

/-- The leaves that go with the runtime section lie under the risk section. -/
theorem isHotReloadable_of_leafDiffers {keys : List String}
    (hdiffers : LeafDiffers (riskConfig 1000).value (noteConfig (.int 1) trivial).value keys) :
    IsHotReloadable (dottedPath keys) := by
  have hsection : IsHotReloadable "arbitrage_runtime.risk_config" :=
    ⟨"arbitrage_runtime.risk_config", List.mem_cons_self, by decide +kernel⟩
  unfold LeafDiffers riskConfig noteConfig ConfigDocument.value at hdiffers
  cases keys with
  | nil => exact hdiffers.elim
  | cons key rest =>
      simp only [Json.leafAt?, Dict.get?_cons, Dict.get?_nil] at hdiffers
      by_cases hnote : key = "note"
      · subst hnote
        cases rest with
        | nil =>
            have hsame : (Json.int 1).equalsJson (.int 1) = false := hdiffers
            exact absurd hsame (by decide +kernel)
        | cons _ _ => exact hdiffers.elim
      · by_cases hruntime : key = "arbitrage_runtime"
        · subst hruntime
          cases rest with
          | nil => exact hdiffers.elim
          | cons below rest =>
              by_cases hrisk : below = "risk_config"
              · subst hrisk
                exact hsection.extend rest
              · simp [hrisk, Json.leafAt?, Dict.get?_cons] at hdiffers
        · simp [hnote, hruntime] at hdiffers

/-- A key that is null is reported like a missing one, and a section that is left out with
all there is above it asks for a restart. -/
theorem not_exactPolicy :
    ¬ ExactPolicy (noteConfig .null trivial) emptyConfig ∧
      ¬ ExactPolicy (riskConfig 1000) (noteConfig (.int 1) trivial) := by
  constructor
  · intro hexact
    have hequal := hexact.noop.mp (by decide +kernel)
    revert hequal
    decide +kernel
  · intro hexact
    have hhot := hexact.hotReload.mpr
      ⟨by decide +kernel, fun keys hdiffers => isHotReloadable_of_leafDiffers hdiffers⟩
    revert hhot
    decide +kernel

end Runs

end TradingPlatform.Config

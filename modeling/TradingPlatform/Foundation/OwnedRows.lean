import Mathlib.Data.List.Nodup

/-! # Rows that own and rows that go on

A table as a list of rows with keys. Among rows that belong to owners, each owner
has one active row at most; and a relation that says how one row may go on is
carried from tables to later tables.
-/

namespace TradingPlatform

variable {Row Key Owner : Type*}

section Update

variable [DecidableEq Key] {key : Row → Key} {k : Key} {f : Row → Row} {rows : List Row}

/-- The rows with a key are changed, the others stay. -/
def updateAt (key : Row → Key) (k : Key) (f : Row → Row) (rows : List Row) : List Row :=
  rows.map fun row => if key row = k then f row else row

theorem mem_updateAt {later : Row} :
    later ∈ updateAt key k f rows ↔
      (∃ row ∈ rows, key row = k ∧ f row = later) ∨ (later ∈ rows ∧ key later ≠ k) := by
  simp only [updateAt, List.mem_map]
  constructor
  · rintro ⟨row, hrow, rfl⟩
    by_cases hkey : key row = k
    · exact Or.inl ⟨row, hrow, hkey, by rw [if_pos hkey]⟩
    · rw [if_neg hkey]
      exact Or.inr ⟨hrow, hkey⟩
  · rintro (⟨row, hrow, hkey, rfl⟩ | ⟨hlater, hkey⟩)
    · exact ⟨row, hrow, if_pos hkey⟩
    · exact ⟨later, hlater, if_neg hkey⟩

/-- What the update leaves of each row is left of the table. -/
theorem map_updateAt {Column : Type*} {column : Row → Column}
    (hcolumn : ∀ row ∈ rows, key row = k → column (f row) = column row) :
    (updateAt key k f rows).map column = rows.map column := by
  rw [updateAt, List.map_map]
  refine List.map_congr_left fun row hrow => ?_
  rw [Function.comp_apply]
  split_ifs with hat
  · exact hcolumn row hrow hat
  · rfl

theorem filter_updateAt {q : Row → Bool} (hkept : ∀ row, q (f row) = q row) :
    (updateAt key k f rows).filter q = updateAt key k f (rows.filter q) := by
  have hq : (q ∘ fun row => if key row = k then f row else row) = q := by
    funext row
    rw [Function.comp_apply]
    split_ifs
    · exact hkept row
    · rfl
  rw [updateAt, List.filter_map, hq, updateAt]

end Update

section Issued

variable {uuid : ℕ → Key} {key : Row → Key} {rows : List Row} {serial : ℕ}

/-- Keys handed out so far stay so. -/
theorem issued_succ (hissued : ∀ row ∈ rows, ∃ n < serial, key row = uuid n) :
    ∀ row ∈ rows, ∃ n < serial + 1, key row = uuid n := by
  intro row hrow
  obtain ⟨n, hlt, hkey⟩ := hissued row hrow
  exact ⟨n, Nat.lt_succ_of_lt hlt, hkey⟩

/-- The next key is none of those handed out. -/
theorem ne_of_issued (huuid : Function.Injective uuid)
    (hissued : ∀ row ∈ rows, ∃ n < serial, key row = uuid n) :
    ∀ row ∈ rows, key row ≠ uuid serial := by
  intro row hrow hnext
  obtain ⟨n, hlt, hkey⟩ := hissued row hrow
  exact Nat.ne_of_lt hlt (huuid (hkey.symm.trans hnext))

end Issued

section OneActive

variable {key : Row → Key} {owner : Row → Owner} {active : Row → Prop} {rows : List Row}

/-- No two rows have one key, and no owner has two active rows. -/
structure OneActive (key : Row → Key) (owner : Row → Owner) (active : Row → Prop)
    (rows : List Row) : Prop where
  nodup : (rows.map key).Nodup
  single : ∀ row ∈ rows, ∀ other ∈ rows, owner row = owner other → active row → active other →
    key row = key other

namespace OneActive

theorem nil : OneActive key owner active ([] : List Row) where
  nodup := List.nodup_nil
  single := by simp

theorem eq_of_key (h : OneActive key owner active rows) {row other : Row} (hrow : row ∈ rows)
    (hother : other ∈ rows) (hkey : key row = key other) : row = other :=
  List.inj_on_of_nodup_map h.nodup hrow hother hkey

/-- A new row comes in for an owner without an active row. -/
theorem add (h : OneActive key owner active rows) {new : Row}
    (hfresh : ∀ row ∈ rows, key row ≠ key new)
    (hfree : ∀ row ∈ rows, owner row = owner new → ¬ active row) :
    OneActive key owner active (rows ++ [new]) where
  nodup := by
    rw [List.map_append, List.map_singleton, List.nodup_append]
    refine ⟨h.nodup, List.nodup_singleton _, ?_⟩
    rintro k hk other hother rfl
    obtain ⟨row, hrow, rfl⟩ := List.mem_map.mp hk
    exact hfresh row hrow (List.mem_singleton.mp hother)
  single := by
    intro row hrow other hother howner hactive hactive'
    simp only [List.mem_append, List.mem_singleton] at hrow hother
    rcases hrow with hrow | rfl <;> rcases hother with hother | rfl
    · exact h.single row hrow other hother howner hactive hactive'
    · exact absurd hactive (hfree row hrow howner)
    · exact absurd hactive' (hfree other hother howner.symm)
    · rfl

/-- An update that keeps key and owner and makes no row active. -/
theorem update [DecidableEq Key] (h : OneActive key owner active rows) {k : Key} {f : Row → Row}
    (hkey : ∀ row ∈ rows, key row = k → key (f row) = key row)
    (howner : ∀ row ∈ rows, key row = k → owner (f row) = owner row)
    (hactive : ∀ row ∈ rows, key row = k → active (f row) → active row) :
    OneActive key owner active (updateAt key k f rows) where
  nodup := by
    rw [map_updateAt hkey]
    exact h.nodup
  single := by
    -- each row of the new table comes from one that says the same about key and owner
    have hcomes : ∀ later ∈ updateAt key k f rows, ∃ row ∈ rows, key row = key later ∧
        owner row = owner later ∧ (active later → active row) := by
      intro later hlater
      rcases mem_updateAt.mp hlater with ⟨row, hrow, hat, rfl⟩ | ⟨hrow, -⟩
      · exact ⟨row, hrow, (hkey row hrow hat).symm, (howner row hrow hat).symm,
          hactive row hrow hat⟩
      · exact ⟨later, hrow, rfl, rfl, id⟩
    intro row hrow other hother howns hlive hlive'
    obtain ⟨before, hbefore, hk, ho, ha⟩ := hcomes row hrow
    obtain ⟨before', hbefore', hk', ho', ha'⟩ := hcomes other hother
    rw [← hk, ← hk']
    exact h.single before hbefore before' hbefore' (by rw [ho, ho', howns]) (ha hlive) (ha' hlive')

end OneActive

end OneActive

section Continues

variable {goesOn : Row → Row → Prop} {rows later : List Row}

/-- Every row of a table goes on as a row of the later table. -/
def Continues (goesOn : Row → Row → Prop) (rows later : List Row) : Prop :=
  ∀ row ∈ rows, ∃ next ∈ later, goesOn row next

namespace Continues

theorem of_subset (hrefl : ∀ row, goesOn row row) (hsubset : rows ⊆ later) :
    Continues goesOn rows later :=
  fun row hrow => ⟨row, hsubset hrow, hrefl row⟩

theorem trans (htrans : ∀ a b c, goesOn a b → goesOn b c → goesOn a c) {last : List Row}
    (hfirst : Continues goesOn rows later) (hsecond : Continues goesOn later last) :
    Continues goesOn rows last := by
  intro row hrow
  obtain ⟨next, hnext, hgoes⟩ := hfirst row hrow
  obtain ⟨final, hfinal, hgoes'⟩ := hsecond next hnext
  exact ⟨final, hfinal, htrans _ _ _ hgoes hgoes'⟩

theorem update [DecidableEq Key] {key : Row → Key} {k : Key} {f : Row → Row}
    (hrefl : ∀ row, goesOn row row) (hstep : ∀ row ∈ rows, key row = k → goesOn row (f row)) :
    Continues goesOn rows (updateAt key k f rows) := by
  intro row hrow
  by_cases hkey : key row = k
  · exact ⟨f row, mem_updateAt.mpr (Or.inl ⟨row, hrow, hkey, rfl⟩), hstep row hrow hkey⟩
  · exact ⟨row, mem_updateAt.mpr (Or.inr ⟨hrow, hkey⟩), hrefl row⟩

end Continues

end Continues

end TradingPlatform

import Mathlib.Data.List.Infix
import Mathlib.Data.List.Pairwise
import Mathlib.Logic.Relation
import Mathlib.Order.WithBot

/-! # Reading a log page by page

A log takes entries at its end, each under a key above all that it ever took, and loses
entries at its beginning. A reader takes the newest entries first, one page at a time, each
of them below the last key of the page before, and meanwhile the log goes on.
-/

namespace Paging

variable {K E : Type} [LinearOrder K]

/-- The entries of a log, the oldest first, and the highest key that it took. -/
structure Log (K E : Type) [LinearOrder K] where
  entries : List (K × E)
  last : WithBot K
  ordered : (entries.map Prod.fst).Pairwise (· < ·)
  le_last : ∀ entry ∈ entries, (entry.1 : WithBot K) ≤ last

namespace Log

def empty : Log K E := ⟨[], ⊥, List.Pairwise.nil, by simp⟩

/-- What becomes of a log: it takes an entry, or it loses its oldest ones. -/
inductive Step : Log K E → Log K E → Prop
  | take {log next : Log K E} (key : K) (event : E) (hkey : log.last < key)
      (hentries : next.entries = log.entries ++ [(key, event)]) (hlast : next.last = key) :
      Step log next
  | lose {log next : Log K E} (count : ℕ) (hentries : next.entries = log.entries.drop count)
      (hlast : next.last = log.last) : Step log next

def Evolves : Log K E → Log K E → Prop := Relation.ReflTransGen Step

/-- The entries below a key, or all of them, the newest first. -/
def below (before : WithTop K) (log : Log K E) : List (K × E) :=
  log.entries.reverse.filter fun entry => (entry.1 : WithTop K) < before

/-- What the log takes from now on is not below the key. -/
def Behind (before : WithTop K) (log : Log K E) : Prop :=
  ∀ key : K, log.last < key → ¬ (key : WithTop K) < before

variable {log next later : Log K E} {before : WithTop K} {entry : K × E} {key : K}

theorem mem_below : entry ∈ log.below before ↔
    entry ∈ log.entries ∧ (entry.1 : WithTop K) < before := by
  rw [below, List.mem_filter, List.mem_reverse, decide_eq_true_eq]

theorem below_top : log.below ⊤ = log.entries.reverse :=
  List.filter_eq_self.mpr fun entry _ => by simp

theorem pairwise_below (log : Log K E) (before : WithTop K) :
    ((log.below before).map Prod.fst).Pairwise (· > ·) := by
  have hreverse : (log.entries.reverse.map Prod.fst).Pairwise (· > ·) := by
    rw [List.map_reverse, List.pairwise_reverse]
    exact log.ordered
  exact hreverse.sublist (List.filter_sublist.map _)

theorem behind_of_mem (hentry : entry ∈ log.entries) : log.Behind (entry.1 : WithTop K) := by
  intro key hkey
  have hlast : (entry.1 : WithBot K) < key := (log.le_last entry hentry).trans_lt hkey
  exact fun hbelow =>
    lt_asymm (WithBot.coe_lt_coe.mp hlast) (WithTop.coe_lt_coe.mp hbelow)

section Steps

theorem Step.last_le (hstep : Step log next) : log.last ≤ next.last := by
  cases hstep with
  | take key event hkey _ hlast => exact hlast ▸ hkey.le
  | lose count _ hlast => exact hlast.ge

/-- What a step brings in is above all that was taken before. -/
theorem Step.mem (hstep : Step log next) (hentry : entry ∈ next.entries)
    (hold : (entry.1 : WithBot K) ≤ log.last) : entry ∈ log.entries := by
  cases hstep with
  | take key event hkey hentries _ =>
      rw [hentries] at hentry
      rcases List.mem_append.mp hentry with hmem | hnew
      · exact hmem
      · rw [List.mem_singleton.mp hnew] at hold
        exact absurd hkey (not_lt.mpr hold)
  | lose count hentries _ => exact List.mem_of_mem_drop (hentries ▸ hentry)

theorem Step.isPrefix_below (hstep : Step log next) (hbehind : log.Behind before) :
    next.below before <+: log.below before := by
  cases hstep with
  | take key event hkey hentries _ =>
      have hnot : ¬ (key : WithTop K) < before := hbehind key hkey
      rw [below, below, hentries, List.reverse_append, List.reverse_singleton,
        List.singleton_append, List.filter_cons_of_neg (by simpa using hnot)]
  | lose count hentries _ =>
      have hsplit : log.entries.reverse =
          (log.entries.drop count).reverse ++ (log.entries.take count).reverse := by
        rw [← List.reverse_append, List.take_append_drop]
      rw [below, below, hentries, hsplit, List.filter_append]
      exact List.prefix_append _ _

end Steps

namespace Evolves

theorem last_le (hlater : log.Evolves later) : log.last ≤ later.last := by
  induction hlater with
  | refl => exact le_rfl
  | tail _ hstep ih => exact ih.trans hstep.last_le

theorem behind (hlater : log.Evolves later) (hbehind : log.Behind before) :
    later.Behind before := fun key hkey => hbehind key (hlater.last_le.trans_lt hkey)

theorem mem (hlater : log.Evolves later) (hentry : entry ∈ later.entries)
    (hold : (entry.1 : WithBot K) ≤ log.last) : entry ∈ log.entries := by
  induction hlater with
  | refl => exact hentry
  | tail hbefore hstep ih => exact ih (hstep.mem hentry (hold.trans (last_le hbefore)))

/-- Below a key that was given, a log only loses, and only its oldest entries. -/
theorem isPrefix_below (hlater : log.Evolves later) (hbehind : log.Behind before) :
    later.below before <+: log.below before := by
  induction hlater with
  | refl => exact List.prefix_rfl
  | tail hbefore hstep ih => exact (hstep.isPrefix_below (behind hbefore hbehind)).trans ih

end Evolves

end Log

/-- A page, and the key below which the next one begins, if there is one. -/
structure Page (K E : Type) where
  items : List (K × E)
  next : Option K

/-- One entry more than fits in the page is read, to see whether there is another page. -/
def readPage (limit : ℕ) (before : WithTop K) (log : Log K E) : Page K E :=
  let raw := (log.below before).take (limit + 1)
  let items := raw.take limit
  ⟨items, if limit < raw.length then items.getLast?.map Prod.fst else none⟩

/-- The pages that a reader gets, each from the log as it is then. -/
def readPages (limit : ℕ) (before : WithTop K) : List (Log K E) → List (Page K E)
  | [] => []
  | log :: later =>
      let page := readPage limit before log
      page :: match page.next with
        | none => []
        | some key => readPages limit key later

section Reading

variable {limit : ℕ} {before : WithTop K} {log base : Log K E} {key : K}

theorem isSome_next_readPage (hlimit : 0 < limit) :
    (readPage limit before log).next.isSome =
      decide (limit < ((log.below before).take (limit + 1)).length) := by
  rw [readPage]
  dsimp only
  split_ifs with hmore
  · rw [Option.isSome_map, decide_eq_true hmore, List.getLast?_isSome, ← List.length_pos_iff,
      List.length_take]
    omega
  · rw [decide_eq_false hmore]
    rfl

theorem readPage_of_le (hlength : (log.below before).length ≤ limit) :
    readPage limit before log = ⟨log.below before, none⟩ := by
  have hall : (log.below before).take (limit + 1) = log.below before :=
    List.take_of_length_le (hlength.trans (Nat.le_succ limit))
  rw [readPage, hall, List.take_of_length_le hlength, if_neg (not_lt.mpr hlength)]

/-- A page that is not the last is full, and the next one goes on where it ends. -/
theorem readPage_of_lt (hlimit : 0 < limit) (hlength : limit < (log.below before).length) :
    ∃ key event, (key, event) ∈ log.entries ∧
      readPage limit before log = ⟨(log.below before).take limit, some key⟩ ∧
        log.below key = (log.below before).drop limit := by
  obtain ⟨front, ⟨key, event⟩, hfront⟩ : ∃ front entry,
      (log.below before).take limit = front ++ [entry] := by
    have hne : (log.below before).take limit ≠ [] := by
      rw [← List.length_pos_iff, List.length_take]
      omega
    exact ⟨_, _, (List.dropLast_concat_getLast hne).symm⟩
  have hsplit : log.below before = front ++ [(key, event)] ++ (log.below before).drop limit := by
    rw [← hfront, List.take_append_drop]
  have hmem : (key, event) ∈ log.below before := by
    rw [hsplit]
    simp
  have hordered := log.pairwise_below before
  rw [hsplit, List.map_append, List.pairwise_append, List.map_append, List.pairwise_append]
    at hordered
  obtain ⟨⟨-, -, habove⟩, -, hafter⟩ := hordered
  have hbefore := (Log.mem_below.mp hmem).2
  refine ⟨key, event, (Log.mem_below.mp hmem).1, ?_, ?_⟩
  · rw [readPage, List.take_take, min_eq_left (Nat.le_succ limit), List.length_take,
      if_pos (by omega), hfront, List.getLast?_append]
    rfl
  · have hbelow : log.below key =
        (log.below before).filter fun entry => (entry.1 : WithTop K) < key := by
      rw [Log.below, Log.below, List.filter_filter]
      apply List.filter_congr
      intro entry _
      rw [← Bool.decide_and, decide_eq_decide]
      exact ⟨fun hentry => ⟨hentry, hentry.trans hbefore⟩, And.left⟩
    rw [hbelow]
    conv_lhs => rw [hsplit]
    rw [List.filter_append, List.filter_eq_nil_iff.mpr, List.filter_eq_self.mpr, List.nil_append]
    · intro entry hentry
      have hlt := hafter key (by simp) entry.1 (List.mem_map_of_mem hentry)
      simpa using hlt
    · intro entry hentry
      rcases List.mem_append.mp hentry with hfirst | hlast
      · have hgt := habove entry.1 (List.mem_map_of_mem hfirst) key (by simp)
        simpa using hgt.le
      · simp [List.mem_singleton.mp hlast]

/-- What a reader has got when the logs that it reads go on from one that it has not read. -/
structure Covers (limit : ℕ) (before : WithTop K) (base : Log K E) (logs : List (Log K E)) :
    Prop where
  /-- In the order of the log, without a gap. -/
  isPrefix : ((readPages limit before logs).flatMap Page.items) <+: base.below before
  /-- With a last page, nothing that is still there at the end is missing. -/
  complete : ∀ page ∈ (readPages limit before logs).getLast?, page.next = none →
    ∀ log ∈ logs.getLast?, ∀ entry ∈ base.below before, entry ∈ log.entries →
      entry ∈ (readPages limit before logs).flatMap Page.items
  /-- There is a last page as soon as the pages could hold it all. -/
  finished : logs ≠ [] → (base.below before).length ≤ limit * logs.length →
    ∀ page ∈ (readPages limit before logs).getLast?, page.next = none

variable {later : List (Log K E)}

/-- What was there at first and is there at the end is there in between. -/
theorem mem_below_of_mem_getLast? (hlogs : (base :: log :: later).Pairwise Log.Evolves)
    {entry : K × E} (hentry : entry ∈ base.below before) {last : Log K E}
    (hlast : last ∈ (log :: later).getLast?) (hmem : entry ∈ last.entries) :
    entry ∈ log.below before := by
  rw [List.pairwise_cons, List.pairwise_cons] at hlogs
  obtain ⟨hbase, hlog, -⟩ := hlogs
  obtain ⟨hold, hbefore⟩ := Log.mem_below.mp hentry
  have hbound := (base.le_last entry hold).trans (hbase log List.mem_cons_self).last_le
  refine Log.mem_below.mpr ⟨?_, hbefore⟩
  rcases List.mem_cons.mp (List.mem_of_getLast? hlast) with rfl | hrest
  · exact hmem
  · exact (hlog last hrest).mem hmem hbound

theorem Covers.of_le (hlogs : (base :: log :: later).Pairwise Log.Evolves)
    (hfirst : log.below before <+: base.below before)
    (hlength : (log.below before).length ≤ limit) : Covers limit before base (log :: later) := by
  have hpages : readPages limit before (log :: later) = [⟨log.below before, none⟩] := by
    rw [readPages, readPage_of_le hlength]
  rw [← List.append_nil (log.below before)] at hfirst
  refine ⟨?_, ?_, ?_⟩ <;> rw [hpages]
  · exact hfirst
  · intro page _ _ last hlast entry hentry hmem
    rw [List.flatMap_singleton]
    exact mem_below_of_mem_getLast? hlogs hentry hlast hmem
  · intro _ _ page hpage
    rw [← Option.some.inj hpage]
    rfl

/-- The pages after a full one cover what is left of the log that it was read from. -/
theorem Covers.of_lt (hlogs : (base :: log :: later).Pairwise Log.Evolves)
    (hfirst : log.below before <+: base.below before) {key : K}
    (hpage : readPage limit before log = ⟨(log.below before).take limit, some key⟩)
    (hnext : log.below key = (log.below before).drop limit)
    (hlength : limit < (log.below before).length) (hrest : Covers limit key log later) :
    Covers limit before base (log :: later) := by
  have hpages : readPages limit before (log :: later) =
      ⟨(log.below before).take limit, some key⟩ :: readPages limit key later := by
    rw [readPages, hpage]
  -- The last page is one of the others, unless this is all that was read.
  have hlast : ∀ {page}, page ∈ (readPages limit before (log :: later)).getLast? →
      (later = [] ∧ page.next = some key) ∨ page ∈ (readPages limit key later).getLast? := by
    intro page hpage
    rw [hpages] at hpage
    cases later with
    | nil =>
        rw [← Option.some.inj hpage]
        exact Or.inl ⟨rfl, rfl⟩
    | cons second more =>
        rw [readPages, List.getLast?_cons_cons] at hpage
        exact Or.inr hpage
  refine ⟨?_, ?_, ?_⟩
  · rw [hpages, List.flatMap_cons]
    have hboth := (List.prefix_append_right_inj ((log.below before).take limit)).mpr
      hrest.isPrefix
    rw [hnext, List.take_append_drop] at hboth
    exact hboth.trans hfirst
  · intro page hmem hnone last hend entry hentry hthere
    rw [hpages, List.flatMap_cons, List.mem_append]
    have hnow := mem_below_of_mem_getLast? hlogs hentry hend hthere
    rw [← List.take_append_drop limit (log.below before), List.mem_append, ← hnext] at hnow
    rcases hlast hmem with ⟨-, hsome⟩ | hmore
    · rw [hnone] at hsome
      cases hsome
    · refine hnow.imp_right fun hafter => ?_
      cases later with
      | nil => cases hmore
      | cons second more =>
          rw [List.getLast?_cons_cons] at hend
          exact hrest.complete page hmore hnone last hend entry hafter hthere
  · intro _ hcount page hmem
    have hleft : (log.below key).length ≤ limit * later.length := by
      have hle := hfirst.length_le
      rw [List.length_cons, Nat.mul_succ] at hcount
      rw [hnext, List.length_drop]
      omega
    have hmore : later ≠ [] := by
      rintro rfl
      rw [hnext, List.length_drop, List.length_nil, Nat.mul_zero] at hleft
      omega
    exact hrest.finished hmore hleft page ((hlast hmem).resolve_left fun hnil => hmore hnil.1)

theorem covers (hlimit : 0 < limit) {logs : List (Log K E)}
    (hlogs : (base :: logs).Pairwise Log.Evolves)
    (hfirst : ∀ log ∈ logs.head?, log.below before <+: base.below before) :
    Covers limit before base logs := by
  induction logs generalizing base before with
  | nil => exact ⟨List.nil_prefix, by simp [readPages], by simp⟩
  | cons log later ih =>
      have hlater := (List.pairwise_cons.mp hlogs).2
      by_cases hlength : (log.below before).length ≤ limit
      · exact Covers.of_le hlogs (hfirst log rfl) hlength
      · obtain ⟨key, event, hmem, hpage, hnext⟩ := readPage_of_lt hlimit (not_le.mp hlength)
        refine Covers.of_lt hlogs (hfirst log rfl) hpage hnext (not_le.mp hlength) (ih hlater ?_)
        intro next hsecond
        exact ((List.pairwise_cons.mp hlater).1 next (List.mem_of_head? hsecond)).isPrefix_below
          (Log.behind_of_mem hmem)

/-- A reader who begins at the top covers the log as it was then. -/
theorem covers_top (hlimit : 0 < limit) (hlogs : (log :: later).Pairwise Log.Evolves) :
    Covers limit ⊤ log (log :: later) := by
  refine covers hlimit (List.pairwise_cons.mpr ⟨fun next hnext => ?_, hlogs⟩) ?_
  · rcases List.mem_cons.mp hnext with rfl | hmem
    · exact Relation.ReflTransGen.refl
    · exact (List.pairwise_cons.mp hlogs).1 next hmem
  · intro first hfirst
    rw [← Option.some.inj hfirst]

end Reading

end Paging

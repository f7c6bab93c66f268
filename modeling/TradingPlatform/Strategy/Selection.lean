import TradingPlatform.Strategy.CandidateSets
import TradingPlatform.Strategy.Reference

/-! # What the selection among exchange pairs guarantees

Distinct names tell the ordered pairs apart, so each pair is summarised once and
one summary is marked. The pair that wins has a largest rank of its pool, and
the pool of a permuted list of exchanges is the same.
-/

namespace TradingPlatform.Strategy

open Execution

section Lists

variable {α β : Type*}

/-- Among entries with distinct keys, those with the key of one entry are that entry. -/
theorem filter_key_eq_singleton [DecidableEq β] {key : α → β} {entries : List α}
    (hkeys : (entries.map key).Nodup) {entry : α} (hmem : entry ∈ entries) :
    entries.filter (fun other => key other = key entry) = [entry] := by
  induction entries with
  | nil => simp at hmem
  | cons head rest ih =>
      rw [List.map_cons, List.nodup_cons] at hkeys
      obtain ⟨hhead, hrest⟩ := hkeys
      rcases List.mem_cons.mp hmem with heq | htail
      · subst entry
        rw [List.filter_cons_of_pos (by simp), List.filter_eq_nil_iff.mpr]
        intro other hother heq
        apply hhead
        rw [← of_decide_eq_true heq]
        exact List.mem_map_of_mem hother
      · have hne : key head ≠ key entry := by
          intro heq
          apply hhead
          rw [heq]
          exact List.mem_map_of_mem htail
        rw [List.filter_cons_of_neg (by simpa using hne)]
        exact ih hrest htail

/-- One entry of a list with distinct keys is left out by its key. -/
theorem length_filter_key_ne [DecidableEq β] {key : α → β} {entries : List α}
    (hkeys : (entries.map key).Nodup) {entry : α} (hmem : entry ∈ entries) :
    (entries.filter fun other => key other ≠ key entry).length = entries.length - 1 := by
  have hsplit := List.length_eq_length_filter_add
    (l := entries) (fun other => decide (key other = key entry))
  rw [filter_key_eq_singleton hkeys hmem] at hsplit
  have hnot : (entries.filter fun other => !decide (key other = key entry)) =
      entries.filter fun other => key other ≠ key entry := by
    apply List.filter_congr
    intro other _
    simp
  rw [hnot, List.length_singleton] at hsplit
  omega

end Lists

section Pairs

variable {inputs : ArbitrageCandidateInputs}

/-- The inputs of an ordered pair of distinct candidates. -/
def IsPair (inputs : ArbitrageCandidateInputs) (pair : ArbitrageInputs) : Prop :=
  ∃ buy ∈ inputs.candidates, ∃ sell ∈ inputs.candidates,
    buy.name ≠ sell.name ∧ pair = pairInputs inputs buy sell

theorem mem_allPairInputs {pair : ArbitrageInputs} :
    pair ∈ allPairInputs inputs ↔ IsPair inputs pair := by
  simp only [allPairInputs, IsPair, List.mem_flatMap, List.mem_map, List.mem_filter,
    decide_eq_true_eq]
  constructor
  · rintro ⟨buy, hbuy, sell, ⟨hsell, hne⟩, rfl⟩
    exact ⟨buy, hbuy, sell, hsell, hne.symm, rfl⟩
  · rintro ⟨buy, hbuy, sell, hsell, hne, rfl⟩
    exact ⟨buy, hbuy, sell, ⟨hsell, hne.symm⟩, rfl⟩

/-- The two exchanges of a pair, in the order they trade. -/
def pairNames (pair : ArbitrageInputs) : String × String :=
  (pair.baseExchange, pair.hedgeExchange)

theorem length_allPairInputs (hnames : (inputs.candidates.map (·.name)).Nodup) :
    (allPairInputs inputs).length =
      inputs.candidates.length * (inputs.candidates.length - 1) := by
  have hrow : ∀ buy ∈ inputs.candidates,
      ((inputs.candidates.filter (·.name ≠ buy.name)).map (pairInputs inputs buy)).length =
        inputs.candidates.length - 1 := by
    intro buy hbuy
    rw [List.length_map]
    exact length_filter_key_ne hnames hbuy
  rw [allPairInputs, List.length_flatMap, List.map_congr_left hrow, List.map_const',
    List.sum_replicate]
  rfl

/-- No two of the evaluated pairs trade the same two exchanges in the same order. -/
theorem nodup_pairNames (hnames : (inputs.candidates.map (·.name)).Nodup) :
    ((allPairInputs inputs).map pairNames).Nodup := by
  rw [allPairInputs, List.map_flatMap, List.nodup_flatMap]
  constructor
  · intro buy _
    rw [List.map_map]
    have hsells : ((inputs.candidates.filter (·.name ≠ buy.name)).map (·.name)).Nodup :=
      (List.filter_sublist.map _).nodup hnames
    have hcomp : pairNames ∘ pairInputs inputs buy =
        Prod.mk buy.name ∘ CandidateExchange.name := by
      funext sell
      rfl
    rw [hcomp, ← List.map_map]
    exact hsells.map (Prod.mk_right_injective buy.name)
  · rw [List.Nodup, List.pairwise_map] at hnames
    apply hnames.imp
    intro buy other hne pair hbuy hother
    obtain ⟨one, hone, rfl⟩ := List.mem_map.mp hbuy
    obtain ⟨two, htwo, heq⟩ := List.mem_map.mp hother
    obtain ⟨_, _, rfl⟩ := List.mem_map.mp hone
    obtain ⟨_, _, rfl⟩ := List.mem_map.mp htwo
    exact hne (congrArg Prod.fst heq).symm

end Pairs

section Guarantees

variable (ctx : DecimalContext) (print : ℚ → Numeral) (inputs : ArbitrageCandidateInputs)

/-- A pair with its decision. -/
def evaluatedPair (pair : ArbitrageInputs) : ArbitrageInputs × ArbitrageDecision :=
  (pair, evaluateArbitrage ctx pair)

/-- The summaries a decision reports, one for each evaluated pair. -/
def ReportedDecision.evaluatedPairs (decision : ReportedDecision) : List Dict :=
  match decision.context.get "selection" with
  | .obj selection =>
      match Dict.get selection "evaluated_pairs" with
      | .arr summaries => dictItems summaries
      | _ => []
  | _ => []

/-- A summary marked as the outcome of the selection. -/
def IsMarked (summary : Dict) : Prop :=
  (summary.get "selection_status").textOrEmpty ∈ ["selected", "top_rejected"]

instance IsMarked.decidable (summary : Dict) : Decidable (IsMarked summary) :=
  inferInstanceAs (Decidable (_ ∈ _))

/-- A summary of the pair of two exchanges. -/
def IsSummaryOf (buy sell : CandidateExchange) (summary : Dict) : Prop :=
  (summary.get "buy_exchange").textOrEmpty = buy.name ∧
    (summary.get "sell_exchange").textOrEmpty = sell.name

instance IsSummaryOf.decidable (buy sell : CandidateExchange) (summary : Dict) :
    Decidable (IsSummaryOf buy sell summary) :=
  inferInstanceAs (Decidable (_ ∧ _))

/-- A pair competes when it is accepted, or when no pair is. -/
def Competes (pair : ArbitrageInputs) : Prop :=
  IsPair inputs pair ∧ ((evaluateArbitrage ctx pair).accepted = true ∨
    ∀ other, IsPair inputs other → (evaluateArbitrage ctx other).accepted = false)

/-- A decision over the candidates that comes from one pair. -/
structure Selects (decision : ReportedDecision) (pair : ArbitrageInputs) : Prop where
  isPair : IsPair inputs pair
  length_evaluatedPairs : decision.evaluatedPairs.length =
    inputs.candidates.length * (inputs.candidates.length - 1)
  evaluated_once : ∀ buy ∈ inputs.candidates, ∀ sell ∈ inputs.candidates, buy.name ≠ sell.name →
    ∃ status, decision.evaluatedPairs.filter (IsSummaryOf buy sell ·) =
      [candidateSummary print (evaluatedPair ctx (pairInputs inputs buy sell)) status]
  accepted_iff : decision.accepted = true ↔
    ∃ other, IsPair inputs other ∧ (evaluateArbitrage ctx other).accepted = true
  decides : ∃ context,
    decision = (reportDecision print (evaluateArbitrage ctx pair)).withContext context ∧
      ∀ key ∉ ["candidate_exchanges", "selected_pair", "selection"], context.get? key =
        (contextDict print (evaluateArbitrage ctx pair).decisionContext).get? key
  best : ∀ other, Competes ctx inputs other →
    pairRank (evaluatedPair ctx other) ≤ pairRank (evaluatedPair ctx pair)
  marked : decision.evaluatedPairs.filter (IsMarked ·) =
    [candidateSummary print (evaluatedPair ctx pair)
      (if decision.accepted then "selected" else "top_rejected")]

variable {ctx print inputs}

/-- What a decision reports is what the selection was made from. -/
theorem evaluatedPairs_selectionContext (decision : ReportedDecision) (context : Dict)
    (names : List String) (selected : ArbitrageInputs × ArbitrageDecision)
    (hasSelectedPair : Bool) (evaluated : List (ArbitrageInputs × ArbitrageDecision)) :
    (decision.withContext
      (selectionContext print context names selected hasSelectedPair evaluated)).evaluatedPairs =
      evaluated.map fun entry =>
        candidateSummary print entry (selectionStatus selected hasSelectedPair entry) := by
  have hitems : ∀ summaries : List Dict, dictItems (summaries.map Json.obj) = summaries := by
    intro summaries
    induction summaries with
    | nil => rfl
    | cons summary rest ih =>
        rw [List.map_cons]
        exact congrArg (summary :: ·) ih
  unfold ReportedDecision.evaluatedPairs ReportedDecision.withContext selectionContext
  simp only [Dict.merge_cons, Dict.merge_nil, Dict.get_set_self]
  exact hitems _

/-- The marked summaries are those of the selected pair. -/
theorem isMarked_iff (selected entry : ArbitrageInputs × ArbitrageDecision)
    (hasSelectedPair : Bool) :
    IsMarked (candidateSummary print entry (selectionStatus selected hasSelectedPair entry)) ↔
      entry.2.decisionContext.quotePairId = selected.2.decisionContext.quotePairId ∧
        entry.1 = selected.1 := by
  have hstatus : ((candidateSummary print entry
      (selectionStatus selected hasSelectedPair entry)).get "selection_status").textOrEmpty =
        selectionStatus selected hasSelectedPair entry := by
    simp [candidateSummary, Dict.get, Dict.get?_cons]
  rw [IsMarked, hstatus, selectionStatus]
  split
  next hsame => cases hasSelectedPair <;> simp [hsame]
  next hother => split <;> simp [hother]

theorem isSummaryOf_iff (buy sell : CandidateExchange)
    (entry : ArbitrageInputs × ArbitrageDecision) (status : String) :
    IsSummaryOf buy sell (candidateSummary print entry status) ↔
      pairNames entry.1 = (buy.name, sell.name) := by
  simp [IsSummaryOf, candidateSummary, pairNames, Dict.get, Dict.get?_cons]

/-- The evaluated pairs the selection picks from. -/
def selectionPool (ctx : DecimalContext) (inputs : ArbitrageCandidateInputs) :
    List (ArbitrageInputs × ArbitrageDecision) :=
  let evaluated := (allPairInputs inputs).map (evaluatedPair ctx)
  let accepted := evaluated.filter (·.2.accepted)
  if accepted.isEmpty then evaluated else accepted

theorem mem_selectionPool {entry : ArbitrageInputs × ArbitrageDecision} :
    entry ∈ selectionPool ctx inputs ↔
      ∃ pair, Competes ctx inputs pair ∧ entry = evaluatedPair ctx pair := by
  have hmem : ∀ other, IsPair inputs other →
      evaluatedPair ctx other ∈ (allPairInputs inputs).map (evaluatedPair ctx) :=
    fun other hother => List.mem_map_of_mem (mem_allPairInputs.mpr hother)
  unfold selectionPool
  dsimp only
  split
  next hnone =>
    -- Nothing is accepted: every evaluated pair competes.
    rw [List.isEmpty_iff, List.filter_eq_nil_iff] at hnone
    have hrejected : ∀ other, IsPair inputs other →
        (evaluateArbitrage ctx other).accepted = false :=
      fun other hother => Bool.eq_false_iff.mpr (hnone _ (hmem other hother))
    constructor
    · intro hentry
      obtain ⟨pair, hpair, rfl⟩ := List.mem_map.mp hentry
      exact ⟨pair, ⟨mem_allPairInputs.mp hpair, Or.inr hrejected⟩, rfl⟩
    · rintro ⟨pair, hcompetes, rfl⟩
      exact hmem pair hcompetes.1
  next hsome =>
    constructor
    · intro hentry
      obtain ⟨hentry, haccepted⟩ := List.mem_filter.mp hentry
      obtain ⟨pair, hpair, rfl⟩ := List.mem_map.mp hentry
      exact ⟨pair, ⟨mem_allPairInputs.mp hpair, Or.inl haccepted⟩, rfl⟩
    · rintro ⟨pair, ⟨hpair, haccepted | hrejected⟩, rfl⟩
      · exact List.mem_filter.mpr ⟨hmem pair hpair, haccepted⟩
      · apply absurd _ hsome
        rw [List.isEmpty_iff, List.filter_eq_nil_iff]
        intro entry hentry
        obtain ⟨other, hother, rfl⟩ := List.mem_map.mp hentry
        exact Bool.eq_false_iff.mp (hrejected other (mem_allPairInputs.mp hother))

/-- Two exchanges make a pair. -/
theorem exists_isPair (hsize : 2 ≤ inputs.candidates.length)
    (hnames : (inputs.candidates.map (·.name)).Nodup) : ∃ pair, IsPair inputs pair := by
  have hlength := length_allPairInputs hnames
  have hpos : 0 < (allPairInputs inputs).length := by
    rw [hlength]
    exact Nat.mul_pos (by omega) (by omega)
  obtain ⟨pair, hpair⟩ := List.exists_mem_of_length_pos hpos
  exact ⟨pair, mem_allPairInputs.mp hpair⟩

theorem exists_competes (hpair : ∃ pair, IsPair inputs pair) :
    ∃ pair, Competes ctx inputs pair := by
  by_cases hsome : ∃ pair, IsPair inputs pair ∧ (evaluateArbitrage ctx pair).accepted = true
  · obtain ⟨pair, hpair, haccepted⟩ := hsome
    exact ⟨pair, hpair, Or.inl haccepted⟩
  · obtain ⟨pair, hpair⟩ := hpair
    refine ⟨pair, hpair, Or.inr fun other hother => ?_⟩
    apply Bool.eq_false_iff.mpr
    intro haccepted
    exact hsome ⟨other, hother, haccepted⟩

/-- The pool has a first entry of the largest rank. -/
theorem exists_argmax (hpair : ∃ pair, IsPair inputs pair) :
    ∃ pair, Competes ctx inputs pair ∧
      (selectionPool ctx inputs).argmax pairRank = some (evaluatedPair ctx pair) := by
  obtain ⟨one, hone⟩ := @exists_competes ctx _ hpair
  cases hargmax : (selectionPool ctx inputs).argmax pairRank with
  | none =>
      rw [List.argmax_eq_none] at hargmax
      have hmem := mem_selectionPool.mpr ⟨one, hone, rfl⟩
      rw [hargmax] at hmem
      simp at hmem
  | some selected =>
      obtain ⟨pair, hcompetes, rfl⟩ := mem_selectionPool.mp (List.argmax_mem hargmax)
      exact ⟨pair, hcompetes, rfl⟩

/-- A pair that competes is accepted exactly when some pair is. -/
theorem Competes.accepted_iff {pair : ArbitrageInputs} (hcompetes : Competes ctx inputs pair) :
    (evaluateArbitrage ctx pair).accepted = true ↔
      ∃ other, IsPair inputs other ∧ (evaluateArbitrage ctx other).accepted = true := by
  constructor
  · intro haccepted
    exact ⟨pair, hcompetes.1, haccepted⟩
  · intro hsome
    obtain ⟨other, hother, haccepted⟩ := hsome
    rcases hcompetes.2 with hpair | hrejected
    · exact hpair
    · rw [hrejected other hother] at haccepted
      exact absurd haccepted Bool.false_ne_true

theorem Competes.accepted_eq {pair : ArbitrageInputs} (hcompetes : Competes ctx inputs pair) :
    (!(((allPairInputs inputs).map (evaluatedPair ctx)).filter (·.2.accepted)).isEmpty) =
      (evaluateArbitrage ctx pair).accepted := by
  rw [Bool.eq_iff_iff, hcompetes.accepted_iff, Bool.not_eq_true', List.isEmpty_eq_false_iff]
  constructor
  · intro hsome
    obtain ⟨entry, hentry⟩ := List.exists_mem_of_ne_nil _ hsome
    obtain ⟨hentry, haccepted⟩ := List.mem_filter.mp hentry
    obtain ⟨other, hother, rfl⟩ := List.mem_map.mp hentry
    exact ⟨other, mem_allPairInputs.mp hother, haccepted⟩
  · intro hsome
    obtain ⟨other, hother, haccepted⟩ := hsome
    refine List.ne_nil_of_mem (a := evaluatedPair ctx other)
      (List.mem_filter.mpr ⟨?_, haccepted⟩)
    exact List.mem_map_of_mem (mem_allPairInputs.mpr hother)

/-- The decision that the selection of one pair gives. -/
def selectedDecision (ctx : DecimalContext) (print : ℚ → Numeral)
    (inputs : ArbitrageCandidateInputs) (pair : ArbitrageInputs) : ReportedDecision :=
  let reported := reportDecision print (evaluateArbitrage ctx pair)
  reported.withContext (selectionContext print reported.context
    (inputs.candidates.map (·.name)) (evaluatedPair ctx pair)
    (evaluateArbitrage ctx pair).accepted ((allPairInputs inputs).map (evaluatedPair ctx)))

theorem evaluateArbitrageCandidateSet_eq (hsize : 2 ≤ inputs.candidates.length)
    {pair : ArbitrageInputs} (hcompetes : Competes ctx inputs pair)
    (hargmax : (selectionPool ctx inputs).argmax pairRank = some (evaluatedPair ctx pair)) :
    evaluateArbitrageCandidateSet ctx print inputs =
      .ok (selectedDecision ctx print inputs pair) := by
  unfold evaluateArbitrageCandidateSet
  rw [if_neg (by omega)]
  unfold selectionPool at hargmax
  dsimp only at hargmax ⊢
  unfold evaluatedPair at hargmax
  rw [hargmax]
  dsimp only
  have haccepted := hcompetes.accepted_eq
  unfold evaluatedPair at haccepted
  rw [haccepted]
  rfl

/-- What the decision of a competing pair of largest rank guarantees. -/
theorem selects_selectedDecision (hnames : (inputs.candidates.map (·.name)).Nodup)
    {pair : ArbitrageInputs} (hcompetes : Competes ctx inputs pair)
    (hbest : ∀ other, Competes ctx inputs other →
      pairRank (evaluatedPair ctx other) ≤ pairRank (evaluatedPair ctx pair)) :
    Selects ctx print inputs (selectedDecision ctx print inputs pair) pair := by
  have hreported : (selectedDecision ctx print inputs pair).evaluatedPairs =
      ((allPairInputs inputs).map (evaluatedPair ctx)).map fun entry =>
        candidateSummary print entry (selectionStatus (evaluatedPair ctx pair)
          (evaluateArbitrage ctx pair).accepted entry) :=
    evaluatedPairs_selectionContext _ _ _ _ _ _
  -- the names tell the pairs apart, so a filter by names finds one summary
  have hkeys : (((allPairInputs inputs).map (evaluatedPair ctx)).map
      (pairNames ∘ Prod.fst)).Nodup := by
    rw [List.map_map]
    exact nodup_pairNames hnames
  have hpair : evaluatedPair ctx pair ∈ (allPairInputs inputs).map (evaluatedPair ctx) :=
    List.mem_map_of_mem (mem_allPairInputs.mpr hcompetes.1)
  refine ⟨hcompetes.1, ?_, ?_, hcompetes.accepted_iff, ?_, hbest, ?_⟩
  · rw [hreported, List.length_map, List.length_map, length_allPairInputs hnames]
  · intro buy hbuy sell hsell hne
    have hmem : evaluatedPair ctx (pairInputs inputs buy sell) ∈
        (allPairInputs inputs).map (evaluatedPair ctx) :=
      List.mem_map_of_mem (mem_allPairInputs.mpr ⟨buy, hbuy, sell, hsell, hne, rfl⟩)
    refine ⟨selectionStatus (evaluatedPair ctx pair) (evaluateArbitrage ctx pair).accepted
      (evaluatedPair ctx (pairInputs inputs buy sell)), ?_⟩
    rw [hreported, List.filter_map]
    have hfilter := filter_key_eq_singleton hkeys hmem
    have hcongr : ((allPairInputs inputs).map (evaluatedPair ctx)).filter
        ((fun summary => decide (IsSummaryOf buy sell summary)) ∘ fun entry =>
          candidateSummary print entry (selectionStatus (evaluatedPair ctx pair)
            (evaluateArbitrage ctx pair).accepted entry)) =
        [evaluatedPair ctx (pairInputs inputs buy sell)] := by
      rw [← hfilter]
      apply List.filter_congr
      intro entry _
      exact decide_eq_decide.mpr (isSummaryOf_iff buy sell entry _)
    rw [hcongr, List.map_singleton]
  · refine ⟨_, rfl, ?_⟩
    intro key hkey
    exact Dict.get?_merge_of_notMem _ _ hkey
  · rw [hreported, List.filter_map]
    have hfilter := filter_key_eq_singleton hkeys hpair
    have hcongr : ((allPairInputs inputs).map (evaluatedPair ctx)).filter
        ((fun summary => decide (IsMarked summary)) ∘ fun entry =>
          candidateSummary print entry (selectionStatus (evaluatedPair ctx pair)
            (evaluateArbitrage ctx pair).accepted entry)) = [evaluatedPair ctx pair] := by
      rw [← hfilter]
      apply List.filter_congr
      intro entry hentry
      refine decide_eq_decide.mpr ((isMarked_iff _ entry _).trans ⟨?_, ?_⟩)
      · intro hsame
        exact congrArg pairNames hsame.2
      · intro hsame
        have heq := List.inj_on_of_nodup_map hkeys hentry hpair hsame
        subst entry
        exact ⟨rfl, rfl⟩
    rw [hcongr, List.map_singleton, selectionStatus, if_pos ⟨rfl, rfl⟩]
    rfl

/-- The pairs of a list of candidates do not depend on its order. -/
theorem isPair_perm {candidates : List CandidateExchange}
    (hperm : candidates.Perm inputs.candidates) {pair : ArbitrageInputs} :
    IsPair { inputs with candidates := candidates } pair ↔ IsPair inputs pair := by
  unfold IsPair
  simp only [hperm.mem_iff]
  rfl

theorem competes_perm {candidates : List CandidateExchange}
    (hperm : candidates.Perm inputs.candidates) {pair : ArbitrageInputs} :
    Competes ctx { inputs with candidates := candidates } pair ↔ Competes ctx inputs pair := by
  unfold Competes
  simp only [isPair_perm hperm]

theorem Selects.competes {decision : ReportedDecision} {pair : ArbitrageInputs}
    (hselects : Selects ctx print inputs decision pair) : Competes ctx inputs pair := by
  refine ⟨hselects.isPair, ?_⟩
  obtain ⟨context, hdecision, _⟩ := hselects.decides
  by_cases hsome : ∃ other, IsPair inputs other ∧ (evaluateArbitrage ctx other).accepted = true
  · left
    have haccepted := hselects.accepted_iff.mpr hsome
    rw [hdecision] at haccepted
    exact haccepted
  · right
    intro other hother
    apply Bool.eq_false_iff.mpr
    intro haccepted
    exact hsome ⟨other, hother, haccepted⟩

end Guarantees

/-- The candidate set evaluation selects a best pair, whatever the order of the
candidates. -/
theorem evaluateArbitrageCandidateSet_selects (ctx : DecimalContext) (print : ℚ → Numeral)
    (inputs : ArbitrageCandidateInputs) (hsize : 2 ≤ inputs.candidates.length)
    (hnames : (inputs.candidates.map (·.name)).Nodup) :
    ∃ decision pair,
      evaluateArbitrageCandidateSet ctx print inputs = .ok decision ∧
      Selects ctx print inputs decision pair ∧
      ∀ candidates, candidates.Perm inputs.candidates → ∀ decision' pair',
        evaluateArbitrageCandidateSet ctx print { inputs with candidates := candidates } =
          .ok decision' →
        Selects ctx print { inputs with candidates := candidates } decision' pair' →
        decision'.accepted = decision.accepted ∧
        pairRank (evaluatedPair ctx pair') = pairRank (evaluatedPair ctx pair) ∧
        ((∀ one other, IsPair inputs one → IsPair inputs other →
          pairRank (evaluatedPair ctx one) = pairRank (evaluatedPair ctx other) → one = other) →
          pair' = pair) := by
  obtain ⟨pair, hcompetes, hargmax⟩ := @exists_argmax ctx _ (exists_isPair hsize hnames)
  have hbest : ∀ other, Competes ctx inputs other →
      pairRank (evaluatedPair ctx other) ≤ pairRank (evaluatedPair ctx pair) :=
    fun other hother =>
      List.le_of_mem_argmax (mem_selectionPool.mpr ⟨other, hother, rfl⟩) hargmax
  have hselects := @selects_selectedDecision ctx print inputs hnames pair hcompetes hbest
  refine ⟨_, pair, evaluateArbitrageCandidateSet_eq hsize hcompetes hargmax, hselects, ?_⟩
  intro candidates hperm decision' pair' _ hselects'
  have hrank : pairRank (evaluatedPair ctx pair') = pairRank (evaluatedPair ctx pair) := by
    apply le_antisymm
    · exact hselects.best pair' ((competes_perm hperm).mp hselects'.competes)
    · exact hselects'.best pair ((competes_perm hperm).mpr hselects.competes)
  refine ⟨?_, hrank, ?_⟩
  · rw [Bool.eq_iff_iff, hselects'.accepted_iff, hselects.accepted_iff]
    simp only [isPair_perm hperm]
  · intro hdistinct
    exact hdistinct pair' pair ((isPair_perm hperm).mp hselects'.isPair) hselects.isPair hrank

/-- Print a number without its fraction. -/
def printWhole (number : ℚ) : Numeral :=
  (Numeral.ofText? (toString number.floor)).getD Numeral.one

/-- Between two exchanges with crossed books the accepted direction is selected. -/
theorem evaluateArbitrageCandidateSet_selects_crossedBooks :
    ∃ decision pair,
      evaluateArbitrageCandidateSet .exact printWhole (pairCandidates crossedBooks) =
        .ok decision ∧
      Selects .exact printWhole (pairCandidates crossedBooks) decision pair ∧
      decision.accepted = true := by
  obtain ⟨decision, pair, hdecision, hselects, _⟩ :=
    evaluateArbitrageCandidateSet_selects .exact printWhole (pairCandidates crossedBooks)
      (by decide) (by decide)
  refine ⟨decision, pair, hdecision, hselects, hselects.accepted_iff.mpr ⟨crossedBooks, ?_, ?_⟩⟩
  · exact ⟨_, List.mem_cons_self, _, List.mem_cons_of_mem _ List.mem_cons_self, by decide, rfl⟩
  · decide +kernel

end TradingPlatform.Strategy

import TradingPlatform.Strategy.DistinctExchanges

/-! # What a decision is about

A decision names the market and the quote pair of its inputs, in its context and
in its plan. An accepted decision among candidates names its selected pair too.
-/

namespace TradingPlatform.Strategy

section Pairs

variable {ctx : DecimalContext} {print : ℚ → Numeral}

/-- The quote pair of two exchanges and a market. -/
def quotePairName (baseExchange hedgeExchange market : String) : String :=
  baseExchange ++ ":" ++ market ++ "|" ++ hedgeExchange ++ ":" ++ market

/-- A quote pair is not blank. -/
theorem strip_quotePairName_ne (baseExchange hedgeExchange market : String) :
    Text.strip (quotePairName baseExchange hedgeExchange market) ≠ "" := by
  intro hblank
  have hmem : '|' ∈ (quotePairName baseExchange hedgeExchange market).toList := by
    simp [quotePairName, String.toList_append]
  have hchars : Text.stripChars (quotePairName baseExchange hedgeExchange market).toList = [] := by
    simpa [Text.strip] using congrArg String.toList hblank
  have hall : ∀ c ∈ (quotePairName baseExchange hedgeExchange market).toList,
      Text.isSpace c = true := by
    intro c hc
    rw [← List.takeWhile_append_dropWhile (p := Text.isSpace)
      (l := (quotePairName baseExchange hedgeExchange market).toList)] at hc
    rcases List.mem_append.mp hc with hfront | hrest
    · exact List.mem_takeWhile_imp hfront
    · exact List.rdropWhile_eq_nil_iff.mp hchars c hrest
  exact absurd (hall '|' hmem) (by decide)

/-- A decision that is about a market and a quote pair. -/
structure NamesPair (decision : ReportedDecision) (market quotePair : String) : Prop where
  context : decision.context.get "quote_pair_id" = .str quotePair
  plan : ∀ plan ∈ decision.plan, plan.market = market ∧
    plan.decisionContext.get "quote_pair_id" = .str quotePair

theorem NamesPair.withContext {decision : ReportedDecision} {market quotePair : String}
    (hnames : NamesPair decision market quotePair) {context : Dict}
    (hcontext : context.get "quote_pair_id" = .str quotePair) :
    NamesPair (decision.withContext context) market quotePair := by
  refine ⟨hcontext, fun plan hplan => ?_⟩
  obtain ⟨planned, hplanned, rfl⟩ := Option.map_eq_some_iff.mp hplan
  exact ⟨(hnames.plan planned hplanned).1, hcontext⟩

theorem get_quotePairId_contextDict (context : DecisionContext) :
    (contextDict print context).get "quote_pair_id" = .str context.quotePairId := by
  simp [contextDict, Dict.get, Dict.get?_cons]

/-- A plan and the context of a decision are about the pair that was evaluated. -/
theorem evaluateArbitrage_quotePair (inputs : ArbitrageInputs) :
    (evaluateArbitrage ctx inputs).decisionContext.quotePairId =
        quotePairName inputs.baseExchange inputs.hedgeExchange inputs.market ∧
      ∀ plan ∈ (evaluateArbitrage ctx inputs).orderIntentPlan, plan.market = inputs.market ∧
        plan.decisionContext.quotePairId =
          quotePairName inputs.baseExchange inputs.hedgeExchange inputs.market := by
  unfold evaluateArbitrage
  obtain ⟨checks, gateReason⟩ := validateGateConditions inputs
  have hreject : ∀ reason checks size edge reservation,
      (buildRejectDecision inputs reason checks size edge reservation).decisionContext.quotePairId =
          quotePairName inputs.baseExchange inputs.hedgeExchange inputs.market ∧
        ∀ plan ∈ (buildRejectDecision inputs reason checks size edge reservation).orderIntentPlan,
          plan.market = inputs.market ∧ plan.decisionContext.quotePairId =
            quotePairName inputs.baseExchange inputs.hedgeExchange inputs.market := by
    intro reason checks size edge reservation
    exact ⟨rfl, by simp [buildRejectDecision]⟩
  cases gateReason with
  | some reason => exact hreject _ _ _ _ _
  | none =>
      dsimp only
      split_ifs
      · exact hreject _ _ _ _ _
      · exact hreject _ _ _ _ _
      · split
        · exact hreject _ _ _ _ _
        · split_ifs
          · exact hreject _ _ _ _ _
          · exact hreject _ _ _ _ _
          · exact hreject _ _ _ _ _
          · exact hreject _ _ _ _ _
          · refine ⟨rfl, fun plan hplan => ?_⟩
            obtain rfl := Option.some.inj hplan
            exact ⟨rfl, rfl⟩
          · exact hreject _ _ _ _ _

theorem reportDecision_namesPair (inputs : ArbitrageInputs) :
    NamesPair (reportDecision print (evaluateArbitrage ctx inputs)) inputs.market
      (quotePairName inputs.baseExchange inputs.hedgeExchange inputs.market) := by
  obtain ⟨hcontext, hplan⟩ := @evaluateArbitrage_quotePair ctx inputs
  refine ⟨?_, fun plan hmem => ?_⟩
  · exact (get_quotePairId_contextDict _).trans (congrArg Json.str hcontext)
  · obtain ⟨planned, hplanned, rfl⟩ := Option.map_eq_some_iff.mp hmem
    obtain ⟨hmarket, hquotePair⟩ := hplan planned hplanned
    exact ⟨hmarket, (get_quotePairId_contextDict _).trans (congrArg Json.str hquotePair)⟩

end Pairs

section Candidates

variable {ctx : DecimalContext} {print : ℚ → Numeral} {inputs : ArbitrageCandidateInputs}

/-- The selection context keeps the quote pair of the selected decision. -/
theorem get_quotePairId_selectionContext {context : Dict} {names : List String}
    {selected : ArbitrageInputs × ArbitrageDecision} {hasSelectedPair : Bool}
    {evaluated : List (ArbitrageInputs × ArbitrageDecision)} :
    (selectionContext print context names selected hasSelectedPair evaluated).get "quote_pair_id" =
      context.get "quote_pair_id" :=
  Dict.get_merge_of_notMem _ _ (by simp)

/-- Where a pair was selected, the context names a selected pair of the market. -/
theorem exists_selectedPair {context : Dict} {names : List String}
    {selected : ArbitrageInputs × ArbitrageDecision}
    {evaluated : List (ArbitrageInputs × ArbitrageDecision)} (hmem : selected ∈ evaluated)
    {market : String} (hmarket : ∀ entry ∈ evaluated, entry.1.market = market) :
    ∃ summary : Dict,
      (selectionContext print context names selected true evaluated).get "selected_pair" =
      .obj summary ∧ summary.get "market" = .str market := by
  let summarize (entry : ArbitrageInputs × ArbitrageDecision) : Dict :=
    candidateSummary print entry (selectionStatus selected true entry)
  let marked := (evaluated.map summarize).filter fun summary =>
    (summary.get "selection_status").textOrEmpty = "selected"
  have hselected : summarize selected ∈ marked := by
    refine List.mem_filter.mpr ⟨List.mem_map_of_mem hmem, ?_⟩
    simp [summarize, candidateSummary, selectionStatus, Dict.get, Dict.get?_cons]
  obtain ⟨summary, hlast⟩ := Option.ne_none_iff_exists'.mp
    (mt List.getLast?_eq_none_iff.mp (List.ne_nil_of_mem hselected))
  refine ⟨summary, ?_, ?_⟩
  · have hpair :
        (selectionContext print context names selected true evaluated).get "selected_pair" =
        (marked.getLast?.map Json.obj).getD .null := by
      unfold selectionContext
      exact Dict.get_merge_of_mem (by simp) (by simp [marked, summarize])
    rw [hpair, hlast]
    rfl
  · obtain ⟨entry, hentry, rfl⟩ :=
      List.mem_map.mp (List.mem_of_mem_filter (List.mem_of_getLast? hlast))
    simp [summarize, candidateSummary, Dict.get, Dict.get?_cons, hmarket entry hentry]

/-- An accepted decision among candidates is about their market and a quote pair, and names
a selected pair of the market. -/
theorem evaluateArbitrageCandidateSet_namesPair {decision : ReportedDecision}
    (hdecision : evaluateArbitrageCandidateSet ctx print inputs = .ok decision)
    (haccepted : decision.accepted = true) :
    (∃ baseExchange hedgeExchange, NamesPair decision inputs.market
        (quotePairName baseExchange hedgeExchange inputs.market)) ∧
      ∃ summary : Dict, decision.context.get "selected_pair" = .obj summary ∧
        summary.get "market" = .str inputs.market := by
  unfold evaluateArbitrageCandidateSet at hdecision
  split_ifs at hdecision
  dsimp only at hdecision
  split at hdecision
  · cases hdecision
  next selected hselected =>
    obtain rfl := Except.ok.inj hdecision
    set evaluated := (allPairInputs inputs).map fun pair => (pair, evaluateArbitrage ctx pair)
      with hevaluated
    have hpool : selected ∈ evaluated := by
      have hmem := List.argmax_mem hselected
      split_ifs at hmem
      · exact hmem
      · exact List.mem_of_mem_filter hmem
    have hmarket : ∀ entry ∈ evaluated, entry.1.market = inputs.market := by
      intro entry hentry
      obtain ⟨pair, hpair, rfl⟩ := List.mem_map.mp hentry
      obtain ⟨buy, -, sell, -, -, rfl⟩ := mem_allPairInputs.mp hpair
      rfl
    have hsome : (evaluated.filter (·.2.accepted)).isEmpty = false := by
      have haccepts : selected.2.accepted = true := haccepted
      rw [Bool.eq_false_iff, ne_eq, List.isEmpty_iff]
      exact List.ne_nil_of_mem (List.mem_filter.mpr ⟨hpool, haccepts⟩)
    obtain ⟨pair, hpair, hpairSelected⟩ := List.mem_map.mp hpool
    have hpairMarket := hmarket selected hpool
    have hnames := @reportDecision_namesPair ctx print pair
    rw [← hpairSelected] at hpairMarket ⊢
    dsimp only at hpairMarket
    rw [hpairMarket] at hnames
    refine ⟨⟨pair.baseExchange, pair.hedgeExchange, hnames.withContext ?_⟩, ?_⟩
    · exact get_quotePairId_selectionContext.trans hnames.context
    · rw [hsome]
      exact exists_selectedPair (hpairSelected ▸ hpool) hmarket

end Candidates

end TradingPlatform.Strategy

import TradingPlatform.Foundation.TextCase
import TradingPlatform.Foundation.Raises
import TradingPlatform.Strategy.Selection

/-! # The two exchanges of a planned intent

An intent buys and sells where its pair of candidates does. Candidates that are
listed by name are listed trimmed and in lower case, each once, so the two
exchanges of a pair differ however their names were spelled.
-/

namespace TradingPlatform.Strategy

/-- The name of an exchange in the form it is compared in. -/
def foldedExchange (name : String) : String := Text.lower (Text.strip name)

/-- Two names that no spelling of one exchange has. -/
def ExchangesApart (buyExchange sellExchange : String) : Prop :=
  foldedExchange buyExchange ≠ foldedExchange sellExchange

instance ExchangesApart.decidable (buyExchange sellExchange : String) :
    Decidable (ExchangesApart buyExchange sellExchange) :=
  inferInstanceAs (Decidable (foldedExchange buyExchange ≠ foldedExchange sellExchange))

@[simp] theorem foldedExchange_foldedExchange (name : String) :
    foldedExchange (foldedExchange name) = foldedExchange name := by
  simp [foldedExchange, Text.strip_lower]

section Plans

variable {ctx : DecimalContext} {print : ℚ → Numeral}

/-- A plan buys at the base exchange of its pair and sells at the hedge exchange. -/
theorem evaluateArbitrage_exchanges {inputs : ArbitrageInputs} :
    ∀ plan ∈ (evaluateArbitrage ctx inputs).orderIntentPlan,
      plan.buyExchange = inputs.baseExchange ∧ plan.sellExchange = inputs.hedgeExchange := by
  unfold evaluateArbitrage
  obtain ⟨checks, gateReason⟩ := validateGateConditions inputs
  cases gateReason with
  | some reason => simp [buildRejectDecision]
  | none =>
      dsimp only
      split_ifs
      · simp [buildRejectDecision]
      · simp [buildRejectDecision]
      · split
        · simp [buildRejectDecision]
        · split_ifs <;> simp [buildRejectDecision, buildAcceptDecision, buildOrderIntentPlan]

/-- The decision among candidates plans for two of them. -/
theorem evaluateArbitrageCandidateSet_exchanges {inputs : ArbitrageCandidateInputs}
    {decision : ReportedDecision}
    (hdecision : evaluateArbitrageCandidateSet ctx print inputs = .ok decision) :
    ∀ plan ∈ decision.plan, ∃ buy ∈ inputs.candidates, ∃ sell ∈ inputs.candidates,
      buy.name ≠ sell.name ∧ plan.buyExchange = buy.name ∧ plan.sellExchange = sell.name := by
  unfold evaluateArbitrageCandidateSet at hdecision
  split_ifs at hdecision
  dsimp only at hdecision
  split at hdecision
  · cases hdecision
  next selected hselected =>
    intro plan hplan
    obtain rfl := Except.ok.inj hdecision
    have hpool : selected ∈ (allPairInputs inputs).map
        fun pair => (pair, evaluateArbitrage ctx pair) := by
      have hmem := List.argmax_mem hselected
      split_ifs at hmem
      · exact hmem
      · exact List.mem_of_mem_filter hmem
    obtain ⟨pair, hpair, rfl⟩ := List.mem_map.mp hpool
    obtain ⟨buy, hbuy, sell, hsell, hne, rfl⟩ := mem_allPairInputs.mp hpair
    simp only [ReportedDecision.withContext, reportDecision, Option.map_map, Option.mem_def,
      Option.map_eq_some_iff] at hplan
    obtain ⟨planned, hplanned, rfl⟩ := hplan
    obtain ⟨hbuyName, hsellName⟩ := evaluateArbitrage_exchanges planned hplanned
    exact ⟨buy, hbuy, sell, hsell, hne, hbuyName, hsellName⟩

end Plans

section Loading

theorem foldedExchange_of_mem_normalizedExchanges (exchanges : List Json) :
    ∀ name ∈ normalizedExchanges exchanges, foldedExchange name = name := by
  unfold normalizedExchanges
  induction exchanges using List.reverseRecOn with
  | nil => simp
  | append_singleton rest raw ih =>
      rw [List.foldl_append, List.foldl_cons, List.foldl_nil]
      intro name hname
      dsimp only at hname
      split_ifs at hname
      · exact ih name hname
      · rcases List.mem_append.mp hname with hold | hnew
        · exact ih name hold
        · rw [List.mem_singleton.mp hnew]
          exact foldedExchange_foldedExchange raw.toText

/-- A candidate has the name it is loaded by. -/
theorem loadCandidate_name {orderbooks balances : Dict} {exchange : String}
    {candidate : CandidateExchange}
    (hload : loadCandidate orderbooks balances exchange = .ok candidate) :
    candidate.name = exchange := by
  unfold loadCandidate at hload
  split at hload
  · obtain ⟨orderbook, -, hload⟩ := bind_eq_ok_iff.mp hload
    obtain ⟨balance, -, hload⟩ := bind_eq_ok_iff.mp hload
    rw [← Except.ok.inj hload]
  · cases hload
  · cases hload

/-- Candidates that are listed have folded names. -/
theorem foldedExchange_candidate {payload : Dict} {exchanges : List Json}
    {inputs : ArbitrageCandidateInputs}
    (hlist : payload.get "candidate_exchanges" = .arr exchanges)
    (hload : loadCandidateStrategyInputs payload = .ok inputs) :
    ∀ candidate ∈ inputs.candidates, foldedExchange candidate.name = candidate.name := by
  unfold loadCandidateStrategyInputs at hload
  obtain ⟨botId, -, hload⟩ := bind_eq_ok_iff.mp hload
  obtain ⟨strategyRunId, -, hload⟩ := bind_eq_ok_iff.mp hload
  obtain ⟨riskValue, -, hload⟩ := bind_eq_ok_iff.mp hload
  obtain ⟨risk, -, hload⟩ := bind_eq_ok_iff.mp hload
  obtain ⟨stateValue, -, hload⟩ := bind_eq_ok_iff.mp hload
  obtain ⟨state, -, hload⟩ := bind_eq_ok_iff.mp hload
  rw [hlist] at hload
  dsimp only at hload
  split at hload
  next =>
    split_ifs at hload
    obtain ⟨candidates, hcandidates, hload⟩ := bind_eq_ok_iff.mp hload
    obtain ⟨symbol, -, hload⟩ := bind_eq_ok_iff.mp hload
    obtain ⟨market, -, hload⟩ := bind_eq_ok_iff.mp hload
    obtain ⟨riskConfig, -, hload⟩ := bind_eq_ok_iff.mp hload
    obtain ⟨runtimeState, -, hload⟩ := bind_eq_ok_iff.mp hload
    obtain rfl := Except.ok.inj hload
    intro candidate hmem
    obtain ⟨name, hname, hloaded⟩ := exists_of_mem_mapM hcandidates hmem
    rw [loadCandidate_name hloaded]
    exact foldedExchange_of_mem_normalizedExchanges exchanges name hname
  next => cases hload

end Loading

end TradingPlatform.Strategy

import TradingPlatform.Exchange.Connectors
import TradingPlatform.Foundation.Raises
import TradingPlatform.Strategy.InputLoader

/-! # Where the balances of an evaluation come from

Balances are read from the configuration or asked from the private connectors,
as the configuration and the mode of the run say. Only a connector can raise
here; everything else that is wrong is a reason to skip the run.
-/

namespace TradingPlatform.Strategy

open Exchange

/-- Why a run is skipped. -/
structure Skip where
  reason : String
  detail : String

structure BalanceSnapshots where
  byExchange : List (String × Dict)
  sourceByExchange : List (String × String)

/-- A connector's answer when it is asked for the balances. -/
abbrev BalanceReader := Except HostError PrivateExchangeResult

section Sources

def normalizedExchange (value : Json) : String := normalizedText value

def runtimeMode (runMode botMode : String) : String :=
  let run := Text.lower (Text.strip runMode)
  let bot := Text.lower (Text.strip botMode)
  if run ≠ "" then run else if bot ≠ "" then bot else "dry_run"

def configuredBalanceSource (runtimeSpec : Dict) (mode : String) : String :=
  let configured := normalizedText (runtimeSpec.get "balance_source")
  if configured ≠ "" then configured
  else if mode = "live" then "private_exchange" else "runtime_config"

def balancePayload (exchangeName baseAsset quoteAsset : String)
    (availableBase availableQuote : Json)
    (observedAt : String) (isFresh : Bool) (sourceType : String) : Dict :=
  [("exchange_name", .str exchangeName), ("base_asset", .str baseAsset),
    ("quote_asset", .str quoteAsset), ("available_base", .str availableBase.toText),
    ("available_quote", .str availableQuote.toText), ("observed_at", .str observedAt),
    ("is_fresh", .bool isFresh), ("source_type", .str sourceType)]

def objectOf : Json → Option Dict
  | .obj fields => some fields
  | _ => none

/-- The balances the configuration gives for each exchange. -/
def configBalanceSpecs (runtimeSpec : Dict) (candidateExchanges : List String) :
    Except String (List (String × Dict)) :=
  match runtimeSpec.get "exchange_balances" with
  | .obj raw =>
      let given (exchange : String) := objectOf ((normalizedKeys raw).get exchange)
      match candidateExchanges.filter fun exchange => (given exchange).isNone with
      | [] => .ok (candidateExchanges.map fun exchange => (exchange, (given exchange).getD []))
      | missing => .error ("missing exchange_balances for: " ++ Text.join ", " missing)
  | _ =>
      let baseExchange := normalizedExchange (runtimeSpec.get "base_exchange")
      let hedgeExchange := normalizedExchange (runtimeSpec.get "hedge_exchange")
      if baseExchange = "" ∨ hedgeExchange = "" then
        .error "base_exchange and hedge_exchange are required when exchange_balances is absent"
      else
        match objectOf (runtimeSpec.get "base_balance"),
          objectOf (runtimeSpec.get "hedge_balance") with
        | some base, some hedge =>
            -- One exchange on both sides keeps the balances of the hedge.
            let specs := if baseExchange = hedgeExchange then [(hedgeExchange, hedge)]
              else [(baseExchange, base), (hedgeExchange, hedge)]
            match candidateExchanges.filter fun exchange => (specs.lookup exchange).isNone with
            | [] => .ok specs
            | missing =>
                .error ("missing exchange-specific balances for: " ++ Text.join ", " missing)
        | _, _ => .error "base_balance and hedge_balance must be objects"

def configBalanceSnapshot (baseAsset quoteAsset isoNow : String) (spec : String × Dict) :
    Except String Dict :=
  let (exchange, payload) := spec
  match payload.get "available_base", payload.get "available_quote" with
  | .null, _ | _, .null =>
      .error ("balance payload must include available_base and available_quote: " ++ exchange)
  | availableBase, availableQuote =>
      let observedAt := (payload.get "observed_at").textOrEmpty
      .ok (balancePayload exchange baseAsset quoteAsset availableBase availableQuote
        (if observedAt = "" then isoNow else observedAt)
        (optionalField payload "is_fresh" (.bool true)).truthy "runtime_config")

def loadRuntimeConfigBalanceSnapshots (runtimeSpec : Dict) (candidateExchanges : List String)
    (baseAsset quoteAsset isoNow : String) : Except Skip BalanceSnapshots :=
  let loaded : Except String BalanceSnapshots := do
    let specs ← configBalanceSpecs runtimeSpec candidateExchanges
    let snapshots ← specs.mapM (configBalanceSnapshot baseAsset quoteAsset isoNow)
    return ⟨(specs.map Prod.fst).zip snapshots, specs.map fun spec => (spec.1, "runtime_config")⟩
  match loaded with
  | .ok snapshots => .ok snapshots
  | .error detail => .error ⟨"RUNTIME_INPUTS_INVALID", detail⟩

/-- The items of an account, each currency at its first item. -/
def indexBalanceItems (items : List Json) : List (String × Dict) :=
  items.foldl (fun indexed item =>
    match item with
    | .obj fields =>
        let currency := Text.upper (Text.strip (Dict.get fields "currency").textOrEmpty)
        if currency = "" ∨ (indexed.lookup currency).isSome then indexed
        else indexed ++ [(currency, fields)]
    | _ => indexed) []

/-- What the answer of one connector gives for an exchange. -/
def privateBalanceSnapshot (baseAsset quoteAsset isoNow exchange : String)
    (result : PrivateExchangeResult) : Except Skip Dict :=
  if result.outcome ≠ "ok" then
    let filled (text : Option String) : Option String := text.filter (· ≠ "")
    let errorCode := ((filled result.errorCode).or (filled (some result.outcome))).getD "unknown"
    let reason := (filled result.reason).getD "private balance fetch failed"
    .error ⟨"BALANCE_SNAPSHOT_UNAVAILABLE",
      exchange ++ " get_balances failed: " ++ errorCode ++ ": " ++ reason⟩
  else
    match ((objectOf result.data).getD []).get "items" with
    | .arr items =>
        let indexed := indexBalanceItems items
        let available (asset : String) : Json :=
          optionalField ((indexed.lookup (Text.upper (Text.strip asset))).getD []) "available"
            (.str "0")
        .ok (balancePayload exchange baseAsset quoteAsset (available baseAsset)
          (available quoteAsset) isoNow true "private_exchange")
    | _ => .error ⟨"BALANCE_SNAPSHOT_UNAVAILABLE",
        exchange ++ " get_balances returned invalid payload"⟩

/-- Ask the connectors one after the other; the first that fails ends it. -/
def privateBalances (connectors : List (String × BalanceReader))
    (baseAsset quoteAsset isoNow : String) :
    List String → Except HostError (Except Skip (List (String × Dict)))
  | [] => .ok (.ok [])
  | exchange :: rest =>
      match connectors.lookup exchange with
      | none => .ok (.error ⟨"BALANCE_SNAPSHOT_UNAVAILABLE",
          "private balance connector not configured for: " ++ exchange⟩)
      | some reader => do
          match privateBalanceSnapshot baseAsset quoteAsset isoNow exchange (← reader) with
          | .error skip => return .error skip
          | .ok snapshot =>
              let later ← privateBalances connectors baseAsset quoteAsset isoNow rest
              return later.map ((exchange, snapshot) :: ·)

def loadPrivateExchangeBalanceSnapshots (connectors : Option (List (String × BalanceReader)))
    (candidateExchanges : List String) (baseAsset quoteAsset isoNow : String) :
    Except HostError (Except Skip BalanceSnapshots) :=
  match connectors with
  | none => .ok (.error ⟨"BALANCE_SNAPSHOT_UNAVAILABLE",
      "private_exchange_connectors are required for private_exchange balance source"⟩)
  | some connectors => do
      let loaded ← privateBalances connectors baseAsset quoteAsset isoNow candidateExchanges
      return loaded.map fun byExchange =>
        ⟨byExchange, candidateExchanges.map fun exchange => (exchange, "private_exchange")⟩

def loadBalanceSnapshots (runtimeSpec : Dict) (candidateExchanges : List String)
    (baseAsset quoteAsset runMode botMode isoNow : String)
    (connectors : Option (List (String × BalanceReader))) :
    Except HostError (Except Skip BalanceSnapshots) :=
  let mode := runtimeMode runMode botMode
  let source := configuredBalanceSource runtimeSpec mode
  if mode = "live" ∧ source = "runtime_config" then
    .ok (.error ⟨"RUNTIME_INPUTS_INVALID",
      "balance_source=runtime_config is not allowed for live mode"⟩)
  else if source = "private_exchange" then
    loadPrivateExchangeBalanceSnapshots connectors candidateExchanges baseAsset quoteAsset isoNow
  else if source = "runtime_config" then
    .ok (loadRuntimeConfigBalanceSnapshots runtimeSpec candidateExchanges baseAsset quoteAsset
      isoNow)
  else .ok (.error ⟨"RUNTIME_INPUTS_INVALID", "unsupported balance_source: " ++ source⟩)

end Sources

section Raising

variable {connectors : List (String × BalanceReader)} {baseAsset quoteAsset isoNow : String}

/-- The connector of an exchange answers with balances that can be read. -/
def AnswersBalances (connectors : List (String × BalanceReader))
    (baseAsset quoteAsset isoNow exchange : String) : Prop :=
  ∃ result snapshot, connectors.lookup exchange = some (.ok result) ∧
    privateBalanceSnapshot baseAsset quoteAsset isoNow exchange result = .ok snapshot

/-- The first connector that does not answer with balances raises. -/
def BalancesRaise (connectors : List (String × BalanceReader))
    (baseAsset quoteAsset isoNow : String) (candidateExchanges : List String) : Prop :=
  ∃ before exchange after error, candidateExchanges = before ++ exchange :: after ∧
    (∀ earlier ∈ before, AnswersBalances connectors baseAsset quoteAsset isoNow earlier) ∧
    connectors.lookup exchange = some (.error error)

theorem balancesRaise_cons {exchange : String} {rest : List String} :
    BalancesRaise connectors baseAsset quoteAsset isoNow (exchange :: rest) ↔
      (∃ error, connectors.lookup exchange = some (.error error)) ∨
        AnswersBalances connectors baseAsset quoteAsset isoNow exchange ∧
          BalancesRaise connectors baseAsset quoteAsset isoNow rest := by
  constructor
  · rintro ⟨before, failing, after, error, hsplit, hbefore, hfailing⟩
    cases before with
    | nil =>
        obtain ⟨rfl, rfl⟩ := List.cons.inj hsplit
        exact Or.inl ⟨error, hfailing⟩
    | cons first before =>
        obtain ⟨rfl, rfl⟩ := List.cons.inj hsplit
        refine Or.inr ⟨hbefore exchange List.mem_cons_self, before, failing, after, error, rfl, ?_,
          hfailing⟩
        exact fun earlier hmem => hbefore earlier (List.mem_cons_of_mem _ hmem)
  · rintro (⟨error, hfailing⟩ | ⟨hanswers, before, failing, after, error, rfl, hbefore, hfailing⟩)
    · exact ⟨[], exchange, rest, error, rfl, nofun, hfailing⟩
    · refine ⟨exchange :: before, failing, after, error, rfl, ?_, hfailing⟩
      intro earlier hmem
      rcases List.mem_cons.mp hmem with rfl | hmem
      · exact hanswers
      · exact hbefore earlier hmem

theorem raises_privateBalances_iff {candidateExchanges : List String} :
    Raises (privateBalances connectors baseAsset quoteAsset isoNow candidateExchanges) ↔
      BalancesRaise connectors baseAsset quoteAsset isoNow candidateExchanges := by
  induction candidateExchanges with
  | nil =>
      refine iff_of_false (not_raises_ok _) ?_
      rintro ⟨before, exchange, after, error, hsplit, -⟩
      cases before <;> cases hsplit
  | cons exchange rest ih =>
      rw [balancesRaise_cons, privateBalances, AnswersBalances]
      cases hlookup : connectors.lookup exchange with
      | none => simp
      | some reader =>
          cases reader with
          | error error => exact iff_of_true ⟨error, rfl⟩ (Or.inl ⟨error, rfl⟩)
          | ok result =>
              dsimp only
              rw [raises_bind_iff]
              cases hsnapshot : privateBalanceSnapshot baseAsset quoteAsset isoNow exchange
                result with
              | error skip => simp [hsnapshot]
              | ok snapshot => simp [hsnapshot, ih]

variable {runtimeSpec : Dict} {candidateExchanges : List String} {runMode botMode : String}
  {configured : Option (List (String × BalanceReader))}

/-- The balances of a run are asked from its private connectors. -/
def AsksConnectors (runtimeSpec : Dict) (runMode botMode : String) : Prop :=
  configuredBalanceSource runtimeSpec (runtimeMode runMode botMode) = "private_exchange"

theorem raises_loadBalanceSnapshots_iff :
    Raises (loadBalanceSnapshots runtimeSpec candidateExchanges baseAsset quoteAsset runMode botMode
      isoNow configured) ↔
      AsksConnectors runtimeSpec runMode botMode ∧ ∃ connectors ∈ configured,
        BalancesRaise connectors baseAsset quoteAsset isoNow candidateExchanges := by
  unfold loadBalanceSnapshots AsksConnectors
  dsimp only
  by_cases hasks : configuredBalanceSource runtimeSpec (runtimeMode runMode botMode) =
      "private_exchange"
  · have hlive : ¬ (runtimeMode runMode botMode = "live" ∧
        configuredBalanceSource runtimeSpec (runtimeMode runMode botMode) = "runtime_config") := by
      rw [hasks]
      simp
    rw [if_neg hlive, if_pos hasks]
    unfold loadPrivateExchangeBalanceSnapshots
    cases configured with
    | none => simp
    | some connectors => simp [hasks, raises_privateBalances_iff]
  · refine iff_of_false ?_ (fun hboth => hasks hboth.1)
    rw [if_neg hasks]
    split_ifs <;> exact not_raises_ok _

end Raising

section Keys

variable {candidateExchanges : List String} {snapshots : BalanceSnapshots}

theorem keys_privateBalances {connectors : List (String × BalanceReader)}
    {baseAsset quoteAsset isoNow : String} {loaded : List (String × Dict)}
    (hloaded : privateBalances connectors baseAsset quoteAsset isoNow candidateExchanges =
      .ok (.ok loaded)) : loaded.map Prod.fst = candidateExchanges := by
  induction candidateExchanges generalizing loaded with
  | nil =>
      rw [← Except.ok.inj (Except.ok.inj hloaded)]
      rfl
  | cons exchange rest ih =>
      rw [privateBalances] at hloaded
      split at hloaded
      · cases hloaded
      · obtain ⟨result, hresult, hrest⟩ := bind_eq_ok_iff.mp hloaded
        split at hrest
        · cases hrest
        · next snapshot _ =>
            obtain ⟨later, hlater, hok⟩ := bind_eq_ok_iff.mp hrest
            cases later with
            | error skip => cases hok
            | ok later =>
                rw [← Except.ok.inj (Except.ok.inj hok), List.map_cons, ih hlater]

theorem mem_keys_of_lookup {specs : List (String × Dict)} {exchange : String}
    (hsome : (specs.lookup exchange).isSome) : exchange ∈ specs.map Prod.fst := by
  induction specs with
  | nil => cases hsome
  | cons spec rest ih =>
      by_cases heq : exchange = spec.1
      · exact List.mem_map.mpr ⟨spec, List.mem_cons_self, heq.symm⟩
      · have hbeq : (exchange == spec.1) = false := beq_eq_false_iff_ne.mpr heq
        rw [List.lookup_cons, hbeq] at hsome
        exact List.mem_cons_of_mem _ (ih hsome)

theorem mem_keys_configBalanceSpecs {runtimeSpec : Dict} {specs : List (String × Dict)}
    (hspecs : configBalanceSpecs runtimeSpec candidateExchanges = .ok specs) :
    ∀ exchange ∈ candidateExchanges, exchange ∈ specs.map Prod.fst := by
  intro exchange hmem
  unfold configBalanceSpecs at hspecs
  dsimp only at hspecs
  split at hspecs
  · split at hspecs
    · rw [← Except.ok.inj hspecs, List.map_map]
      exact List.mem_map.mpr ⟨exchange, hmem, rfl⟩
    · cases hspecs
  · split at hspecs
    · cases hspecs
    · split at hspecs
      · split at hspecs
        · next hnone =>
            rw [← Except.ok.inj hspecs]
            refine mem_keys_of_lookup ?_
            have hnot := List.filter_eq_nil_iff.mp hnone exchange hmem
            rwa [← Option.not_isNone, Bool.not_eq_true', ← Bool.not_eq_true]
        · cases hspecs
      · cases hspecs

theorem mem_keys_runtimeConfig {runtimeSpec : Dict} {baseAsset quoteAsset isoNow : String}
    (hloaded : loadRuntimeConfigBalanceSnapshots runtimeSpec candidateExchanges baseAsset quoteAsset
      isoNow = .ok snapshots) :
    ∀ exchange ∈ candidateExchanges, exchange ∈ snapshots.byExchange.map Prod.fst := by
  intro exchange hmem
  unfold loadRuntimeConfigBalanceSnapshots at hloaded
  dsimp only at hloaded
  split at hloaded
  · next loaded hboth =>
      rw [← Except.ok.inj hloaded]
      obtain ⟨specs, hspecs, hrest⟩ := bind_eq_ok_iff.mp hboth
      obtain ⟨dicts, hdicts, hok⟩ := bind_eq_ok_iff.mp hrest
      have hlength := (mapM_eq_ok_iff.mp hdicts).length_eq
      rw [← Except.ok.inj hok, List.map_fst_zip (by rw [List.length_map, hlength])]
      exact mem_keys_configBalanceSpecs hspecs exchange hmem
  · cases hloaded

/-- The balances loaded for a run cover its candidates. -/
theorem mem_keys_loadBalanceSnapshots {runtimeSpec : Dict} {baseAsset quoteAsset runMode botMode
    isoNow : String} {configured : Option (List (String × BalanceReader))}
    (hloaded : loadBalanceSnapshots runtimeSpec candidateExchanges baseAsset quoteAsset runMode
      botMode isoNow configured = .ok (.ok snapshots)) :
    ∀ exchange ∈ candidateExchanges, exchange ∈ snapshots.byExchange.map Prod.fst := by
  unfold loadBalanceSnapshots at hloaded
  dsimp only at hloaded
  split at hloaded
  · cases hloaded
  · split at hloaded
    · unfold loadPrivateExchangeBalanceSnapshots at hloaded
      cases configured with
      | none => cases hloaded
      | some connectors =>
          obtain ⟨loaded, hprivate, hok⟩ := bind_eq_ok_iff.mp hloaded
          cases loaded with
          | error skip => cases hok
          | ok byExchange =>
              rw [← Except.ok.inj (Except.ok.inj hok), keys_privateBalances hprivate]
              exact fun _ hmem => hmem
    · split at hloaded
      · exact mem_keys_runtimeConfig (Except.ok.inj hloaded)
      · cases hloaded

end Keys

end TradingPlatform.Strategy

import Mathlib.Data.List.Dedup
import Mathlib.Data.List.Sort
import Mathlib.Data.String.Basic
import TradingPlatform.Foundation.TextCase
import TradingPlatform.Strategy.RuntimeLoader

/-! # The targets of the market data collector

The collector polls a fixed exchange and what the configurations of the running
arbitrage runs name as their base and hedge exchange. The loader of a run reads
the cached books of every candidate exchange. Both parse the configuration on
their own; a book is cached under the normalised exchange and market.
-/

namespace TradingPlatform.MarketData

open Storage Strategy

/-- What the collector and the loader read of the store. -/
structure TargetStore where
  /-- The runs that are listed as running. -/
  runningRuns : List StrategyRun
  getBotDetail : String → Option BotDetail
  listConfigVersions : String → List ConfigVersion

section Collector

/-- The runtime configuration of a run as the collector finds it. -/
def collectedRuntimeSpec (store : TargetStore) (run : StrategyRun) : Option Dict := do
  if Text.lower (Text.strip run.strategyName) ≠ "arbitrage" ∨ Text.strip run.botId = "" then none
  else
    let bot ← store.getBotDetail (Text.strip run.botId)
    let (scope, versionNo) ← bot.assignedConfigVersion
    if Text.strip scope = "" then none
    else
      let version ← findConfigVersion (store.listConfigVersions (Text.strip scope)) versionNo
      let config ← objectOf version.configJson
      objectOf (config.get "arbitrage_runtime")

def sideKeys : List String := ["base_exchange", "hedge_exchange"]

/-- The exchanges on both sides of a run, each with the market of the run. -/
def runTargets (store : TargetStore) (run : StrategyRun) : List (String × String) :=
  match collectedRuntimeSpec store run with
  | none => []
  | some runtimeSpec =>
      let market := Text.upper (Text.strip (runtimeSpec.get "market").textOrEmpty)
      if market = "" then []
      else
        ((sideKeys.map fun key => normalizedExchange (runtimeSpec.get key)).filter (· ≠ "")).map
          fun exchange => (exchange, market)

def strategyTargets (store : TargetStore) : List (String × String) :=
  store.runningRuns.flatMap (runTargets store)

/-- The exchange and the markets the collector is set up with. -/
def fixedTargets (exchange : String) (markets : List String) : List (String × String) :=
  let normalized := Text.lower (Text.strip exchange)
  if normalized = "" then []
  else (markets.filter (Text.strip · ≠ "")).map fun market =>
    (normalized, Text.upper (Text.strip market))

def sortedSet (texts : List String) : List String := texts.dedup.insertionSort (· ≤ ·)

def targetGroups (exchange : String) (markets : List String) (store : TargetStore) :
    List (String × List String) :=
  let targets := fixedTargets exchange markets ++ strategyTargets store
  let group (exchange : String) : List String :=
    sortedSet ((targets.filter fun target => target.1 = exchange).map Prod.snd)
  ((sortedSet (targets.map Prod.fst)).map fun exchange => (exchange, group exchange)).filter
    fun entry => entry.1 ≠ "" && !entry.2.isEmpty

/-- The groups hold a market of an exchange. -/
def Covers (groups : List (String × List String)) (target : String × String) : Prop :=
  ∃ markets, (target.1, markets) ∈ groups ∧ target.2 ∈ markets

theorem mem_sortedSet {text : String} {texts : List String} :
    text ∈ sortedSet texts ↔ text ∈ texts := by
  rw [sortedSet, List.mem_insertionSort, List.mem_dedup]

variable {exchange : String} {markets : List String} {store : TargetStore}

theorem fixedTargets_named {target : String × String}
    (hmem : target ∈ fixedTargets exchange markets) :
    target.1 ≠ "" := by
  unfold fixedTargets at hmem
  dsimp only at hmem
  split_ifs at hmem with hblank
  · cases hmem
  · obtain ⟨market, -, rfl⟩ := List.mem_map.mp hmem
    exact hblank

theorem mem_runTargets {run : StrategyRun} {target : String × String} :
    target ∈ runTargets store run ↔
      ∃ runtimeSpec, collectedRuntimeSpec store run = some runtimeSpec ∧ target.1 ≠ "" ∧
        target.2 ≠ "" ∧ target.2 = Text.upper (Text.strip (runtimeSpec.get "market").textOrEmpty) ∧
        ∃ key ∈ sideKeys, normalizedExchange (runtimeSpec.get key) = target.1 := by
  unfold runTargets
  cases hspec : collectedRuntimeSpec store run with
  | none => simp
  | some runtimeSpec =>
      simp only [Option.some.injEq, exists_eq_left']
      split_ifs with hmarket
      · refine iff_of_false (List.not_mem_nil) ?_
        rintro ⟨-, hne, heq, -⟩
        exact hne (heq.trans hmarket)
      · simp only [List.mem_map, List.mem_filter, decide_eq_true_eq]
        constructor
        · rintro ⟨exchange, ⟨⟨key, hkey, rfl⟩, hne⟩, rfl⟩
          exact ⟨hne, hmarket, rfl, key, hkey, rfl⟩
        · rintro ⟨hne, -, heq, key, hkey, hexchange⟩
          exact ⟨target.1, ⟨⟨key, hkey, hexchange⟩, hne⟩, by rw [← heq]⟩

/-- The groups hold exactly the fixed targets and those of the running runs. -/
theorem covers_targetGroups_iff {target : String × String} :
    Covers (targetGroups exchange markets store) target ↔
      target ∈ fixedTargets exchange markets ∨
        ∃ run ∈ store.runningRuns, target ∈ runTargets store run := by
  have hmem : target ∈ fixedTargets exchange markets ++ strategyTargets store ↔
      target ∈ fixedTargets exchange markets ∨
        ∃ run ∈ store.runningRuns, target ∈ runTargets store run := by
    rw [List.mem_append, strategyTargets, List.mem_flatMap]
  rw [← hmem]
  unfold Covers targetGroups
  constructor
  · rintro ⟨group, hgroup, hmarket⟩
    obtain ⟨name, -, heq⟩ := List.mem_map.mp (List.mem_filter.mp hgroup).1
    obtain ⟨rfl, rfl⟩ := Prod.mk.inj heq
    rw [mem_sortedSet, List.mem_map] at hmarket
    obtain ⟨other, hother, hsame⟩ := hmarket
    obtain ⟨hin, hname⟩ := List.mem_filter.mp hother
    rwa [Prod.ext (of_decide_eq_true hname) hsame] at hin
  · intro htarget
    have hmarket : target.2 ∈ sortedSet (((fixedTargets exchange markets ++
        strategyTargets store).filter fun other => other.1 = target.1).map Prod.snd) := by
      rw [mem_sortedSet]
      exact List.mem_map_of_mem (List.mem_filter.mpr ⟨htarget, by simp⟩)
    refine ⟨_, List.mem_filter.mpr ⟨List.mem_map_of_mem (mem_sortedSet.mpr
      (List.mem_map_of_mem htarget)), ?_⟩, hmarket⟩
    have hnamed : target.1 ≠ "" := by
      rcases hmem.mp htarget with hfixed | ⟨run, -, hrun⟩
      · exact fixedTargets_named hfixed
      · obtain ⟨_, -, hne, -⟩ := mem_runTargets.mp hrun
        exact hne
    have hfull := List.ne_nil_of_mem hmarket
    simpa [hnamed] using hfull

end Collector

section Loader

/-- The bot and the accepted configuration of a run in a store that answers. -/
def acceptedSpec (store : TargetStore) (run : StrategyRun) :
    Except HostError (Except Skip (BotDetail × RuntimeSpec)) :=
  loadRuntimeSpec (fun botId => .ok (store.getBotDetail botId))
    (fun scope => .ok (store.listConfigVersions scope)) run

/-- The books the loader reads for a run. -/
def orderbookReads (store : TargetStore) (run : StrategyRun) : List (String × String) :=
  match acceptedSpec store run with
  | .ok (.ok (_, spec)) => spec.exchanges.map fun exchange => (exchange, spec.market)
  | _ => []

/-- What a book is cached under. -/
def connectorKey (read : String × String) : String × String :=
  (Text.lower (Text.strip read.1), Text.upper (Text.strip read.2))

variable {store : TargetStore} {run : StrategyRun} {bot : BotDetail} {spec : RuntimeSpec}

/-- A load depends on the caches only at the books it reads. -/
theorem loadRuntimeInputs_congr {sources others : LoaderSources}
    (hreads : ∀ exchange ∈ spec.exchanges,
      others.connectorOrderbookTop exchange spec.market =
          sources.connectorOrderbookTop exchange spec.market ∧
        others.redisSnapshot exchange spec.market = sources.redisSnapshot exchange spec.market)
    (hothers : others = { sources with
      connectorOrderbookTop := others.connectorOrderbookTop
      redisOrderbookTop := others.redisOrderbookTop }) :
    loadRuntimeInputs others bot run spec = loadRuntimeInputs sources bot run spec := by
  have hnow : others.isoNow = sources.isoNow := by rw [hothers]
  have hbooked : loadBookedInputs others bot run spec = loadBookedInputs sources bot run spec := by
    rw [hothers]
    rfl
  have hcached : (spec.exchanges.mapM fun exchange => do
        return (exchange, ← cachedOrderbookSnapshot others exchange spec.market)) =
      spec.exchanges.mapM fun exchange => do
        return (exchange, ← cachedOrderbookSnapshot sources exchange spec.market) := by
    refine mapM_congr_of_mem fun exchange hmem => ?_
    obtain ⟨hconnector, hredis⟩ := hreads exchange hmem
    unfold cachedOrderbookSnapshot
    rw [hconnector, hredis, hnow]
  unfold loadRuntimeInputs
  rw [hcached, hbooked]

theorem acceptRuntimeSpec_fields {configJson : Json}
    (hspec : acceptRuntimeSpec configJson = .ok spec) :
    ∃ config, configJson = .obj config ∧
      Dict.get config "arbitrage_runtime" = .obj spec.fields := by
  unfold acceptRuntimeSpec at hspec
  split at hspec
  · next config =>
      split at hspec
      · next runtimeSpec hruntime =>
          split at hspec
          · cases hspec
          · split at hspec
            · dsimp only at hspec
              split at hspec
              · cases hspec
              · cases hspec
              · obtain rfl := Except.ok.inj hspec
                exact ⟨config, rfl, hruntime⟩
            · cases hspec
      · cases hspec
  · cases hspec

/-- Where the configuration of an accepted run is kept. -/
theorem exists_version_of_accepted (haccepted : acceptedSpec store run = .ok (.ok (bot, spec))) :
    Text.strip run.botId ≠ "" ∧ store.getBotDetail (Text.strip run.botId) = some bot ∧
      ∃ scope versionNo version, bot.assignedConfigVersion = some (scope, versionNo) ∧
        Text.strip scope ≠ "" ∧
        findConfigVersion (store.listConfigVersions (Text.strip scope)) versionNo = some version ∧
        acceptRuntimeSpec version.configJson = .ok spec := by
  unfold acceptedSpec loadRuntimeSpec at haccepted
  split at haccepted
  · cases haccepted
  · next hbot =>
      refine ⟨hbot, ?_⟩
      obtain ⟨found, hfound, hrest⟩ := bind_eq_ok_iff.mp haccepted
      cases found with
      | none => cases hrest
      | some detail =>
          obtain ⟨assigned, hassigned, hok⟩ := bind_eq_ok_iff.mp hrest
          cases assigned with
          | none => cases hok
          | some version =>
              dsimp only at hok
              cases hspec : acceptRuntimeSpec version.configJson with
              | error skip =>
                  rw [hspec] at hok
                  cases hok
              | ok accepted =>
                  rw [hspec] at hok
                  obtain ⟨rfl, rfl⟩ := Prod.mk.inj (Except.ok.inj (Except.ok.inj hok))
                  refine ⟨Except.ok.inj hfound, ?_⟩
                  unfold assignedConfigVersion at hassigned
                  split at hassigned
                  · cases hassigned
                  · next scope versionNo hscope =>
                      dsimp only at hassigned
                      split_ifs at hassigned with hblank
                      · cases hassigned
                      · exact ⟨scope, versionNo, version, hscope, hblank,
                          Except.ok.inj hassigned, hspec⟩

/-- The collector finds the configuration a run was accepted with. -/
theorem collectedRuntimeSpec_of_accepted (hname : run.strategyName = "arbitrage")
    (haccepted : acceptedSpec store run = .ok (.ok (bot, spec))) :
    collectedRuntimeSpec store run = some spec.fields := by
  have harbitrage : Text.lower (Text.strip run.strategyName) = "arbitrage" := by
    rw [hname]
    decide +kernel
  obtain ⟨hbot, hdetail, scope, versionNo, version, hassigned, hscope, hversion, hspec⟩ :=
    exists_version_of_accepted haccepted
  obtain ⟨config, hconfig, hruntime⟩ := acceptRuntimeSpec_fields hspec
  unfold collectedRuntimeSpec
  rw [if_neg (by simp [harbitrage, hbot]), hdetail, Option.bind_eq_bind, Option.bind_some,
    hassigned, Option.bind_eq_bind, Option.bind_some]
  dsimp only
  rw [if_neg hscope, hversion, Option.bind_eq_bind, Option.bind_some, hconfig]
  change objectOf (Dict.get config "arbitrage_runtime") = _
  rw [hruntime]
  rfl

end Loader

section Coverage

variable {exchange : String} {markets : List String} {store : TargetStore} {run : StrategyRun}
  {bot : BotDetail} {spec : RuntimeSpec}

/-- Keys are in normal form. -/
theorem connectorKey_of_candidate {name : String} (hname : name ∈ spec.exchanges) :
    connectorKey (name, spec.market) =
      (name, Text.upper (Text.strip (spec.fields.get "market").textOrEmpty)) := by
  rw [spec.exchanges_eq, mem_candidateExchanges] at hname
  obtain ⟨-, value, -, rfl⟩ := hname
  have hexchange : Text.lower (Text.strip (normalizedExchange value)) =
      normalizedExchange value := by
    rw [normalizedExchange, normalizedText, Text.strip_lower, Text.strip_strip, Text.lower_lower]
  rw [connectorKey, hexchange, spec.market_eq, Text.strip_strip]

/-- The configuration of a run names an exchange on one of its sides, with its market. -/
def NamesSide (store : TargetStore) (run : StrategyRun) (target : String × String) : Prop :=
  ∃ runtimeSpec, collectedRuntimeSpec store run = some runtimeSpec ∧
    target.2 = Text.upper (Text.strip (runtimeSpec.get "market").textOrEmpty) ∧
    ∃ key ∈ sideKeys, normalizedExchange (runtimeSpec.get key) = target.1

/-- The base and the hedge exchange of a configuration. -/
def sides (spec : RuntimeSpec) : List String :=
  sideKeys.map fun key => normalizedExchange (spec.fields.get key)

theorem mem_orderbookReads (haccepted : acceptedSpec store run = .ok (.ok (bot, spec)))
    {read : String × String} :
    read ∈ orderbookReads store run ↔ read.1 ∈ spec.exchanges ∧ read.2 = spec.market := by
  unfold orderbookReads
  rw [haccepted]
  simp only [List.mem_map]
  constructor
  · rintro ⟨exchange, hmem, rfl⟩
    exact ⟨hmem, rfl⟩
  · rintro ⟨hmem, hmarket⟩
    exact ⟨read.1, hmem, by rw [← hmarket]⟩

/-- The book of a candidate is covered exactly when it is a fixed target or some
running run names the exchange on one of its sides. -/
theorem covers_candidate_iff {name : String} (hname : name ∈ spec.exchanges) :
    Covers (targetGroups exchange markets store) (connectorKey (name, spec.market)) ↔
      connectorKey (name, spec.market) ∈ fixedTargets exchange markets ∨
        ∃ other ∈ store.runningRuns, NamesSide store other (connectorKey (name, spec.market)) := by
  have hnamed : name ≠ "" := by
    have hmem := hname
    rw [spec.exchanges_eq, mem_candidateExchanges] at hmem
    exact hmem.1
  have hmarket := spec.market_ne
  rw [spec.market_eq] at hmarket
  rw [covers_targetGroups_iff, connectorKey_of_candidate hname]
  refine or_congr_right (exists_congr fun other => and_congr_right fun _ => ?_)
  rw [mem_runTargets]
  refine exists_congr fun runtimeSpec => and_congr_right fun _ => ?_
  rw [and_iff_right hnamed, and_iff_right (Text.upper_ne_empty hmarket)]

/-- What the collector covers of the books the loader reads for a run: those of its
base and hedge exchange, and one of another candidate exactly when it is a fixed
target or a running run has the exchange on one of its sides. -/
theorem covers_orderbookReads_iff (exchange : String) (markets : List String)
    (hrun : run ∈ store.runningRuns) (hname : run.strategyName = "arbitrage")
    (haccepted : acceptedSpec store run = .ok (.ok (bot, spec))) :
    ∀ read ∈ orderbookReads store run,
      (read.1 ∈ sides spec → Covers (targetGroups exchange markets store) (connectorKey read)) ∧
        (Covers (targetGroups exchange markets store) (connectorKey read) ↔
          connectorKey read ∈ fixedTargets exchange markets ∨
            ∃ other ∈ store.runningRuns, NamesSide store other (connectorKey read)) := by
  rintro ⟨name, market⟩ hread
  obtain ⟨hcandidate, hmarket⟩ := (mem_orderbookReads haccepted).mp hread
  dsimp only at hcandidate hmarket
  rw [hmarket]
  refine ⟨fun hside => ?_, covers_candidate_iff hcandidate⟩
  obtain ⟨key, hkey, hsame⟩ := List.mem_map.mp hside
  refine (covers_candidate_iff hcandidate).mpr (Or.inr ⟨run, hrun, spec.fields,
    collectedRuntimeSpec_of_accepted hname haccepted, ?_, key, hkey, ?_⟩)
  · rw [connectorKey_of_candidate hcandidate]
  · rw [connectorKey_of_candidate hcandidate]
    exact hsame

end Coverage

section ThreeExchanges

/-- A run on upbit and bithumb with coinone as a further candidate. -/
def threeExchangeRun : StrategyRun := pairRun "run"

def threeExchangeSpec : Dict :=
  pairSpec ["upbit", "bithumb", "coinone"]
    [("candidate_exchanges", .arr [.str "upbit", .str "bithumb", .str "coinone"])]

def threeExchangeStore : TargetStore where
  runningRuns := [threeExchangeRun]
  getBotDetail botId :=
    if botId = "bot" then some { assignedConfigVersion := some ("arbitrage", 1) } else none
  listConfigVersions scope :=
    if scope = "arbitrage" then [⟨1, .obj [("arbitrage_runtime", .obj threeExchangeSpec)]⟩] else []

/-- The same store for the loader, with a book of every exchange in the cache. -/
def threeExchangeSources : LoaderSources :=
  { pairSources threeExchangeSpec with
    getBotDetail := fun botId => .ok (threeExchangeStore.getBotDetail botId)
    listConfigVersions := fun scope => .ok (threeExchangeStore.listConfigVersions scope) }

/-- The loader accepts the run, and the collector does not cover coinone's book. -/
theorem not_covers_coinone :
    threeExchangeRun ∈ threeExchangeStore.runningRuns ∧
      threeExchangeRun.strategyName = "arbitrage" ∧
      (∃ fields, loadArbitrageRuntimePayload threeExchangeSources threeExchangeRun =
        .ok (.payload fields)) ∧
      ∃ read ∈ orderbookReads threeExchangeStore threeExchangeRun,
        ¬ Covers (targetGroups "" [] threeExchangeStore) (connectorKey read) := by
  refine ⟨List.mem_singleton.mpr rfl, rfl, ?_, ("coinone", "KRW-XRP"), by decide +kernel, ?_⟩
  · have hpayload : ((loadArbitrageRuntimePayload threeExchangeSources
        threeExchangeRun).toOption.bind LoadResult.payload?).isSome = true := by
      decide +kernel
    obtain ⟨fields, hfields⟩ := Option.isSome_iff_exists.mp hpayload
    obtain ⟨result, hload, hresult⟩ := Option.bind_eq_some_iff.mp hfields
    rw [toOption_eq_some_iff.mp hload]
    cases result with
    | payload given => exact ⟨given, rfl⟩
    | skipped skip => cases hresult
  · rw [covers_targetGroups_iff]
    decide +kernel

theorem covers_threeExchanges :
    ∃ bot spec, acceptedSpec threeExchangeStore threeExchangeRun = .ok (.ok (bot, spec)) ∧
      ∀ read ∈ orderbookReads threeExchangeStore threeExchangeRun,
        (read.1 ∈ sides spec →
            Covers (targetGroups "" [] threeExchangeStore) (connectorKey read)) ∧
          (Covers (targetGroups "" [] threeExchangeStore) (connectorKey read) ↔
            connectorKey read ∈ fixedTargets "" [] ∨
              ∃ other ∈ threeExchangeStore.runningRuns,
                NamesSide threeExchangeStore other (connectorKey read)) := by
  have haccepts : ((acceptedSpec threeExchangeStore threeExchangeRun).toOption.bind
      Except.toOption).isSome = true := by
    decide +kernel
  cases haccepted : acceptedSpec threeExchangeStore threeExchangeRun with
  | error error => simp [haccepted, Except.toOption] at haccepts
  | ok accepted =>
      cases accepted with
      | error skip => simp [haccepted, Except.toOption] at haccepts
      | ok both =>
          exact ⟨both.1, both.2, rfl, covers_orderbookReads_iff "" []
            (List.mem_singleton.mpr rfl) rfl haccepted⟩

end ThreeExchanges

end TradingPlatform.MarketData

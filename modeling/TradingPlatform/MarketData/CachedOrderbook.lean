import TradingPlatform.Foundation.Programs
import TradingPlatform.Foundation.Runs
import TradingPlatform.MarketData.Freshness

/-! # Cached order books

The REST connector and the WebSocket connector each keep the snapshot that was synced
last for an exchange and market. The connector of the runtime syncs both of them, one
after the other, and reads both of them, one after the other, while others do the same.
What it returns is as fresh as all that was synced before, as long as no snapshot
replaces a fresher one.
-/

namespace TradingPlatform.MarketData

open Programs

section Caches

/-- The two connectors that fetch snapshots. -/
inductive Source where
  | rest
  | publicWs
deriving DecidableEq, Repr

/-- The exchange and market that are asked for, unless one of them is missing. -/
def requestKey (exchange market : String) : Option (String × String) :=
  let normalizedExchange := Text.lower (Text.strip exchange)
  let normalizedMarket := Text.upper (Text.strip market)
  if normalizedExchange = "" ∨ normalizedMarket = "" then none
  else some (normalizedExchange, normalizedMarket)

def snapshotKey (snapshot : Dict) : Option (String × String) :=
  requestKey (snapshot.get "exchange").textOrEmpty (snapshot.get "market").textOrEmpty

/-- The caches of the connectors, with all that was ever synced. -/
structure SnapshotCaches where
  latest : Source → String × String → Option Dict
  synced : List (Source × Dict)

/-- What is done to a cache while its lock is held. -/
inductive CacheOp where
  | getCached (source : Source) (exchange market : String)
  | sync (source : Source) (snapshot : Dict)

def CacheReply : CacheOp → Type
  | .getCached _ _ _ => Option Dict
  | .sync _ _ => Unit

namespace SnapshotCaches

def empty : SnapshotCaches := ⟨fun _ _ => none, []⟩

def getCachedOrderbookTop (source : Source) (exchange market : String) (s : SnapshotCaches) :
    Option Dict :=
  (requestKey exchange market).bind (s.latest source)

/-- A snapshot that does not name its exchange and market is not kept. -/
def syncCachedOrderbookTop (source : Source) (snapshot : Dict) (s : SnapshotCaches) :
    SnapshotCaches :=
  match snapshotKey snapshot with
  | none => s
  | some key =>
      { latest := fun other otherKey =>
          if other = source ∧ otherKey = key then some snapshot else s.latest other otherKey
        synced := (source, snapshot) :: s.synced }

def exec : (op : CacheOp) → SnapshotCaches → CacheReply op × SnapshotCaches
  | .getCached source exchange market, s => (s.getCachedOrderbookTop source exchange market, s)
  | .sync source snapshot, s => ((), s.syncCachedOrderbookTop source snapshot)

theorem exec_getCached (source : Source) (exchange market : String) (s : SnapshotCaches) :
    exec (.getCached source exchange market) s =
      (s.getCachedOrderbookTop source exchange market, s) :=
  (rfl)

theorem exec_sync (source : Source) (snapshot : Dict) (s : SnapshotCaches) :
    exec (.sync source snapshot) s = ((), s.syncCachedOrderbookTop source snapshot) :=
  (rfl)

end SnapshotCaches

end Caches

section Connector

structure MarketDataError where
  code : String
  message : String
deriving DecidableEq, Repr

/-- A call of a connector, with what it returns. -/
abbrev ConnectorProgram := Program CacheOp CacheReply (Except HostError (Option Dict))

structure SourcePolicy where
  preferredSource : String
  fallbackSource : Option String
  wsSupported : Bool
deriving DecidableEq, Repr

def wsSupportLevels : List (String × String) :=
  [("upbit", "supported"), ("bithumb", "experimental"), ("coinone", "supported")]

def sourcePolicy (exchange : String) : SourcePolicy :=
  let wsSupported := (wsSupportLevels.lookup exchange).getD "unsupported" != "unsupported"
  { preferredSource := if wsSupported then "public_ws" else "rest"
    fallbackSource := if wsSupported then some "rest" else none
    wsSupported := wsSupported }

/-- A snapshot with how it was collected, and why not from the preferred source. -/
def annotated (snapshot : Dict) (policy : SourcePolicy) (fallback : Option MarketDataError) :
    Dict :=
  let snapshot := snapshot.set "collector_policy_name"
    (.str (if policy.wsSupported then "ws_first" else "rest_only"))
  let snapshot := snapshot.set "collector_preferred_source" (.str policy.preferredSource)
  let snapshot := snapshot.set "collector_fallback_source"
    (policy.fallbackSource.elim .null Json.str)
  let snapshot := snapshot.set "collector_fallback_used" (.bool fallback.isSome)
  match fallback with
  | none => snapshot
  | some exc =>
      let snapshot :=
        if exc.code = "" then snapshot else snapshot.set "collector_fallback_reason" (.str exc.code)
      if exc.message = "" then snapshot
      else snapshot.set "collector_fallback_message" (.str exc.message)

def syncCachedOrderbookTop (snapshot : Dict) : Program CacheOp CacheReply Unit :=
  .perform (.sync .rest snapshot) fun _ => .perform (.sync .publicWs snapshot) fun _ => .done ()

def annotateSnapshot (snapshot : Dict) (policy : SourcePolicy) (fallback : Option MarketDataError) :
    ConnectorProgram :=
  let annotated := annotated snapshot policy fallback
  syncCachedOrderbookTop annotated >>= fun _ => .done (.ok (some annotated))

/-- Fetch from the preferred source, or from the other one when it fails. What the sources
answer is given; a source that answers has synced its own cache. -/
def getOrderbookTop (exchange : String) (ws rest : Except MarketDataError Dict) :
    ConnectorProgram :=
  let policy := sourcePolicy (Text.lower (Text.strip exchange))
  let fromRest (fallback : Option MarketDataError) : ConnectorProgram :=
    match rest with
    | .ok snapshot =>
        .perform (.sync .rest snapshot) fun _ => annotateSnapshot snapshot policy fallback
    | .error exc => .done (.error (.other exc.message))
  if policy.wsSupported then
    match ws with
    | .ok snapshot =>
        .perform (.sync .publicWs snapshot) fun _ => annotateSnapshot snapshot policy none
    | .error exc => fromRest (some exc)
  else fromRest none

/-- The newer of two cached snapshots, where both are there. -/
def newerCached (left right : Option Dict) (leftNow rightNow : String) :
    Except HostError (Option Dict) :=
  match left, right with
  | none, _ => .ok right
  | _, none => .ok left
  | some _, some _ => do
      let leftTime ← snapshotSortDatetime left leftNow
      let rightTime ← snapshotSortDatetime right rightNow
      return match leftTime, rightTime with
        | none, _ => right
        | _, none => left
        | some leftTime, some rightTime => if rightTime ≤ leftTime then left else right

def getCachedOrderbookTop (exchange market leftNow rightNow : String) : ConnectorProgram :=
  .perform (.getCached .rest exchange market) fun left =>
    .perform (.getCached .publicWs exchange market) fun right =>
      .done (newerCached left right leftNow rightNow)

/-- A call that a thread may make, of the runtime's connector or of one of the two. -/
inductive ConnectorCall where
  | fetchFrom (source : Source) (snapshot : Dict)
  | syncTo (source : Source) (snapshot : Dict)
  | fetch (exchange : String) (ws rest : Except MarketDataError Dict)
  | sync (snapshot : Dict)
  | getCached (exchange market leftNow rightNow : String)

def ConnectorCall.program : ConnectorCall → ConnectorProgram
  | fetchFrom source snapshot =>
      .perform (.sync source snapshot) fun _ => .done (.ok (some snapshot))
  | syncTo source snapshot => .perform (.sync source snapshot) fun _ => .done (.ok none)
  | fetch exchange ws rest => getOrderbookTop exchange ws rest
  | sync snapshot => syncCachedOrderbookTop snapshot >>= fun _ => .done (.ok none)
  | getCached exchange market leftNow rightNow =>
      getCachedOrderbookTop exchange market leftNow rightNow

end Connector

section Threads

/-- Threads that share the caches. -/
abbrev Threads := Pool SnapshotCaches CacheOp CacheReply (Except HostError (Option Dict))

/-- A thread begins a call, or does the next thing of the one it is in. -/
inductive Turn where
  | start (thread : Nat) (call : ConnectorCall)
  | perform (thread : Nat)

def Threads.idle : Threads := ⟨.empty, fun _ => .done (.ok none)⟩

def takeTurn (threads : Threads) : Turn → Threads
  | .start i call => threads.start i call.program
  | .perform i => threads.perform SnapshotCaches.exec i

end Threads

section Order

/-- A snapshot that names the instant it is dated by. -/
def DatedAt (snapshot : Dict) (time : Int) : Prop :=
  ∀ isoNow, snapshotSortDatetime (some snapshot) isoNow = .ok (some time)

/-- A cached snapshot at least as fresh as another one. -/
def FreshAs (cached : Option Dict) (snapshot : Dict) : Prop :=
  ∃ found time foundTime, cached = some found ∧ DatedAt snapshot time ∧ DatedAt found foundTime ∧
    time ≤ foundTime

/-- A snapshot is synced in order when it is dated and replaces none that is fresher. -/
def InOrder (s : SnapshotCaches) : CacheOp → Prop
  | .getCached _ _ _ => True
  | .sync source snapshot => ∀ key ∈ snapshotKey snapshot, ∃ time, DatedAt snapshot time ∧
      ∀ found ∈ s.latest source key, ∀ foundTime, DatedAt found foundTime → foundTime ≤ time

/-- What a thread does next is in order. -/
def TurnInOrder (threads : Threads) : Turn → Prop
  | .start _ _ => True
  | .perform i => ∀ op next, threads.client i = .perform op next → InOrder threads.state op

/-- Each cache holds what is at least as fresh as all that was synced to it, and nothing
without a date. -/
structure Current (s : SnapshotCaches) : Prop where
  fresh : ∀ source snapshot, (source, snapshot) ∈ s.synced → ∀ key ∈ snapshotKey snapshot,
    FreshAs (s.latest source key) snapshot
  dated : ∀ source key, ∀ found ∈ s.latest source key, ∃ time, DatedAt found time

variable {s : SnapshotCaches} {op : CacheOp}

theorem DatedAt.unique {snapshot : Dict} {time other : Int} (htime : DatedAt snapshot time)
    (hother : DatedAt snapshot other) : time = other :=
  Option.some.inj (Except.ok.inj ((htime "").symm.trans (hother "")))

theorem current_empty : Current .empty :=
  ⟨fun _ _ hmem => absurd hmem List.not_mem_nil, fun _ _ _ hfound => by cases hfound⟩

/-- What is done in order keeps the caches current. -/
theorem Current.exec (hcurrent : Current s) (horder : InOrder s op) :
    Current (SnapshotCaches.exec op s).2 := by
  cases op with
  | getCached source exchange market => exact hcurrent
  | sync source snapshot =>
      rw [SnapshotCaches.exec_sync]
      unfold SnapshotCaches.syncCachedOrderbookTop
      dsimp only
      split
      next => exact hcurrent
      next key hkey =>
        obtain ⟨time, htime, hold⟩ := horder key hkey
        refine ⟨fun other old hmem oldKey holdKey => ?_, fun other otherKey found hfound => ?_⟩
        · dsimp only at hmem ⊢
          rcases List.mem_cons.mp hmem with heq | hmem
          · obtain ⟨rfl, rfl⟩ := Prod.mk.inj heq
            obtain rfl := Option.some.inj (holdKey.symm.trans hkey)
            rw [if_pos ⟨rfl, rfl⟩]
            exact ⟨old, time, time, rfl, htime, htime, le_rfl⟩
          · have hfresh := hcurrent.fresh other old hmem oldKey holdKey
            split
            next hsame =>
              obtain ⟨rfl, rfl⟩ := hsame
              obtain ⟨found, oldTime, foundTime, hfound, holdTime, hfoundTime, hle⟩ := hfresh
              exact ⟨snapshot, oldTime, time, rfl, holdTime, htime,
                hle.trans (hold found hfound foundTime hfoundTime)⟩
            next => exact hfresh
        · dsimp only at hfound
          split at hfound
          · obtain rfl := Option.some.inj hfound
            exact ⟨time, htime⟩
          · exact hcurrent.dated other otherKey found hfound

/-- Nothing that was synced is forgotten. -/
theorem synced_subset_exec (op : CacheOp) (s : SnapshotCaches) :
    s.synced ⊆ (SnapshotCaches.exec op s).2.synced := by
  cases op with
  | getCached source exchange market => exact List.Subset.refl _
  | sync source snapshot =>
      rw [SnapshotCaches.exec_sync]
      unfold SnapshotCaches.syncCachedOrderbookTop
      dsimp only
      split
      · exact List.Subset.refl _
      · exact List.subset_cons_self _ _

end Order

section Readers

variable {synced : List (Source × Dict)} {key : String × String}

/-- What a read counts on: it is as fresh as what was synced to its cache. -/
def seesSynced (synced : List (Source × Dict)) (key : String × String) :
    Contract CacheOp CacheReply Unit where
  permits _ _ := True
  answers _
    | .getCached source exchange market, reply => requestKey exchange market = some key →
        (∀ found ∈ (show Option Dict from reply), ∃ time, DatedAt found time) ∧
        ∀ snapshot, (source, snapshot) ∈ synced → snapshotKey snapshot = some key →
          FreshAs reply snapshot
    | .sync _ _, _ => True
  advance _ _ _ := ()

/-- A result that is as fresh as all that was synced. -/
def FreshResult (synced : List (Source × Dict)) (key : String × String)
    (result : Except HostError (Option Dict)) : Prop :=
  ∀ source snapshot, (source, snapshot) ∈ synced → snapshotKey snapshot = some key →
    ∃ cached, result = .ok cached ∧ FreshAs cached snapshot

theorem newerCached_of_dated {left right : Dict} {leftTime rightTime : Int}
    (leftNow rightNow : String)
    (hleft : DatedAt left leftTime) (hright : DatedAt right rightTime) :
    newerCached (some left) (some right) leftNow rightNow =
      .ok (if rightTime ≤ leftTime then some left else some right) := by
  unfold newerCached
  dsimp only
  rw [hleft leftNow, hright rightNow]
  rfl

theorem FreshAs.mono {found other : Dict} {snapshot : Dict} {foundTime otherTime : Int}
    (hfresh : FreshAs (some found) snapshot) (hfound : DatedAt found foundTime)
    (hother : DatedAt other otherTime) (hle : foundTime ≤ otherTime) :
    FreshAs (some other) snapshot := by
  obtain ⟨cached, time, cachedTime, hcached, htime, hcachedTime, hold⟩ := hfresh
  obtain rfl := Option.some.inj hcached
  obtain rfl := hcachedTime.unique hfound
  exact ⟨other, time, otherTime, rfl, htime, hother, hold.trans hle⟩

/-- The newer of two reads is as fresh as what was synced to either cache. -/
theorem freshResult_newerCached {left right : Option Dict} {leftNow rightNow : String}
    (hleftDated : ∀ found ∈ left, ∃ time, DatedAt found time)
    (hrightDated : ∀ found ∈ right, ∃ time, DatedAt found time)
    (hleft : ∀ snapshot, (.rest, snapshot) ∈ synced → snapshotKey snapshot = some key →
      FreshAs left snapshot)
    (hright : ∀ snapshot, (.publicWs, snapshot) ∈ synced → snapshotKey snapshot = some key →
      FreshAs right snapshot) :
    FreshResult synced key (newerCached left right leftNow rightNow) := by
  intro source snapshot hmem hkey
  cases left with
  | none =>
      refine ⟨right, rfl, ?_⟩
      cases source with
      | rest =>
          obtain ⟨found, -, -, hfound, -⟩ := hleft snapshot hmem hkey
          cases hfound
      | publicWs => exact hright snapshot hmem hkey
  | some left =>
      cases right with
      | none =>
          refine ⟨some left, rfl, ?_⟩
          cases source with
          | rest => exact hleft snapshot hmem hkey
          | publicWs =>
              obtain ⟨found, -, -, hfound, -⟩ := hright snapshot hmem hkey
              cases hfound
      | some right =>
          obtain ⟨leftTime, hleftTime⟩ := hleftDated left rfl
          obtain ⟨rightTime, hrightTime⟩ := hrightDated right rfl
          refine ⟨_, newerCached_of_dated leftNow rightNow hleftTime hrightTime, ?_⟩
          split
          next hle =>
            cases source with
            | rest => exact hleft snapshot hmem hkey
            | publicWs => exact (hright snapshot hmem hkey).mono hrightTime hleftTime hle
          next hlt =>
            cases source with
            | rest => exact (hleft snapshot hmem hkey).mono hleftTime hrightTime (not_le.mp hlt).le
            | publicWs => exact hright snapshot hmem hkey

theorem keeps_getCachedOrderbookTop {exchange market leftNow rightNow : String}
    (hkey : requestKey exchange market = some key) :
    (getCachedOrderbookTop exchange market leftNow rightNow).Keeps (seesSynced synced key)
      (fun result _ => FreshResult synced key result) () := by
  unfold getCachedOrderbookTop
  refine Program.keeps_perform.mpr ⟨trivial, fun left hleft => ?_⟩
  refine Program.keeps_perform.mpr ⟨trivial, fun right hright => ?_⟩
  rw [Program.keeps_done]
  exact freshResult_newerCached (hleft hkey).1 (hright hkey).1 (hleft hkey).2 (hright hkey).2

variable {later : List Turn} {threads : Threads} {i : Nat}
  {promise : Except HostError (Option Dict) → Unit → Prop}

/-- What is read of the caches is what the reader counts on. -/
theorem Current.answers {s : SnapshotCaches} {op : CacheOp} (hcurrent : Current s)
    (hsynced : synced ⊆ s.synced) :
    (seesSynced synced key).answers () op (SnapshotCaches.exec op s).1 := by
  cases op with
  | sync source snapshot => trivial
  | getCached source exchange market =>
      intro hkey
      have hreply : (SnapshotCaches.exec (.getCached source exchange market) s).1 =
          s.latest source key := by
        rw [SnapshotCaches.exec_getCached, SnapshotCaches.getCachedOrderbookTop, hkey,
          Option.bind_some]
      rw [hreply]
      exact ⟨hcurrent.dated source key, fun snapshot hmem hsnapshot =>
        hcurrent.fresh source snapshot (hsynced hmem) key hsnapshot⟩

/-- A turn in order keeps the caches current and forgets nothing. -/
theorem Current.takeTurn {turn : Turn} (hcurrent : Current threads.state)
    (hturn : TurnInOrder threads turn) :
    Current (takeTurn threads turn).state ∧
      threads.state.synced ⊆ (takeTurn threads turn).state.synced := by
  cases turn with
  | start j call =>
      rw [MarketData.takeTurn, Pool.start_state]
      exact ⟨hcurrent, List.Subset.refl _⟩
  | perform j =>
      cases hclient : threads.client j with
      | done value =>
          rw [MarketData.takeTurn, Pool.perform_eq_self (by simp [hclient])]
          exact ⟨hcurrent, List.Subset.refl _⟩
      | raised text =>
          rw [MarketData.takeTurn, Pool.perform_eq_self (by simp [hclient])]
          exact ⟨hcurrent, List.Subset.refl _⟩
      | perform op next =>
          rw [MarketData.takeTurn, Pool.perform_eq hclient]
          exact ⟨hcurrent.exec (hturn op next hclient), synced_subset_exec op threads.state⟩

/-- A thread that counts on what was synced still does after a turn that begins no other
call of its own. -/
theorem keeps_takeTurn {turn : Turn} (hcurrent : Current threads.state)
    (hsynced : synced ⊆ threads.state.synced) (hturn : ∀ call, turn ≠ .start i call)
    (hkeeps : (threads.client i).Keeps (seesSynced synced key) promise ()) :
    ((takeTurn threads turn).client i).Keeps (seesSynced synced key) promise () := by
  cases turn with
  | start j call =>
      have hne : i ≠ j := fun heq => hturn call (heq ▸ rfl)
      rw [takeTurn, Pool.start_client_of_ne hne]
      exact hkeeps
  | perform j =>
      by_cases hne : i = j
      · subst hne
        cases hclient : threads.client i with
        | done value =>
            rw [takeTurn, Pool.perform_eq_self (by simp [hclient])]
            exact hkeeps
        | raised text =>
            rw [takeTurn, Pool.perform_eq_self (by simp [hclient])]
            exact hkeeps
        | perform op next =>
            rw [hclient] at hkeeps
            rw [takeTurn, Pool.perform_eq hclient]
            dsimp only
            rw [Function.update_self]
            exact (Program.keeps_perform.mp hkeeps).2 _ (hcurrent.answers hsynced)
      · rw [takeTurn, Pool.perform_client_of_ne hne]
        exact hkeeps

/-- Whatever the other threads do in order, it still does when it comes to an end. -/
theorem keeps_after (hcurrent : Current threads.state) (hsynced : synced ⊆ threads.state.synced)
    (horder : Runs.Along takeTurn TurnInOrder threads later)
    (hlater : ∀ call, .start i call ∉ later)
    (hkeeps : (threads.client i).Keeps (seesSynced synced key) promise ()) :
    ((Runs.after takeTurn threads later).client i).Keeps (seesSynced synced key) promise () := by
  induction later generalizing threads with
  | nil => exact hkeeps
  | cons turn rest ih =>
      obtain ⟨hturn, hrest⟩ := horder
      obtain ⟨hnext, hmore⟩ := hcurrent.takeTurn hturn
      refine ih hnext (List.Subset.trans hsynced hmore) hrest
        (fun call hmem => hlater call (List.mem_cons_of_mem _ hmem)) ?_
      exact keeps_takeTurn hcurrent hsynced
        (fun call heq => hlater call (heq ▸ List.mem_cons_self)) hkeeps

end Readers

/-- As long as every snapshot that is synced is dated and replaces none that is fresher,
what the runtime's connector returns from the caches is as fresh as every snapshot that was
synced before it was asked, in every interleaving of calls. -/
theorem getCachedOrderbookTop_fresh {before later : List Turn} {i : Nat}
    {exchange market leftNow rightNow : String} {key : String × String}
    {result : Except HostError (Option Dict)} (hkey : requestKey exchange market = some key)
    (hfree : ∀ op next, (Runs.after takeTurn .idle before).client i ≠ .perform op next)
    (hlater : ∀ call, .start i call ∉ later)
    (horder : Runs.Along takeTurn TurnInOrder .idle
      (before ++ .start i (.getCached exchange market leftNow rightNow) :: later))
    (hresult : (Runs.after takeTurn .idle
      (before ++ .start i (.getCached exchange market leftNow rightNow) :: later)).client i =
        .done result) :
    FreshResult (Runs.after takeTurn .idle before).state.synced key result := by
  obtain ⟨hbefore, -, hafter⟩ := Runs.along_append.mp horder
  have hthroughout : Runs.Throughout takeTurn (fun threads => Current threads.state) .idle before :=
    hbefore.throughout current_empty fun threads turn hcurrent hturn => (hcurrent.takeTurn hturn).1
  have hcurrent := hthroughout.last
  rw [Runs.after_append, Runs.after_cons] at hresult
  generalize Runs.after takeTurn .idle before = threads at *
  have hclient :
      (takeTurn threads (.start i (.getCached exchange market leftNow rightNow))).client i =
      getCachedOrderbookTop exchange market leftNow rightNow :=
    Pool.start_client_self hfree
  have hstate : (takeTurn threads (.start i (.getCached exchange market leftNow rightNow))).state =
      threads.state := Pool.start_state
  have hbegins : ((takeTurn threads
      (.start i (.getCached exchange market leftNow rightNow))).client i).Keeps
        (seesSynced threads.state.synced key)
        (fun result _ => FreshResult threads.state.synced key result) () := by
    rw [hclient]
    exact keeps_getCachedOrderbookTop hkey
  have hkeeps := keeps_after (hstate.symm ▸ hcurrent) (hstate ▸ List.Subset.refl _) hafter hlater
    hbegins
  rw [hresult, Program.keeps_done] at hkeeps
  exact hkeeps

section Snapshots

theorem datedAt_of_explicit {snapshot : Dict} {text : String} {time : Int}
    (htext : normalizeIsoText (snapshot.get "freshness_observed_at") = .ok (some text))
    (htime : Datetime.instant? (zuluText text) = some time) : DatedAt snapshot time := by
  intro isoNow
  unfold snapshotSortDatetime chooseFreshnessObservedAt
  dsimp only
  rw [htext]
  exact congrArg Except.ok htime

/-- A snapshot of one market, observed at an instant. -/
def observed (observedAt : String) : Dict :=
  [("exchange", .str "upbit"), ("market", .str "KRW-BTC"),
    ("freshness_observed_at", .str observedAt)]

/-- One thread syncs a snapshot. -/
def syncedOnce : List Turn :=
  [.start 0 (.syncTo .rest (observed "2026-04-20T00:00:00Z")), .perform 0]

/-- What it reads then is as fresh. -/
theorem getCachedOrderbookTop_fresh_synced :
    ∃ result, (Runs.after takeTurn .idle (syncedOnce ++
        [.start 0 (.getCached "upbit" "krw-btc" "" ""), .perform 0, .perform 0])).client 0 =
          .done result ∧
      FreshResult (Runs.after takeTurn .idle syncedOnce).state.synced
        ("upbit", "KRW-BTC") result := by
  have hdated : DatedAt (observed "2026-04-20T00:00:00Z") 63912326400000000 :=
    @datedAt_of_explicit _ "2026-04-20T00:00:00Z" _ (by decide +kernel) (by decide +kernel)
  have hkey : requestKey "upbit" "krw-btc" = some ("upbit", "KRW-BTC") := by decide +kernel
  have hfree : ∀ op next,
      (Runs.after takeTurn .idle syncedOnce).client 0 ≠ .perform op next := by
    intro op next heq
    cases heq
  have hlater : ∀ call, Turn.start 0 call ∉ [.perform 0, .perform 0] := by simp
  have horder : Runs.Along takeTurn TurnInOrder .idle (syncedOnce ++
      [.start 0 (.getCached "upbit" "krw-btc" "" ""), .perform 0, .perform 0]) := by
    refine ⟨trivial, fun op next heq => ?_, trivial, fun op next heq => ?_, fun op next heq => ?_,
      trivial⟩
    · cases heq
      exact fun key _ => ⟨_, hdated, fun found hfound => by cases hfound⟩
    · cases heq
      trivial
    · cases heq
      trivial
  exact ⟨_, rfl, getCachedOrderbookTop_fresh hkey hfree hlater horder rfl⟩

/-- The instant of the snapshot that a call has returned. -/
def returnedTime : ConnectorProgram → Option Int
  | .done (.ok (some snapshot)) =>
      match snapshotSortDatetime (some snapshot) "" with
      | .ok time => time
      | .error _ => none
  | _ => none

theorem exists_of_returnedTime {program : ConnectorProgram} {time : Int}
    (htime : returnedTime program = some time) :
    ∃ found, program = .done (.ok (some found)) ∧
      snapshotSortDatetime (some found) "" = .ok (some time) := by
  unfold returnedTime at htime
  split at htime
  next found =>
    refine ⟨found, rfl, ?_⟩
    split at htime
    next hfound => rw [hfound, htime]
    next => cases htime
  next => cases htime

/-- Two threads fetch the order book of one market; the one that was answered first comes
last to the cache. -/
def lateSync : List Turn :=
  [.start 0 (.fetchFrom .rest (observed "2026-04-20T00:00:00Z")),
    .start 1 (.fetchFrom .rest (observed "2026-04-20T00:00:01Z")), .perform 1, .perform 0]

/-- The cache has gone back in time. -/
theorem not_fresh_lateSync :
    ∃ result, (Runs.after takeTurn .idle (lateSync ++
        [.start 2 (.getCached "upbit" "KRW-BTC" "" ""), .perform 2, .perform 2])).client 2 =
          .done result ∧
      ¬FreshResult (Runs.after takeTurn .idle lateSync).state.synced
        ("upbit", "KRW-BTC") result := by
  have hreturned : returnedTime ((Runs.after takeTurn .idle (lateSync ++
      [.start 2 (.getCached "upbit" "KRW-BTC" "" ""), .perform 2, .perform 2])).client 2) =
        some 63912326400000000 := by
    decide +kernel
  obtain ⟨found, hfound, htime⟩ := exists_of_returnedTime hreturned
  refine ⟨_, hfound, fun hfresh => ?_⟩
  have hkey : ∀ text ∈ ["2026-04-20T00:00:00Z", "2026-04-20T00:00:01Z"],
      snapshotKey (observed text) = some ("upbit", "KRW-BTC") := by
    decide +kernel
  have hsynced : (Source.rest, observed "2026-04-20T00:00:01Z") ∈
      (Runs.after takeTurn .idle lateSync).state.synced := by
    change _ ∈ ((SnapshotCaches.empty.syncCachedOrderbookTop .rest
      (observed "2026-04-20T00:00:01Z")).syncCachedOrderbookTop .rest
        (observed "2026-04-20T00:00:00Z")).synced
    simp only [SnapshotCaches.syncCachedOrderbookTop, hkey "2026-04-20T00:00:00Z" (by simp),
      hkey "2026-04-20T00:00:01Z" (by simp)]
    exact List.mem_cons_of_mem _ List.mem_cons_self
  have hnewer : DatedAt (observed "2026-04-20T00:00:01Z") 63912326401000000 :=
    @datedAt_of_explicit _ "2026-04-20T00:00:01Z" _ (by decide +kernel) (by decide +kernel)
  obtain ⟨cached, hcached, cachedSnapshot, time, foundTime, hsome, hdated, hfoundDated, hle⟩ :=
    hfresh _ _ hsynced (hkey _ (by simp))
  obtain rfl := Option.some.inj ((Except.ok.inj hcached).trans hsome)
  obtain rfl := hdated.unique hnewer
  obtain rfl := Option.some.inj (Except.ok.inj (htime.symm.trans (hfoundDated "")))
  exact absurd hle (by decide)

end Snapshots

end TradingPlatform.MarketData

import TradingPlatform.Foundation.JsonText
import TradingPlatform.Runtime.Redis

/-! # The texts behind the Redis runtime

A server keeps texts under keys; a key is a prefix, a word and identifiers, with colons
between them. The runtime stores dictionaries as JSON texts and reads them back. What it
answers is what a runtime would answer that keeps dictionaries under identifiers.
-/

namespace TradingPlatform.Runtime

open JsonText

/-- What the runtime keeps something under. -/
inductive RedisKey where
  | recoveryTrace (recoveryTraceId : String)
  | latestEvaluation (runId : String)
  | pairLock (market quotePairId : String)
  | strategyRunState (runId : String)
  | botState (botKey : String)
  | latestConfig (configScope : String)
  | orderbookTop (exchange market : String)
deriving DecidableEq

namespace RedisKey

def word : RedisKey → String
  | recoveryTrace _ => "recovery_trace"
  | latestEvaluation _ | strategyRunState _ => "strategy_run"
  | pairLock _ _ => "pair_lock"
  | botState _ => "bot"
  | latestConfig _ => "config"
  | orderbookTop _ _ => "market"

def names : RedisKey → List String
  | recoveryTrace recoveryTraceId => [recoveryTraceId]
  | latestEvaluation runId => [runId, "latest_evaluation"]
  | pairLock market quotePairId => [market, quotePairId]
  | strategyRunState runId => [runId, "state"]
  | botState botKey => [botKey, "state"]
  | latestConfig configScope => [configScope, "latest"]
  | orderbookTop exchange market => ["orderbook_top", exchange, market]

def parts (key : RedisKey) : List String := key.word :: key.names

/-- Of two identifiers in one key, the first has no colon. -/
def Plain : RedisKey → Prop
  | pairLock market _ => ':' ∉ market.toList
  | orderbookTop exchange _ => ':' ∉ exchange.toList
  | _ => True

variable {key other : RedisKey} {first second first' second' last : String}
  {rest rest' : List String}

theorem toList_join_cons (first second : String) (rest : List String) :
    (Text.join ":" (first :: second :: rest)).toList =
      first.toList ++ ':' :: (Text.join ":" (second :: rest)).toList := by
  simp [Text.join]

theorem join_singleton (name : String) : Text.join ":" [name] = name := by simp [Text.join]

/-- What comes before the first colon can be told from what comes after it. -/
theorem eq_of_append_colon_eq {cs ds es fs : List Char} (hcs : ':' ∉ cs) (hds : ':' ∉ ds)
    (heq : cs ++ ':' :: es = ds ++ ':' :: fs) : cs = ds ∧ es = fs := by
  induction cs generalizing ds with
  | nil =>
      cases ds with
      | nil => exact ⟨rfl, (List.cons.inj heq).2⟩
      | cons d ds => exact absurd ((List.cons.inj heq).1 ▸ List.mem_cons_self) hds
  | cons c cs ih =>
      cases ds with
      | nil => exact absurd ((List.cons.inj heq).1 ▸ List.mem_cons_self) hcs
      | cons d ds =>
          obtain ⟨hhead, htail⟩ := List.cons.inj heq
          obtain ⟨hsame, hrest⟩ := ih (List.not_mem_of_not_mem_cons hcs)
            (List.not_mem_of_not_mem_cons hds) htail
          exact ⟨by rw [hhead, hsame], hrest⟩

theorem join_cons_inj (hfirst : ':' ∉ first.toList) (hfirst' : ':' ∉ first'.toList)
    (hjoin : Text.join ":" (first :: second :: rest) =
      Text.join ":" (first' :: second' :: rest')) :
    first = first' ∧ Text.join ":" (second :: rest) = Text.join ":" (second' :: rest') := by
  have hlist := congrArg String.toList hjoin
  rw [toList_join_cons, toList_join_cons] at hlist
  obtain ⟨hhead, htail⟩ := eq_of_append_colon_eq hfirst hfirst' hlist
  exact ⟨String.toList_inj.mp hhead, String.toList_inj.mp htail⟩

theorem join_pair_inj (hjoin : Text.join ":" [first, last] = Text.join ":" [first', last]) :
    first = first' := by
  have hlist := congrArg String.toList hjoin
  rw [toList_join_cons, toList_join_cons] at hlist
  exact String.toList_inj.mp (List.append_left_injective _ hlist)

/-- The keys of an evaluation and of a state do not end alike. -/
theorem join_evaluation_ne (runId other : String) :
    Text.join ":" [runId, "latest_evaluation"] ≠ Text.join ":" [other, "state"] := by
  intro hjoin
  have hlast := congrArg (fun s => s.toList.getLast?) hjoin
  simp [toList_join_cons, join_singleton] at hlast

theorem eq_of_join_names_eq (hkey : key.Plain) (hother : other.Plain)
    (hword : key.word = other.word)
    (hnames : Text.join ":" key.names = Text.join ":" other.names) : key = other := by
  cases key <;> cases other <;> simp [word, names] at hword hnames
  case recoveryTrace.recoveryTrace =>
    rw [join_singleton, join_singleton] at hnames
    rw [hnames]
  case latestEvaluation.strategyRunState => exact absurd hnames (join_evaluation_ne _ _)
  case strategyRunState.latestEvaluation => exact absurd hnames.symm (join_evaluation_ne _ _)
  case pairLock.pairLock =>
    obtain ⟨hmarket, hpair⟩ := join_cons_inj hkey hother hnames
    rw [join_singleton, join_singleton] at hpair
    rw [hmarket, hpair]
  case orderbookTop.orderbookTop =>
    have hrest := (join_cons_inj (by simp) (by simp) hnames).2
    obtain ⟨hexchange, hmarket⟩ := join_cons_inj hkey hother hrest
    rw [join_singleton, join_singleton] at hmarket
    rw [hexchange, hmarket]
  all_goals rw [join_pair_inj hnames]

theorem eq_of_join_parts_eq {keyPrefix : String} (hkey : key.Plain) (hother : other.Plain)
    (hparts : Text.join ":" (keyPrefix :: key.parts) = Text.join ":" (keyPrefix :: other.parts)) :
    key = other := by
  have hcolon : ∀ key : RedisKey, ':' ∉ key.word.toList := by
    intro key
    cases key <;> simp [word]
  have hcons : ∀ key : RedisKey, ∃ name rest, key.names = name :: rest := by
    intro key
    cases key <;> exact ⟨_, _, rfl⟩
  obtain ⟨name, rest, hnames⟩ := hcons key
  obtain ⟨name', rest', hnames'⟩ := hcons other
  have hlist := congrArg String.toList hparts
  rw [parts, parts, toList_join_cons, toList_join_cons] at hlist
  have hjoin := String.toList_inj.mp (List.cons.inj (List.append_right_injective _ hlist)).2
  rw [hnames, hnames'] at hjoin
  obtain ⟨hword, hrest⟩ := join_cons_inj (hcolon key) (hcolon other) hjoin
  exact eq_of_join_names_eq hkey hother hword (by rw [hnames, hnames', hrest])

end RedisKey

/-- The texts that the server keeps for the runtime. -/
structure RedisTexts where
  keyPrefix : String
  values : String → Option String

namespace RedisTexts

section Program

def fullKey (texts : RedisTexts) (key : RedisKey) : String :=
  Text.join ":" (texts.keyPrefix :: key.parts)

def setJson (key : RedisKey) (payload : Dict) (texts : RedisTexts) : RedisTexts :=
  { texts with
    values := Function.update texts.values (texts.fullKey key) (some (dumps (.obj payload))) }

def delete (key : RedisKey) (texts : RedisTexts) : RedisTexts :=
  { texts with values := Function.update texts.values (texts.fullKey key) none }

def syncBotState (botKey : String) (payload : Dict) : RedisTexts → RedisTexts :=
  setJson (.botState botKey) payload

def syncStrategyRunState (runId : String) (payload : Dict) : RedisTexts → RedisTexts :=
  setJson (.strategyRunState runId) payload

def syncLatestConfig (configScope : String) (payload : Dict) : RedisTexts → RedisTexts :=
  setJson (.latestConfig configScope) payload

def syncMarketOrderbookTop (exchange market : String) (payload : Dict) : RedisTexts → RedisTexts :=
  setJson (.orderbookTop exchange market) payload

def syncArbitrageEvaluation (runId : String) (payload : Dict) (isoNow : String) :
    RedisTexts → RedisTexts :=
  setJson (.latestEvaluation runId)
    (payload.merge [("strategy_run_id", .str runId), ("cached_at", .str isoNow)])

def syncRecoveryTrace (recoveryTraceId : String) (payload : Dict) (isoNow : String) :
    RedisTexts → RedisTexts :=
  setJson (.recoveryTrace recoveryTraceId)
    (payload.merge [("recovery_trace_id", .str recoveryTraceId), ("updated_at", .str isoNow)])

variable (readFloat : String → String)

/-- The dictionary in a text, if there is one. -/
def readDict (raw : String) : Option Dict :=
  let stripped := Text.strip raw
  if stripped = "" then none
  else
    match loads readFloat stripped with
    | some (.obj payload) => some payload
    | _ => none

def getJson (key : RedisKey) (texts : RedisTexts) : Option Dict :=
  (texts.values (texts.fullKey key)).bind (readDict readFloat)

def getRecoveryTrace (recoveryTraceId : String) : RedisTexts → Option Dict :=
  getJson readFloat (.recoveryTrace recoveryTraceId)

def getArbitrageEvaluation (runId : String) : RedisTexts → Option Dict :=
  getJson readFloat (.latestEvaluation runId)

def getPairLock (market quotePairId : String) : RedisTexts → Option Dict :=
  getJson readFloat (.pairLock market quotePairId)

def syncArbitrageEvaluationRecoveryState (runId : String) (recoveryTrace : Dict) (isoNow : String)
    (texts : RedisTexts) : RedisTexts :=
  match texts.getArbitrageEvaluation readFloat runId with
  | none => texts
  | some current =>
      texts.syncArbitrageEvaluation runId (RedisRuntime.carriedOver current recoveryTrace) isoNow

/-- How it ends, with the lock that is held then, and the texts after it. -/
def acquirePairLock (market quotePairId : String) (payload : Dict) (isoNow : String)
    (texts : RedisTexts) : (RedisRuntime.PairLockOutcome × Option Dict) × RedisTexts :=
  let lock := RedisRuntime.storedPairLock market quotePairId payload isoNow
  let ownerId := RedisRuntime.lockText lock "owner_id"
  let strategyRunId := RedisRuntime.lockText lock "strategy_run_id"
  let botId := RedisRuntime.lockText lock "bot_id"
  match texts.getPairLock readFloat market quotePairId with
  | some existing =>
      if (ownerId ≠ "" ∧ RedisRuntime.lockText existing "owner_id" = ownerId) ∨
          RedisRuntime.sameRun existing strategyRunId botId then
        ((.refreshed, some lock), texts.setJson (.pairLock market quotePairId) lock)
      else ((.conflict, some existing), texts)
  | none =>
      -- A key that has a value is not set.
      match texts.values (texts.fullKey (.pairLock market quotePairId)) with
      | none => ((.acquired, some lock), texts.setJson (.pairLock market quotePairId) lock)
      | some _ => ((.conflict, texts.getPairLock readFloat market quotePairId), texts)

def releasePairLock (market quotePairId ownerId : String) (texts : RedisTexts) :
    (RedisRuntime.PairLockOutcome × Option Dict) × RedisTexts :=
  match texts.getPairLock readFloat market quotePairId with
  | none => ((.missing, none), texts)
  | some existing =>
      if ownerId ≠ "" ∧ RedisRuntime.lockText existing "owner_id" = ownerId then
        ((.released, some existing), texts.delete (.pairLock market quotePairId))
      else ((.conflict, some existing), texts)

end Program

end RedisTexts

/-- What is asked of the runtime. -/
inductive RedisCall where
  | getRecoveryTrace (recoveryTraceId : String)
  | syncRecoveryTrace (recoveryTraceId : String) (payload : Dict) (isoNow : String)
  | getArbitrageEvaluation (runId : String)
  | syncArbitrageEvaluation (runId : String) (payload : Dict) (isoNow : String)
  | syncArbitrageEvaluationRecoveryState (runId : String) (recoveryTrace : Dict) (isoNow : String)
  | getPairLock (market quotePairId : String)
  | acquirePairLock (market quotePairId : String) (payload : Dict) (isoNow : String)
  | releasePairLock (market quotePairId ownerId : String)
  | syncBotState (botKey : String) (payload : Dict)
  | syncStrategyRunState (runId : String) (payload : Dict)
  | syncLatestConfig (configScope : String) (payload : Dict)
  | syncMarketOrderbookTop (exchange market : String) (payload : Dict)

inductive RedisAnswer where
  | done
  | found (payload : Option Dict)
  | lock (outcome : RedisRuntime.PairLockOutcome)

namespace RedisCall

/-- A call as the texts answer it. -/
def onTexts (readFloat : String → String) :
    RedisCall → RedisTexts → RedisAnswer × RedisTexts
  | getRecoveryTrace id, texts => (.found (texts.getRecoveryTrace readFloat id), texts)
  | syncRecoveryTrace id payload isoNow, texts =>
      (.done, texts.syncRecoveryTrace id payload isoNow)
  | getArbitrageEvaluation runId, texts =>
      (.found (texts.getArbitrageEvaluation readFloat runId), texts)
  | syncArbitrageEvaluation runId payload isoNow, texts =>
      (.done, texts.syncArbitrageEvaluation runId payload isoNow)
  | syncArbitrageEvaluationRecoveryState runId trace isoNow, texts =>
      (.done, texts.syncArbitrageEvaluationRecoveryState readFloat runId trace isoNow)
  | getPairLock market quotePairId, texts =>
      (.found (texts.getPairLock readFloat market quotePairId), texts)
  | acquirePairLock market quotePairId payload isoNow, texts =>
      let ((outcome, _), after) :=
        texts.acquirePairLock readFloat market quotePairId payload isoNow
      (.lock outcome, after)
  | releasePairLock market quotePairId ownerId, texts =>
      let ((outcome, _), after) := texts.releasePairLock readFloat market quotePairId ownerId
      (.lock outcome, after)
  | syncBotState botKey payload, texts => (.done, texts.syncBotState botKey payload)
  | syncStrategyRunState runId payload, texts => (.done, texts.syncStrategyRunState runId payload)
  | syncLatestConfig configScope payload, texts =>
      (.done, texts.syncLatestConfig configScope payload)
  | syncMarketOrderbookTop exchange market payload, texts =>
      (.done, texts.syncMarketOrderbookTop exchange market payload)

/-- A call as the dictionaries answer it. -/
def onRuntime : RedisCall → RedisRuntime → RedisAnswer × RedisRuntime
  | getRecoveryTrace id, r => (.found (r.getRecoveryTrace id), r)
  | syncRecoveryTrace id payload isoNow, r => (.done, r.syncRecoveryTrace id payload isoNow)
  | getArbitrageEvaluation runId, r => (.found (r.getArbitrageEvaluation runId), r)
  | syncArbitrageEvaluation runId payload isoNow, r =>
      (.done, r.syncArbitrageEvaluation runId payload isoNow)
  | syncArbitrageEvaluationRecoveryState runId trace isoNow, r =>
      (.done, r.syncArbitrageEvaluationRecoveryState runId trace isoNow)
  | getPairLock market quotePairId, r => (.found (r.pairLocks.lookup (market, quotePairId)), r)
  | acquirePairLock market quotePairId payload isoNow, r =>
      let (outcome, after) := r.acquirePairLock market quotePairId payload isoNow
      (.lock outcome, after)
  | releasePairLock market quotePairId ownerId, r =>
      let (outcome, after) := r.releasePairLock market quotePairId ownerId
      (.lock outcome, after)
  | syncBotState _ _, r | syncStrategyRunState _ _, r | syncLatestConfig _ _, r
  | syncMarketOrderbookTop _ _ _, r => (.done, r)

/-- The calls of a run, one after another. -/
def runWith {S : Type} (step : RedisCall → S → RedisAnswer × S) :
    List RedisCall → S → List RedisAnswer × S
  | [], s => ([], s)
  | call :: rest, s =>
      let (answer, after) := step call s
      let (answers, last) := runWith step rest after
      (answer :: answers, last)

/-- Dictionaries that can be written, under keys that can be told apart. -/
def Admissible (readFloat : String → String) : RedisCall → Prop
  | syncRecoveryTrace _ payload _ | syncArbitrageEvaluation _ payload _
  | syncArbitrageEvaluationRecoveryState _ payload _ | syncBotState _ payload
  | syncStrategyRunState _ payload | syncLatestConfig _ payload =>
      Writable readFloat (.obj payload)
  | acquirePairLock market _ payload _ =>
      ':' ∉ market.toList ∧ Writable readFloat (.obj payload)
  | syncMarketOrderbookTop exchange _ payload =>
      ':' ∉ exchange.toList ∧ Writable readFloat (.obj payload)
  | getPairLock market _ | releasePairLock market _ _ => ':' ∉ market.toList
  | getRecoveryTrace _ | getArbitrageEvaluation _ => True

end RedisCall

section Refinement

variable {readFloat : String → String} {texts : RedisTexts} {r r' : RedisRuntime}
  {key other : RedisKey} {payload : Dict}

/-- What the runtime keeps of its own under a key: nothing of what only others read. -/
def RedisRuntime.kept (r : RedisRuntime) : RedisKey → Option Dict
  | .recoveryTrace recoveryTraceId => r.recoveryTraces.lookup recoveryTraceId
  | .latestEvaluation runId => r.latestEvaluations.lookup runId
  | .pairLock market quotePairId => r.pairLocks.lookup (market, quotePairId)
  | .strategyRunState _ | .botState _ | .latestConfig _ | .orderbookTop _ _ => none

def RedisKey.Own : RedisKey → Prop
  | recoveryTrace _ | latestEvaluation _ | pairLock _ _ => True
  | strategyRunState _ | botState _ | latestConfig _ | orderbookTop _ _ => False

/-- Under each of its keys there is a text of the dictionary that the runtime keeps. -/
def Represents (readFloat : String → String) (texts : RedisTexts) (r : RedisRuntime) : Prop :=
  ∀ key : RedisKey, key.Plain → key.Own →
    Option.Rel (fun raw payload => RedisTexts.readDict readFloat raw = some payload)
      (texts.values (texts.fullKey key)) (r.kept key)

theorem readDict_dumps (hpayload : Writable readFloat (.obj payload)) :
    RedisTexts.readDict readFloat (dumps (.obj payload)) = some payload := by
  rw [RedisTexts.readDict, strip_dumps_obj, if_neg (dumps_obj_ne_empty payload),
    loads_dumps hpayload]

/-- What is read from a text can be written. -/
theorem writable_of_readDict (hreads : Reads readFloat) {raw : String}
    (hread : RedisTexts.readDict readFloat raw = some payload) :
    Writable readFloat (.obj payload) := by
  rw [RedisTexts.readDict] at hread
  split_ifs at hread with hempty
  cases hloads : loads readFloat (Text.strip raw) with
  | none =>
      rw [hloads] at hread
      cases hread
  | some value =>
      rw [hloads] at hread
      cases value <;> cases hread
      exact writable_of_loads hreads hloads

theorem fullKey_ne (hother : other.Plain) (hkey : key.Plain) (hne : other ≠ key) :
    texts.fullKey other ≠ texts.fullKey key := fun hfull =>
  hne (RedisKey.eq_of_join_parts_eq hother hkey hfull)

namespace Represents

theorem getJson (hr : Represents readFloat texts r) (key : RedisKey) (hkey : key.Plain)
    (hown : key.Own) :
    texts.getJson readFloat key = r.kept key := by
  have hheld := hr key hkey hown
  rw [RedisTexts.getJson]
  generalize texts.values (texts.fullKey key) = raw at hheld
  generalize r.kept key = kept at hheld
  cases hheld with
  | none => rfl
  | some hread => exact hread

theorem writable (hreads : Reads readFloat) (hr : Represents readFloat texts r) (key : RedisKey)
    (hkey : key.Plain) (hown : key.Own) (hkept : r.kept key = some payload) :
    Writable readFloat (.obj payload) := by
  have hheld := hr key hkey hown
  rw [hkept] at hheld
  generalize texts.values (texts.fullKey key) = raw at hheld
  cases hheld with
  | some hread => exact writable_of_readDict hreads hread

/-- A text that is written stands for the dictionary that is kept, and for no other. -/
theorem setJson (hr : Represents readFloat texts r) (key : RedisKey) (hkey : key.Plain)
    (hpayload : Writable readFloat (.obj payload))
    (hkept : ∀ other : RedisKey, other.Own →
      r'.kept other = if other = key then some payload else r.kept other) :
    Represents readFloat (texts.setJson key payload) r' := by
  intro other hother hown
  have hfull : (texts.setJson key payload).fullKey other = texts.fullKey other := (rfl)
  rw [hfull, hkept other hown, RedisTexts.setJson]
  dsimp only
  split_ifs with hsame
  · rw [hsame, Function.update_self]
    exact Option.Rel.some (readDict_dumps hpayload)
  · rw [Function.update_of_ne (fullKey_ne hother hkey hsame)]
    exact hr other hother hown

theorem delete (hr : Represents readFloat texts r) (key : RedisKey) (hkey : key.Plain)
    (hkept : ∀ other : RedisKey, other.Own →
      r'.kept other = if other = key then none else r.kept other) :
    Represents readFloat (texts.delete key) r' := by
  intro other hother hown
  have hfull : (texts.delete key).fullKey other = texts.fullKey other := (rfl)
  rw [hfull, hkept other hown, RedisTexts.delete]
  dsimp only
  split_ifs with hsame
  · rw [hsame, Function.update_self]
    exact Option.Rel.none
  · rw [Function.update_of_ne (fullKey_ne hother hkey hsame)]
    exact hr other hother hown

end Represents

section Kept

theorem lookup_insert_ite {α : Type} [DecidableEq α] (kept : AList fun _ : α => Dict)
    (key other : α) (payload : Dict) :
    (kept.insert key payload).lookup other =
      if other = key then some payload else kept.lookup other := by
  split_ifs with hsame
  · rw [hsame, AList.lookup_insert]
  · exact AList.lookup_insert_ne hsame

theorem kept_syncRecoveryTrace (r : RedisRuntime) (id : String) (payload : Dict)
    (isoNow : String) (other : RedisKey) :
    (r.syncRecoveryTrace id payload isoNow).kept other =
      if other = .recoveryTrace id then some (payload.merge
        [("recovery_trace_id", .str id), ("updated_at", .str isoNow)]) else r.kept other := by
  cases other <;> simp [RedisRuntime.kept, RedisRuntime.syncRecoveryTrace, lookup_insert_ite]

theorem kept_syncArbitrageEvaluation (r : RedisRuntime) (runId : String) (payload : Dict)
    (isoNow : String) (other : RedisKey) :
    (r.syncArbitrageEvaluation runId payload isoNow).kept other =
      if other = .latestEvaluation runId then some (payload.merge
        [("strategy_run_id", .str runId), ("cached_at", .str isoNow)]) else r.kept other := by
  cases other <;>
    simp [RedisRuntime.kept, RedisRuntime.syncArbitrageEvaluation, lookup_insert_ite]

theorem kept_insert_pairLocks (r : RedisRuntime) (market quotePairId : String) (lock : Dict)
    (other : RedisKey) :
    RedisRuntime.kept { r with pairLocks := r.pairLocks.insert (market, quotePairId) lock } other =
      if other = .pairLock market quotePairId then some lock else r.kept other := by
  cases other <;> simp [RedisRuntime.kept, lookup_insert_ite]

theorem kept_erase_pairLocks (r : RedisRuntime) (market quotePairId : String)
    (other : RedisKey) :
    RedisRuntime.kept { r with pairLocks := r.pairLocks.erase (market, quotePairId) } other =
      if other = .pairLock market quotePairId then none else r.kept other := by
  cases other with
  | pairLock market' quotePairId' =>
      simp only [RedisRuntime.kept, RedisKey.pairLock.injEq]
      split_ifs with hsame
      · rw [hsame.1, hsame.2, AList.lookup_erase]
      · exact AList.lookup_erase_ne fun heq => hsame (Prod.mk.inj heq)
  | _ => simp [RedisRuntime.kept]

end Kept

section Calls

theorem writable_stamped {name other : String} {value other' : String}
    (hpayload : Writable readFloat (.obj payload)) :
    Writable readFloat (.obj (payload.merge [(name, .str value), (other, .str other')])) := by
  apply writable_merge hpayload
  simp [Writable]

theorem writable_carriedOver {current recoveryTrace : Dict}
    (hcurrent : Writable readFloat (.obj current))
    (htrace : Writable readFloat (.obj recoveryTrace)) :
    Writable readFloat (.obj (RedisRuntime.carriedOver current recoveryTrace)) := by
  apply writable_merge hcurrent
  simp [Writable, writable_get htrace]

theorem writable_storedPairLock (market quotePairId isoNow : String)
    (hpayload : Writable readFloat (.obj payload)) :
    Writable readFloat (.obj (RedisRuntime.storedPairLock market quotePairId payload isoNow)) := by
  have hstamped : Writable readFloat (.obj (payload.merge [("market", .str market),
      ("quote_pair_id", .str quotePairId), ("updated_at", .str isoNow),
      ("ttl_seconds", .int RedisRuntime.pairLockTtlSeconds)])) := by
    apply writable_merge hpayload
    simp [Writable]
  unfold RedisRuntime.storedPairLock
  dsimp only
  split_ifs
  · exact hstamped
  · have hacquired : ∀ field ∈ [("acquired_at", Json.str isoNow)], Writable readFloat field.2 := by
      simp [Writable]
    exact writable_merge hstamped hacquired

/-- What others read is written beside what the runtime keeps. -/
theorem Represents.setJson_of_not_own (hr : Represents readFloat texts r) (key : RedisKey)
    (hkey : key.Plain) (hown : ¬ key.Own) (hpayload : Writable readFloat (.obj payload)) :
    Represents readFloat (texts.setJson key payload) r := by
  apply hr.setJson key hkey hpayload
  intro other hother
  rw [if_neg]
  rintro rfl
  exact hown hother

theorem Represents.acquirePairLock (hr : Represents readFloat texts r)
    {market : String} (quotePairId isoNow : String) (hmarket : ':' ∉ market.toList)
    (hpayload : Writable readFloat (.obj payload)) :
    (texts.acquirePairLock readFloat market quotePairId payload isoNow).1.1 =
        (r.acquirePairLock market quotePairId payload isoNow).1 ∧
      Represents readFloat (texts.acquirePairLock readFloat market quotePairId payload isoNow).2
        (r.acquirePairLock market quotePairId payload isoNow).2 := by
  have hstored := writable_storedPairLock market quotePairId isoNow hpayload
  have hset := hr.setJson (.pairLock market quotePairId) hmarket hstored
    fun other _ => kept_insert_pairLocks r market quotePairId _ other
  have hget : texts.getPairLock readFloat market quotePairId =
      r.pairLocks.lookup (market, quotePairId) :=
    hr.getJson (.pairLock market quotePairId) hmarket trivial
  have hheld := hr (.pairLock market quotePairId) hmarket trivial
  rw [RedisRuntime.kept] at hheld
  unfold RedisTexts.acquirePairLock RedisRuntime.acquirePairLock
  dsimp only
  rw [hget]
  cases hlookup : r.pairLocks.lookup (market, quotePairId) with
  | none =>
      rw [hlookup] at hheld
      cases hvalue : texts.values (texts.fullKey (.pairLock market quotePairId)) with
      | none => exact ⟨rfl, hset⟩
      | some raw =>
          rw [hvalue] at hheld
          cases hheld
  | some existing =>
      dsimp only
      split_ifs
      · exact ⟨rfl, hset⟩
      · exact ⟨rfl, hr⟩

theorem Represents.releasePairLock (hr : Represents readFloat texts r)
    {market : String} (quotePairId ownerId : String) (hmarket : ':' ∉ market.toList) :
    (texts.releasePairLock readFloat market quotePairId ownerId).1.1 =
        (r.releasePairLock market quotePairId ownerId).1 ∧
      Represents readFloat (texts.releasePairLock readFloat market quotePairId ownerId).2
        (r.releasePairLock market quotePairId ownerId).2 := by
  have hdelete := hr.delete (.pairLock market quotePairId) hmarket
    fun other _ => kept_erase_pairLocks r market quotePairId other
  have hget : texts.getPairLock readFloat market quotePairId =
      r.pairLocks.lookup (market, quotePairId) :=
    hr.getJson (.pairLock market quotePairId) hmarket trivial
  unfold RedisTexts.releasePairLock RedisRuntime.releasePairLock
  rw [hget]
  cases r.pairLocks.lookup (market, quotePairId) with
  | none => exact ⟨rfl, hr⟩
  | some existing =>
      dsimp only
      split_ifs
      · exact ⟨rfl, hdelete⟩
      · exact ⟨rfl, hr⟩

theorem Represents.syncArbitrageEvaluationRecoveryState (hreads : Reads readFloat)
    (hr : Represents readFloat texts r) (runId isoNow : String)
    (hpayload : Writable readFloat (.obj payload)) :
    Represents readFloat
      (texts.syncArbitrageEvaluationRecoveryState readFloat runId payload isoNow)
      (r.syncArbitrageEvaluationRecoveryState runId payload isoNow) := by
  have hget : texts.getArbitrageEvaluation readFloat runId = r.getArbitrageEvaluation runId :=
    hr.getJson (.latestEvaluation runId) trivial trivial
  unfold RedisTexts.syncArbitrageEvaluationRecoveryState
    RedisRuntime.syncArbitrageEvaluationRecoveryState
  rw [hget]
  cases hcurrent : r.getArbitrageEvaluation runId with
  | none => exact hr
  | some current =>
      have hwritable := hr.writable hreads (.latestEvaluation runId) trivial trivial hcurrent
      exact hr.setJson (.latestEvaluation runId) trivial
        (writable_stamped (writable_carriedOver hwritable hpayload))
        fun other _ => kept_syncArbitrageEvaluation r runId _ isoNow other

/-- One call is answered alike, and what is kept afterwards is still what the texts say. -/
theorem Represents.call (hreads : Reads readFloat) (hr : Represents readFloat texts r)
    {call : RedisCall} (hcall : call.Admissible readFloat) :
    (call.onTexts readFloat texts).1 = (call.onRuntime r).1 ∧
      Represents readFloat (call.onTexts readFloat texts).2 (call.onRuntime r).2 := by
  cases call with
  | getRecoveryTrace id =>
      exact ⟨congrArg RedisAnswer.found (hr.getJson (.recoveryTrace id) trivial trivial), hr⟩
  | syncRecoveryTrace id payload isoNow =>
      exact ⟨rfl, hr.setJson (.recoveryTrace id) trivial (writable_stamped hcall)
        fun other _ => kept_syncRecoveryTrace r id payload isoNow other⟩
  | getArbitrageEvaluation runId =>
      exact ⟨congrArg RedisAnswer.found
        (hr.getJson (.latestEvaluation runId) trivial trivial), hr⟩
  | syncArbitrageEvaluation runId payload isoNow =>
      exact ⟨rfl, hr.setJson (.latestEvaluation runId) trivial (writable_stamped hcall)
        fun other _ => kept_syncArbitrageEvaluation r runId payload isoNow other⟩
  | syncArbitrageEvaluationRecoveryState runId trace isoNow =>
      exact ⟨rfl, hr.syncArbitrageEvaluationRecoveryState hreads runId isoNow hcall⟩
  | getPairLock market quotePairId =>
      exact ⟨congrArg RedisAnswer.found
        (hr.getJson (.pairLock market quotePairId) hcall trivial), hr⟩
  | acquirePairLock market quotePairId payload isoNow =>
      obtain ⟨houtcome, hafter⟩ := hr.acquirePairLock quotePairId isoNow hcall.1 hcall.2
      exact ⟨congrArg RedisAnswer.lock houtcome, hafter⟩
  | releasePairLock market quotePairId ownerId =>
      obtain ⟨houtcome, hafter⟩ := hr.releasePairLock quotePairId ownerId hcall
      exact ⟨congrArg RedisAnswer.lock houtcome, hafter⟩
  | syncBotState botKey payload =>
      exact ⟨rfl, hr.setJson_of_not_own (.botState botKey) trivial id hcall⟩
  | syncStrategyRunState runId payload =>
      exact ⟨rfl, hr.setJson_of_not_own (.strategyRunState runId) trivial id hcall⟩
  | syncLatestConfig configScope payload =>
      exact ⟨rfl, hr.setJson_of_not_own (.latestConfig configScope) trivial id hcall⟩
  | syncMarketOrderbookTop exchange market payload =>
      exact ⟨rfl, hr.setJson_of_not_own (.orderbookTop exchange market) hcall.1 id hcall.2⟩

theorem represents_empty (keyPrefix : String) :
    Represents readFloat ⟨keyPrefix, fun _ => none⟩ RedisRuntime.empty := by
  intro key _ _
  have hnone : RedisRuntime.empty.kept key = none := by
    cases key <;> rfl
  rw [hnone]
  exact Option.Rel.none

/-- Floats of a program that knows of no other number between zero and one. -/
def readHalf (numeral : String) : String := if numeral = "0.5" then "0.5" else "inf"

theorem printed_half : Printed readHalf "0.5" :=
  Or.inr (Or.inr (Or.inr ⟨rfl, ⟨[], ['0'], ['.', '5'], []⟩,
    ⟨Or.inl rfl, Or.inl rfl, Or.inr ⟨['5'], by simp [Digits], rfl⟩, Or.inl rfl⟩, rfl,
    by simp [Numeral.chars]⟩))

theorem reads_readHalf : Reads readHalf := by
  intro numeral _ _
  generalize String.ofList numeral.chars = text
  unfold readHalf
  split_ifs
  · exact printed_half
  · exact Or.inr (Or.inl rfl)

/-- A trace, the state of its run and a lock are written, and the trace is read. -/
def firstCalls : List RedisCall :=
  [.syncRecoveryTrace "trace-1" [("status", .str "active"), ("delta", .float "0.5")] "now",
    .syncStrategyRunState "run-1" [("status", .str "running")],
    .acquirePairLock "BTC-JPY" "a:b" [("owner_id", .str "run-1")] "now",
    .getRecoveryTrace "trace-1"]

end Calls

end Refinement

end TradingPlatform.Runtime

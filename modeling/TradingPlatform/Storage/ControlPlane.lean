import Mathlib.Data.List.Infix
import Mathlib.Logic.Function.Basic
import TradingPlatform.Config.ApplyPolicy
import TradingPlatform.Foundation.OwnedRows
import TradingPlatform.Storage.MemoryStore

/-! # Bots, configurations and alerts

The tables of the memory store that bots are registered in, configured from and
watched by. A bot stands in two tables, and an alert in the list of all alerts
and in that of its bot.
-/

namespace TradingPlatform.Storage

open Config

section Rows

structure ConfigVersionRow where
  configVersionId : String
  configScope : String
  versionNo : Nat
  configJson : Dict
  checksum : String
  createdBy : Option String
  createdAt : String

inductive ApplyStatus where
  | pending
  | applied
  | rejected
  | restartRequired

def ApplyStatus.text : ApplyStatus → String
  | pending => "pending"
  | applied => "applied"
  | rejected => "rejected"
  | restartRequired => "restart_required"

/-- The status a bot acknowledges an assignment with. -/
def ApplyStatus.ofAck? (ackStatus : String) : Option ApplyStatus :=
  [applied, rejected, restartRequired].find? fun status =>
    status.text = Text.lower (Text.strip ackStatus)

def ApplyStatus.alertCode : ApplyStatus → String
  | pending => "CONFIG_ASSIGNED"
  | applied => "CONFIG_APPLIED"
  | rejected => "CONFIG_REJECTED"
  | restartRequired => "CONFIG_RESTART_REQUIRED"

structure AssignedVersion where
  configScope : String
  versionNo : Nat
  configVersionId : Option String
  assignedAt : Option String
  applyStatus : ApplyStatus
  acknowledgedAt : Option String
  ackMessage : Option String
  policy : AssignmentPolicy

structure Alert where
  alertId : String
  botId : Option String
  level : String
  code : String
  message : String
  createdAt : String
  acknowledgedAt : Option String

structure Heartbeat where
  createdAt : String
  isProcessAlive : Bool
  isMarketDataAlive : Bool
  isOrderingAlive : Bool
  lagMs : Option Int
  payload : Dict

structure Bot where
  botId : String
  botKey : String
  strategyName : String
  mode : String
  status : String
  hostname : Option String
  lastSeenAt : String
  assigned : AssignedVersion

/-- A bot as its own page shows it: its row again, and more. -/
structure BotDetailRow where
  bot : Bot
  latestHeartbeat : Option Heartbeat
  recentAlerts : List Alert

end Rows

/-- The tables. Versions, alerts and heartbeats stand newest first. -/
structure ControlPlane where
  bots : List Bot
  botDetails : String → Option BotDetailRow
  heartbeats : String → List Heartbeat
  alerts : List Alert
  configVersions : String → List ConfigVersionRow
  serial : Nat

namespace ControlPlane

def empty : ControlPlane := ⟨[], fun _ => none, fun _ => [], [], fun _ => [], 0⟩

section Program

variable (p : Platform)

/-- The rows with an identifier are changed; no two bots have the same. -/
def updateBot (s : ControlPlane) (botId : String) (f : Bot → Bot) : ControlPlane :=
  { s with bots := updateAt Bot.botId botId f s.bots }

def updateDetail (s : ControlPlane) (botId : String) (f : BotDetailRow → BotDetailRow) :
    ControlPlane :=
  { s with botDetails := Function.update s.botDetails botId ((s.botDetails botId).map f) }

def alertRow (serial : Nat) (botId : Option String) (level code message : String) : Alert :=
  { alertId := p.uuid serial
    botId := botId
    level := level
    code := code
    message := message
    createdAt := p.sampleTime serial
    acknowledgedAt := none }

def emitAlert (botId : Option String) (level code message : String) (s : ControlPlane) :
    Alert × ControlPlane :=
  let alert := alertRow p s.serial botId level code message
  let listed := { s with alerts := alert :: s.alerts, serial := s.serial + 1 }
  match botId with
  | none => (alert, listed)
  | some id =>
      (alert, listed.updateDetail id fun detail =>
        { detail with recentAlerts := alert :: detail.recentAlerts })

def createConfigVersion (configScope : String) (configJson : Dict) (checksum : String)
    (createdBy : Option String) (s : ControlPlane) : ConfigVersionRow × ControlPlane :=
  let nextVersion :=
    match s.configVersions configScope with
    | latest :: _ => latest.versionNo + 1
    | [] => 1
  let version : ConfigVersionRow :=
    { configVersionId := p.uuid s.serial
      configScope := configScope
      versionNo := nextVersion
      configJson := configJson
      checksum := checksum
      createdBy := createdBy
      createdAt := p.sampleTime s.serial }
  (version,
    { s with
      configVersions :=
        Function.update s.configVersions configScope (version :: s.configVersions configScope)
      serial := s.serial + 1 })

/-- The version an assignment names, looked up under its trimmed scope. -/
def previousVersion (s : ControlPlane) (assigned : AssignedVersion) : Option ConfigVersionRow :=
  let previousScope := Text.strip assigned.configScope
  if previousScope = "" then none
  else (s.configVersions previousScope).find? (·.versionNo = assigned.versionNo)

def assignConfig (botId configScope : String) (versionNo : Int) (s : ControlPlane) :
    Option AssignedVersion × ControlPlane :=
  match s.botDetails botId with
  | none => (none, s)
  | some detail =>
      match (s.configVersions configScope).find? fun item => (item.versionNo : Int) = versionNo with
      | none => (none, s)
      | some version =>
          let assigned : AssignedVersion :=
            { configScope := configScope
              versionNo := version.versionNo
              configVersionId := some version.configVersionId
              assignedAt := some (p.sampleTime s.serial)
              applyStatus := .pending
              acknowledgedAt := none
              ackMessage := none
              policy := summarizeConfigAssignmentPolicy
                ((s.previousVersion detail.bot.assigned).map (·.configJson)) version.configJson }
          let assign (bot : Bot) : Bot := { bot with assigned := assigned }
          let changed := (s.updateDetail botId fun detail =>
            { detail with bot := assign detail.bot }).updateBot botId assign
          (some assigned,
            (emitAlert p (some botId) "info" ApplyStatus.pending.alertCode
              ("config " ++ configScope ++ " v" ++ toString version.versionNo ++ " assigned")
              { changed with serial := s.serial + 1 }).2)

def acknowledgeConfigAssignment (botId ackStatus : String) (ackMessage : Option String)
    (s : ControlPlane) : Option AssignedVersion × ControlPlane :=
  match s.botDetails botId with
  | none => (none, s)
  | some detail =>
      match ApplyStatus.ofAck? ackStatus with
      | none => (none, s)
      | some status =>
          let assigned : AssignedVersion :=
            { detail.bot.assigned with
              applyStatus := status
              ackMessage := ackMessage
              acknowledgedAt := some (p.sampleTime s.serial) }
          let assign (bot : Bot) : Bot := { bot with assigned := assigned }
          let changed := (s.updateDetail botId fun detail =>
            { detail with bot := assign detail.bot }).updateBot botId assign
          let level := if status.text = "applied" then "info" else "warn"
          (some assigned,
            (emitAlert p (some botId) level status.alertCode
              ("config " ++ assigned.configScope ++ " v" ++ toString assigned.versionNo ++ " " ++
                status.text)
              { changed with serial := s.serial + 1 }).2)

def acknowledgeAlert (alertId : String) (s : ControlPlane) :
    Option (String × String) × ControlPlane :=
  if s.alerts.any (·.alertId = alertId) then
    let acknowledgedAt := p.sampleTime s.serial
    let acknowledge (alert : Alert) : Alert := { alert with acknowledgedAt := some acknowledgedAt }
    -- the list of a bot holds the same alerts as the list of all
    (some (alertId, acknowledgedAt),
      { s with
        alerts := updateAt Alert.alertId alertId acknowledge s.alerts
        botDetails := fun botId => (s.botDetails botId).map fun detail =>
          { detail with
            recentAlerts := updateAt Alert.alertId alertId acknowledge detail.recentAlerts }
        serial := s.serial + 1 })
  else (none, s)

/-- The configuration a new bot starts from. -/
def initialAssignment (s : ControlPlane) : AssignedVersion :=
  let latestDefault := (s.configVersions "default").head?
  { configScope := "default"
    versionNo := latestDefault.elim 1 (·.versionNo)
    configVersionId := latestDefault.map (·.configVersionId)
    assignedAt := none
    applyStatus := .applied
    acknowledgedAt := some (p.sampleTime s.serial)
    ackMessage := some "initial default config assignment"
    policy :=
      { applyPolicy := .restartRequired
        changedSections := ["initial_assignment"]
        hotReloadableSections := []
        restartRequiredSections := ["initial_assignment"] } }

/-- What a bot is told when it registers. -/
structure Registration where
  botId : String
  assigned : AssignedVersion
  status : String

def registerBot (botKey strategyName mode : String) (hostname : Option String) (s : ControlPlane) :
    Registration × ControlPlane :=
  match s.bots.find? (·.botKey = botKey) with
  | some existing =>
      let seen (bot : Bot) : Bot :=
        { bot with
          strategyName := strategyName
          mode := mode
          hostname := hostname
          status := "running"
          lastSeenAt := p.sampleTime s.serial }
      let changed := (s.updateDetail existing.botId fun detail =>
        { detail with bot := seen existing }).updateBot existing.botId seen
      (⟨existing.botId, existing.assigned, "running"⟩, { changed with serial := s.serial + 1 })
  | none =>
      let bot : Bot :=
        { botId := p.uuid s.serial
          botKey := botKey
          strategyName := strategyName
          mode := mode
          status := "running"
          hostname := hostname
          lastSeenAt := p.sampleTime s.serial
          assigned := s.initialAssignment p }
      (⟨bot.botId, bot.assigned, bot.status⟩,
        { s with
          bots := s.bots ++ [bot]
          botDetails := Function.update s.botDetails bot.botId (some ⟨bot, none, []⟩)
          heartbeats := Function.update s.heartbeats bot.botId []
          serial := s.serial + 1 })

/-- What a bot is told of its heartbeat. -/
structure Recorded where
  botId : String
  status : String
  recordedAt : String

def recordHeartbeat (botId : String) (isProcessAlive isMarketDataAlive isOrderingAlive : Bool)
    (lagMs : Option Int) (context : Option Dict) (s : ControlPlane) :
    Option Recorded × ControlPlane :=
  match s.botDetails botId with
  | none => (none, s)
  | some _ =>
      let heartbeat : Heartbeat :=
        { createdAt := p.sampleTime s.serial
          isProcessAlive := isProcessAlive
          isMarketDataAlive := isMarketDataAlive
          isOrderingAlive := isOrderingAlive
          lagMs := lagMs
          payload := context.getD [] }
      let status := if isProcessAlive then "running" else "failed"
      let seen (bot : Bot) : Bot := { bot with lastSeenAt := heartbeat.createdAt, status := status }
      let changed := (s.updateDetail botId fun detail =>
        { detail with bot := seen detail.bot, latestHeartbeat := some heartbeat }).updateBot botId
          seen
      (some ⟨botId, status, heartbeat.createdAt⟩,
        { changed with
          heartbeats := Function.update s.heartbeats botId (heartbeat :: s.heartbeats botId)
          serial := s.serial + 1 })

end Program

end ControlPlane

/-- A call that may change the tables. -/
inductive ControlCall where
  | emitAlert (botId : Option String) (level code message : String)
  | createConfigVersion (configScope : String) (configJson : Dict) (checksum : String)
      (createdBy : Option String)
  | assignConfig (botId configScope : String) (versionNo : Int)
  | acknowledgeConfigAssignment (botId ackStatus : String) (ackMessage : Option String)
  | acknowledgeAlert (alertId : String)
  | registerBot (botKey strategyName mode : String) (hostname : Option String)
  | recordHeartbeat (botId : String) (isProcessAlive isMarketDataAlive isOrderingAlive : Bool)
      (lagMs : Option Int) (context : Option Dict)

/-- The tables after a call. -/
def ControlCall.apply (p : Platform) (s : ControlPlane) : ControlCall → ControlPlane
  | .emitAlert botId level code message => (ControlPlane.emitAlert p botId level code message s).2
  | .createConfigVersion configScope configJson checksum createdBy =>
      (ControlPlane.createConfigVersion p configScope configJson checksum createdBy s).2
  | .assignConfig botId configScope versionNo =>
      (ControlPlane.assignConfig p botId configScope versionNo s).2
  | .acknowledgeConfigAssignment botId ackStatus ackMessage =>
      (ControlPlane.acknowledgeConfigAssignment p botId ackStatus ackMessage s).2
  | .acknowledgeAlert alertId => (ControlPlane.acknowledgeAlert p alertId s).2
  | .registerBot botKey strategyName mode hostname =>
      (ControlPlane.registerBot p botKey strategyName mode hostname s).2
  | .recordHeartbeat botId isProcessAlive isMarketDataAlive isOrderingAlive lagMs context =>
      (ControlPlane.recordHeartbeat p botId isProcessAlive isMarketDataAlive isOrderingAlive lagMs
        context s).2

def runControlCalls (p : Platform) (calls : List ControlCall) (s : ControlPlane) : ControlPlane :=
  calls.foldl (fun s call => call.apply p s) s

namespace ControlPlane

variable {p : Platform} {s s' : ControlPlane}

section Emitted

variable (botId : Option String) (level code message : String)

theorem emitAlert_bots : (emitAlert p botId level code message s).2.bots = s.bots := by
  cases botId <;> rfl

theorem emitAlert_configVersions :
    (emitAlert p botId level code message s).2.configVersions = s.configVersions := by
  cases botId <;> rfl

theorem emitAlert_serial : (emitAlert p botId level code message s).2.serial = s.serial + 1 := by
  cases botId <;> rfl

theorem emitAlert_alerts : (emitAlert p botId level code message s).2.alerts =
    alertRow p s.serial botId level code message :: s.alerts := by
  cases botId <;> rfl

theorem emitAlert_botDetails (id : String) :
    (emitAlert p botId level code message s).2.botDetails id =
      (s.botDetails id).map fun detail =>
        if botId = some id then
          { detail with
            recentAlerts :=
              alertRow p s.serial botId level code message :: detail.recentAlerts }
        else detail := by
  cases botId with
  | none => simp [emitAlert]
  | some target =>
      by_cases hat : id = target
      · subst hat
        simp [emitAlert, updateDetail]
      · simp [emitAlert, updateDetail, Function.update_of_ne hat, Ne.symm hat]

end Emitted

section Invariant

/-- The versions of a scope, newest first, are numbered down to one. -/
def Numbered (configScope : String) : List ConfigVersionRow → Prop
  | [] => True
  | version :: older =>
      version.configScope = configScope ∧ version.versionNo = older.length + 1 ∧
        Numbered configScope older

theorem Numbered.versionNo_le {configScope : String} {versions : List ConfigVersionRow}
    (hnumbered : Numbered configScope versions) {version : ConfigVersionRow}
    (hmem : version ∈ versions) : version.versionNo ≤ versions.length := by
  induction versions with
  | nil => simp at hmem
  | cons latest older ih =>
      obtain ⟨-, hlatest, holder⟩ := hnumbered
      rw [List.length_cons]
      rcases List.mem_cons.mp hmem with rfl | hold
      · exact hlatest.le
      · exact (ih holder hold).trans (Nat.le_succ _)

/-- A version is found by its number. -/
theorem Numbered.find_versionNo {configScope : String} {versions : List ConfigVersionRow}
    (hnumbered : Numbered configScope versions) {version : ConfigVersionRow}
    (hmem : version ∈ versions) :
    versions.find? (·.versionNo = version.versionNo) = some version := by
  induction versions with
  | nil => simp at hmem
  | cons latest older ih =>
      obtain ⟨-, hlatest, holder⟩ := hnumbered
      rcases List.mem_cons.mp hmem with rfl | hold
      · exact List.find?_cons_of_pos (decide_eq_true rfl)
      · -- the latest number is above all the older ones
        have hle := holder.versionNo_le hold
        rw [List.find?_cons_of_neg (by rw [decide_eq_true_eq]; omega)]
        exact ih holder hold

/-- The assignment names a version there is, or the first default one that there is not yet. -/
def Knows (s : ControlPlane) (assigned : AssignedVersion) : Prop :=
  (∃ version ∈ s.configVersions assigned.configScope,
    version.versionNo = assigned.versionNo ∧
      assigned.configVersionId = some version.configVersionId) ∨
    assigned.configScope = "default" ∧ assigned.versionNo = 1 ∧ assigned.configVersionId = none

/-- What the tables satisfy. -/
structure Consistent (p : Platform) (s : ControlPlane) : Prop where
  issued : ∀ bot ∈ s.bots, ∃ n < s.serial, bot.botId = p.uuid n
  botIds : (s.bots.map Bot.botId).Nodup
  botKeys : (s.bots.map Bot.botKey).Nodup
  shown : ∀ bot ∈ s.bots, ∃ detail, s.botDetails bot.botId = some detail ∧ detail.bot = bot
  detailed : ∀ botId detail, s.botDetails botId = some detail →
    detail.bot ∈ s.bots ∧ detail.bot.botId = botId
  alertsIssued : ∀ alert ∈ s.alerts, ∃ n < s.serial, alert.alertId = p.uuid n
  alertIds : (s.alerts.map Alert.alertId).Nodup
  recent : ∀ botId detail, s.botDetails botId = some detail →
    detail.recentAlerts <+: s.alerts.filter (·.botId = some botId)
  numbered : ∀ configScope, Numbered configScope (s.configVersions configScope)
  assigned : ∀ bot ∈ s.bots, s.Knows bot.assigned

/-- Nothing is dropped: versions and alerts come in before the others, bots after them. -/
structure GrowsTo (s s' : ControlPlane) : Prop where
  versions : ∀ configScope, s.configVersions configScope <:+ s'.configVersions configScope
  alerts : s.alerts.map Alert.alertId <:+ s'.alerts.map Alert.alertId
  bots : (s.bots.map fun bot => (bot.botId, bot.botKey)) <+:
    s'.bots.map fun bot => (bot.botId, bot.botKey)

theorem GrowsTo.refl (s : ControlPlane) : s.GrowsTo s where
  versions _ := List.suffix_rfl
  alerts := List.suffix_rfl
  bots := List.prefix_rfl

theorem GrowsTo.trans {last : ControlPlane} (hfirst : s.GrowsTo s') (hsecond : s'.GrowsTo last) :
    s.GrowsTo last where
  versions configScope := (hfirst.versions configScope).trans (hsecond.versions configScope)
  alerts := hfirst.alerts.trans hsecond.alerts
  bots := hfirst.bots.trans hsecond.bots

/-- A call keeps the tables consistent and drops nothing. -/
structure Keeps (p : Platform) (s s' : ControlPlane) : Prop where
  consistent : Consistent p s'
  grows : s.GrowsTo s'

theorem Keeps.trans {last : ControlPlane} (hfirst : Keeps p s s') (hsecond : Keeps p s' last) :
    Keeps p s last :=
  ⟨hsecond.consistent, hfirst.grows.trans hsecond.grows⟩

theorem consistent_empty (p : Platform) : Consistent p empty where
  issued := by simp [empty]
  botIds := List.nodup_nil
  botKeys := List.nodup_nil
  shown := by simp [empty]
  detailed := by simp [empty]
  alertsIssued := by simp [empty]
  alertIds := List.nodup_nil
  recent := by simp [empty]
  numbered _ := trivial
  assigned := by simp [empty]

end Invariant

namespace Consistent

theorem refl (h : Consistent p s) : Keeps p s s := ⟨h, .refl s⟩

theorem fresh (h : Consistent p s) : ∀ bot ∈ s.bots, bot.botId ≠ p.uuid s.serial :=
  ne_of_issued p.uuid_injective h.issued

theorem fresh_alert (h : Consistent p s) : ∀ alert ∈ s.alerts, alert.alertId ≠ p.uuid s.serial :=
  ne_of_issued p.uuid_injective h.alertsIssued

/-- Both rows of a bot are changed alike. -/
theorem updateBoth (h : Consistent p s) {botId : String} {f : Bot → Bot}
    {g : BotDetailRow → BotDetailRow} {heartbeats : String → List Heartbeat}
    (hid : ∀ bot, (f bot).botId = bot.botId) (hkey : ∀ bot, (f bot).botKey = bot.botKey)
    (hassigned : ∀ bot ∈ s.bots, bot.botId = botId → s.Knows (f bot).assigned)
    (hbot : ∀ detail, s.botDetails botId = some detail → (g detail).bot = f detail.bot)
    (hrecent : ∀ detail, (g detail).recentAlerts = detail.recentAlerts) :
    Keeps p s { (s.updateDetail botId g).updateBot botId f with
      heartbeats := heartbeats, serial := s.serial + 1 } where
  grows :=
    { versions := fun _ => List.suffix_rfl
      alerts := List.suffix_rfl
      bots := by
        dsimp only [updateBot, updateDetail]
        rw [map_updateAt fun bot _ _ => by rw [hid, hkey]] }
  consistent :=
    { issued := by
        intro bot hmem
        rcases mem_updateAt.mp hmem with ⟨row, hrow, -, rfl⟩ | ⟨hrow, -⟩
        · rw [hid]
          exact issued_succ h.issued row hrow
        · exact issued_succ h.issued bot hrow
      botIds := by
        dsimp only [updateBot, updateDetail]
        rw [map_updateAt fun bot _ _ => hid bot]
        exact h.botIds
      botKeys := by
        dsimp only [updateBot, updateDetail]
        rw [map_updateAt fun bot _ _ => hkey bot]
        exact h.botKeys
      shown := by
        intro bot hmem
        dsimp only [updateBot, updateDetail]
        rcases mem_updateAt.mp hmem with ⟨row, hrow, rfl, rfl⟩ | ⟨hrow, hne⟩
        · obtain ⟨detail, hdetail, hsame⟩ := h.shown row hrow
          refine ⟨g detail, ?_, ?_⟩
          · rw [hid, Function.update_self, hdetail, Option.map_some]
          · rw [hbot detail hdetail, hsame]
        · rw [Function.update_of_ne hne]
          exact h.shown bot hrow
      detailed := by
        intro id detail hdetail
        dsimp only [updateBot, updateDetail] at hdetail ⊢
        by_cases hat : id = botId
        · rw [hat, Function.update_self, Option.map_eq_some_iff] at hdetail
          obtain ⟨before, hbefore, rfl⟩ := hdetail
          obtain ⟨hrow, hrowId⟩ := h.detailed botId before hbefore
          rw [hbot before hbefore, hid, hat]
          exact ⟨mem_updateAt.mpr (Or.inl ⟨before.bot, hrow, hrowId, rfl⟩), hrowId⟩
        · rw [Function.update_of_ne hat] at hdetail
          obtain ⟨hrow, hrowId⟩ := h.detailed id detail hdetail
          exact ⟨mem_updateAt.mpr (Or.inr ⟨hrow, hrowId ▸ hat⟩), hrowId⟩
      alertsIssued := issued_succ h.alertsIssued
      alertIds := h.alertIds
      recent := by
        intro id detail hdetail
        dsimp only [updateBot, updateDetail] at hdetail ⊢
        by_cases hat : id = botId
        · rw [hat, Function.update_self, Option.map_eq_some_iff] at hdetail
          obtain ⟨before, hbefore, rfl⟩ := hdetail
          rw [hrecent, hat]
          exact h.recent botId before hbefore
        · rw [Function.update_of_ne hat] at hdetail
          exact h.recent id detail hdetail
      numbered := h.numbered
      assigned := by
        intro bot hmem
        rcases mem_updateAt.mp hmem with ⟨row, hrow, hat, rfl⟩ | ⟨hrow, -⟩
        · exact hassigned row hrow hat
        · exact h.assigned bot hrow }

theorem emitAlert (h : Consistent p s) (botId : Option String) (level code message : String) :
    Keeps p s (ControlPlane.emitAlert p botId level code message s).2 where
  grows :=
    { versions := fun configScope => by rw [emitAlert_configVersions]
      alerts := by
        rw [emitAlert_alerts, List.map_cons]
        exact List.suffix_cons _ _
      bots := by rw [emitAlert_bots] }
  consistent :=
    { issued := by
        rw [emitAlert_bots, emitAlert_serial]
        exact issued_succ h.issued
      botIds := by
        rw [emitAlert_bots]
        exact h.botIds
      botKeys := by
        rw [emitAlert_bots]
        exact h.botKeys
      shown := by
        intro bot hmem
        rw [emitAlert_bots] at hmem
        obtain ⟨detail, hdetail, hsame⟩ := h.shown bot hmem
        refine ⟨_, by rw [emitAlert_botDetails, hdetail, Option.map_some], ?_⟩
        split_ifs <;> exact hsame
      detailed := by
        intro id detail hdetail
        rw [emitAlert_botDetails, Option.map_eq_some_iff] at hdetail
        obtain ⟨before, hbefore, rfl⟩ := hdetail
        rw [emitAlert_bots]
        split_ifs <;> exact h.detailed id before hbefore
      alertsIssued := by
        intro alert hmem
        rw [emitAlert_alerts] at hmem
        rw [emitAlert_serial]
        rcases List.mem_cons.mp hmem with rfl | hold
        · exact ⟨s.serial, Nat.lt_succ_self _, rfl⟩
        · exact issued_succ h.alertsIssued alert hold
      alertIds := by
        rw [emitAlert_alerts, List.map_cons, List.nodup_cons]
        refine ⟨?_, h.alertIds⟩
        intro hmem
        obtain ⟨alert, halert, hid⟩ := List.mem_map.mp hmem
        exact h.fresh_alert alert halert hid
      recent := by
        intro id detail hdetail
        rw [emitAlert_botDetails, Option.map_eq_some_iff] at hdetail
        obtain ⟨before, hbefore, rfl⟩ := hdetail
        have hrecent := h.recent id before hbefore
        rw [emitAlert_alerts, List.filter_cons]
        by_cases hat : botId = some id
        · simp only [alertRow, hat, decide_true, if_true]
          exact (List.prefix_cons_inj _).mpr hrecent
        · simp only [alertRow, hat, decide_false, Bool.false_eq_true, if_false]
          exact hrecent
      numbered := fun configScope => by
        rw [emitAlert_configVersions]
        exact h.numbered configScope
      assigned := by
        intro bot hmem
        rw [emitAlert_bots] at hmem
        rw [Knows, emitAlert_configVersions]
        exact h.assigned bot hmem }

theorem createConfigVersion (h : Consistent p s) (configScope : String) (configJson : Dict)
    (checksum : String) (createdBy : Option String) :
    Keeps p s
      (ControlPlane.createConfigVersion p configScope configJson checksum createdBy s).2 := by
  -- the versions of every scope stay, one of them with a new one in front
  have hsuffix : ∀ scope, s.configVersions scope <:+
      (ControlPlane.createConfigVersion p configScope configJson checksum createdBy
        s).2.configVersions scope := by
    intro scope
    by_cases hat : scope = configScope
    · rw [hat]
      simp only [ControlPlane.createConfigVersion, Function.update_self]
      exact List.suffix_cons _ _
    · simp only [ControlPlane.createConfigVersion, Function.update_of_ne hat]
      exact List.suffix_rfl
  refine ⟨⟨issued_succ h.issued, h.botIds, h.botKeys, h.shown, h.detailed,
    issued_succ h.alertsIssued, h.alertIds, h.recent, ?_, ?_⟩,
    ⟨hsuffix, List.suffix_rfl, List.prefix_rfl⟩⟩
  · intro scope
    by_cases hat : scope = configScope
    · subst hat
      simp only [ControlPlane.createConfigVersion, Function.update_self]
      refine ⟨rfl, ?_, h.numbered scope⟩
      have hnumbered := h.numbered scope
      cases hversions : s.configVersions scope with
      | nil => rfl
      | cons latest older =>
          rw [hversions] at hnumbered
          simp only [hnumbered.2.1, List.length_cons]
    · simp only [ControlPlane.createConfigVersion, Function.update_of_ne hat]
      exact h.numbered scope
  · intro bot hmem
    rcases h.assigned bot hmem with ⟨version, hversion, hnamed⟩ | hfirst
    · exact Or.inl ⟨version, (hsuffix _).subset hversion, hnamed⟩
    · exact Or.inr hfirst

/-- An assignment is put into both rows of a bot, and an alert says so. -/
theorem assign (h : Consistent p s) {botId : String} {assigned : AssignedVersion}
    (hknown : s.Knows assigned) (level code message : String) :
    Keeps p s (ControlPlane.emitAlert p (some botId) level code message
      { (s.updateDetail botId fun detail =>
          { detail with bot := { detail.bot with assigned := assigned } }).updateBot botId
            fun bot => { bot with assigned := assigned } with
        serial := s.serial + 1 }).2 := by
  have hchanged : Keeps p s
      { (s.updateDetail botId fun detail =>
          { detail with bot := { detail.bot with assigned := assigned } }).updateBot botId
            fun bot => { bot with assigned := assigned } with
        serial := s.serial + 1 } :=
    h.updateBoth (fun _ => rfl) (fun _ => rfl) (fun _ _ _ => hknown) (fun _ _ => rfl) fun _ => rfl
  exact hchanged.trans (hchanged.consistent.emitAlert (some botId) level code message)

theorem assignConfig (h : Consistent p s) (botId configScope : String) (versionNo : Int) :
    Keeps p s (ControlPlane.assignConfig p botId configScope versionNo s).2 := by
  unfold ControlPlane.assignConfig
  split
  · exact h.refl
  · split
    · exact h.refl
    next version hversion =>
      exact h.assign (Or.inl ⟨version, List.mem_of_find?_eq_some hversion, rfl, rfl⟩) _ _ _

theorem acknowledgeConfigAssignment (h : Consistent p s) (botId ackStatus : String)
    (ackMessage : Option String) :
    Keeps p s (ControlPlane.acknowledgeConfigAssignment p botId ackStatus ackMessage s).2 := by
  unfold ControlPlane.acknowledgeConfigAssignment
  split
  · exact h.refl
  next detail hdetail =>
    split
    · exact h.refl
    next status _ =>
      -- the version that is acknowledged is the one assigned before
      refine h.assign ?_ _ _ _
      exact h.assigned detail.bot (h.detailed botId detail hdetail).1

/-- An alert is changed in both lists it stands in. -/
theorem updateAlert (h : Consistent p s) {alertId : String} {f : Alert → Alert}
    (hid : ∀ alert, (f alert).alertId = alert.alertId)
    (hbot : ∀ alert, (f alert).botId = alert.botId) :
    Keeps p s
      { s with
        alerts := updateAt Alert.alertId alertId f s.alerts
        botDetails := fun botId => (s.botDetails botId).map fun detail =>
          { detail with recentAlerts := updateAt Alert.alertId alertId f detail.recentAlerts }
        serial := s.serial + 1 } where
  grows :=
    { versions := fun _ => List.suffix_rfl
      alerts := by
        rw [map_updateAt fun alert _ _ => hid alert]
      bots := List.prefix_rfl }
  consistent :=
    { issued := issued_succ h.issued
      botIds := h.botIds
      botKeys := h.botKeys
      shown := by
        intro bot hmem
        obtain ⟨detail, hdetail, hsame⟩ := h.shown bot hmem
        refine ⟨{ detail with
          recentAlerts := updateAt Alert.alertId alertId f detail.recentAlerts }, ?_, hsame⟩
        dsimp only
        rw [hdetail, Option.map_some]
      detailed := by
        intro id detail hdetail
        obtain ⟨before, hbefore, rfl⟩ := Option.map_eq_some_iff.mp hdetail
        exact h.detailed id before hbefore
      alertsIssued := by
        intro alert hmem
        rcases mem_updateAt.mp hmem with ⟨row, hrow, -, rfl⟩ | ⟨hrow, -⟩
        · rw [hid]
          exact issued_succ h.alertsIssued row hrow
        · exact issued_succ h.alertsIssued alert hrow
      alertIds := by
        rw [map_updateAt fun alert _ _ => hid alert]
        exact h.alertIds
      recent := by
        intro id detail hdetail
        obtain ⟨before, hbefore, rfl⟩ := Option.map_eq_some_iff.mp hdetail
        dsimp only
        rw [filter_updateAt fun alert => by rw [hbot]]
        exact (h.recent id before hbefore).map _
      numbered := h.numbered
      assigned := h.assigned }

theorem acknowledgeAlert (h : Consistent p s) (alertId : String) :
    Keeps p s (ControlPlane.acknowledgeAlert p alertId s).2 := by
  unfold ControlPlane.acknowledgeAlert
  split_ifs
  · exact h.updateAlert (fun _ => rfl) fun _ => rfl
  · exact h.refl

/-- A bot with a new key and the next identifier comes in. -/
theorem addBot (h : Consistent p s) {bot : Bot} {heartbeats : String → List Heartbeat}
    (hid : bot.botId = p.uuid s.serial) (hkey : ∀ row ∈ s.bots, row.botKey ≠ bot.botKey)
    (hassigned : s.Knows bot.assigned) :
    Keeps p s
      { s with
        bots := s.bots ++ [bot]
        botDetails := Function.update s.botDetails bot.botId (some ⟨bot, none, []⟩)
        heartbeats := heartbeats
        serial := s.serial + 1 } where
  grows :=
    { versions := fun _ => List.suffix_rfl
      alerts := List.suffix_rfl
      bots := by
        rw [List.map_append]
        exact List.prefix_append _ _ }
  consistent :=
    { issued := by
        intro row hmem
        rcases List.mem_append.mp hmem with hold | hnew
        · exact issued_succ h.issued row hold
        · rw [List.mem_singleton.mp hnew]
          exact ⟨s.serial, Nat.lt_succ_self _, hid⟩
      botIds := by
        rw [List.map_append, List.map_singleton, List.nodup_append]
        refine ⟨h.botIds, List.nodup_singleton _, ?_⟩
        rintro id hmem other hother rfl
        obtain ⟨row, hrow, rfl⟩ := List.mem_map.mp hmem
        exact h.fresh row hrow ((List.mem_singleton.mp hother).trans hid)
      botKeys := by
        rw [List.map_append, List.map_singleton, List.nodup_append]
        refine ⟨h.botKeys, List.nodup_singleton _, ?_⟩
        rintro key hmem other hother rfl
        obtain ⟨row, hrow, rfl⟩ := List.mem_map.mp hmem
        exact hkey row hrow (List.mem_singleton.mp hother)
      shown := by
        intro row hmem
        dsimp only
        rcases List.mem_append.mp hmem with hold | hnew
        · rw [Function.update_of_ne (hid ▸ h.fresh row hold)]
          exact h.shown row hold
        · rw [List.mem_singleton.mp hnew, Function.update_self]
          exact ⟨_, rfl, rfl⟩
      detailed := by
        intro id detail hdetail
        dsimp only at hdetail ⊢
        by_cases hat : id = bot.botId
        · rw [hat, Function.update_self, Option.some.injEq] at hdetail
          rw [← hdetail, hat]
          exact ⟨List.mem_append_right _ List.mem_cons_self, rfl⟩
        · rw [Function.update_of_ne hat] at hdetail
          obtain ⟨hrow, hrowId⟩ := h.detailed id detail hdetail
          exact ⟨List.mem_append_left _ hrow, hrowId⟩
      alertsIssued := issued_succ h.alertsIssued
      alertIds := h.alertIds
      recent := by
        intro id detail hdetail
        dsimp only at hdetail ⊢
        by_cases hat : id = bot.botId
        · rw [hat, Function.update_self, Option.some.injEq] at hdetail
          rw [← hdetail]
          exact List.nil_prefix
        · rw [Function.update_of_ne hat] at hdetail
          exact h.recent id detail hdetail
      numbered := h.numbered
      assigned := by
        intro row hmem
        rcases List.mem_append.mp hmem with hold | hnew
        · exact h.assigned row hold
        · rw [List.mem_singleton.mp hnew]
          exact hassigned }

theorem knows_initialAssignment (s : ControlPlane) : s.Knows (s.initialAssignment p) := by
  cases hversions : s.configVersions "default" with
  | nil =>
      refine Or.inr ⟨rfl, ?_, ?_⟩
      · simp [initialAssignment, hversions]
      · simp [initialAssignment, hversions]
  | cons latest older =>
      refine Or.inl ⟨latest, ?_, ?_, ?_⟩
      · simp [initialAssignment, hversions]
      · simp [initialAssignment, hversions]
      · simp [initialAssignment, hversions]

theorem registerBot (h : Consistent p s) (botKey strategyName mode : String)
    (hostname : Option String) :
    Keeps p s (ControlPlane.registerBot p botKey strategyName mode hostname s).2 := by
  unfold ControlPlane.registerBot
  split
  next existing hfind =>
    refine h.updateBoth (fun _ => rfl) (fun _ => rfl) (fun bot hmem _ => h.assigned bot hmem) ?_
      fun _ => rfl
    intro detail hdetail
    -- the page of the bot shows the very row that was found
    obtain ⟨shown, hshown, hsame⟩ := h.shown existing (List.mem_of_find?_eq_some hfind)
    rw [hdetail, Option.some.injEq] at hshown
    rw [hshown, hsame]
  next hnone =>
    refine h.addBot rfl ?_ (knows_initialAssignment s)
    intro row hrow
    simpa using List.find?_eq_none.mp hnone row hrow

theorem recordHeartbeat (h : Consistent p s) (botId : String)
    (isProcessAlive isMarketDataAlive isOrderingAlive : Bool) (lagMs : Option Int)
    (context : Option Dict) :
    Keeps p s (ControlPlane.recordHeartbeat p botId isProcessAlive isMarketDataAlive isOrderingAlive
      lagMs context s).2 := by
  unfold ControlPlane.recordHeartbeat
  split
  · exact h.refl
  · exact h.updateBoth (fun _ => rfl) (fun _ => rfl) (fun bot hmem _ => h.assigned bot hmem)
      (fun _ _ => rfl) fun _ => rfl

theorem step (h : Consistent p s) (call : ControlCall) : Keeps p s (call.apply p s) := by
  cases call with
  | emitAlert botId level code message => exact h.emitAlert botId level code message
  | createConfigVersion configScope configJson checksum createdBy =>
      exact h.createConfigVersion configScope configJson checksum createdBy
  | assignConfig botId configScope versionNo => exact h.assignConfig botId configScope versionNo
  | acknowledgeConfigAssignment botId ackStatus ackMessage =>
      exact h.acknowledgeConfigAssignment botId ackStatus ackMessage
  | acknowledgeAlert alertId => exact h.acknowledgeAlert alertId
  | registerBot botKey strategyName mode hostname =>
      exact h.registerBot botKey strategyName mode hostname
  | recordHeartbeat botId isProcessAlive isMarketDataAlive isOrderingAlive lagMs context =>
      exact h.recordHeartbeat botId isProcessAlive isMarketDataAlive isOrderingAlive lagMs context

theorem run (h : Consistent p s) (calls : List ControlCall) :
    Keeps p s (runControlCalls p calls s) := by
  induction calls generalizing s with
  | nil => exact h.refl
  | cons call rest ih => exact (h.step call).trans (ih (h.step call).consistent)

/-- A new assignment is compared with the version assigned before, if its scope has no space
around it. -/
theorem previousVersion (h : Consistent p s) {bot : Bot} (hbot : bot ∈ s.bots)
    (hscope : bot.assigned.configScope ≠ "")
    (htrimmed : Text.strip bot.assigned.configScope = bot.assigned.configScope)
    (hassigned : bot.assigned.configVersionId ≠ none) :
    ∃ version ∈ s.configVersions bot.assigned.configScope,
      bot.assigned.configVersionId = some version.configVersionId ∧
        s.previousVersion bot.assigned = some version := by
  rcases h.assigned bot hbot with ⟨version, hversion, hnumber, hid⟩ | ⟨-, -, hnone⟩
  · refine ⟨version, hversion, hid, ?_⟩
    simp only [ControlPlane.previousVersion, htrimmed, hscope, if_false, ← hnumber]
    exact (h.numbered bot.assigned.configScope).find_versionNo hversion
  · exact absurd hnone hassigned

end Consistent

/-- After any calls the two tables of bots agree, the versions of every scope are numbered from
one without a gap and every assignment names one of them, which the next assignment of the bot
is compared with; and after any further calls nothing has been dropped. -/
theorem keeps_runControlCalls (p : Platform) (calls later : List ControlCall) :
    Consistent p (runControlCalls p calls empty) ∧
      (∀ bot ∈ (runControlCalls p calls empty).bots, bot.assigned.configScope ≠ "" →
        Text.strip bot.assigned.configScope = bot.assigned.configScope →
        bot.assigned.configVersionId ≠ none →
        ∃ version ∈ (runControlCalls p calls empty).configVersions bot.assigned.configScope,
          bot.assigned.configVersionId = some version.configVersionId ∧
            (runControlCalls p calls empty).previousVersion bot.assigned = some version) ∧
      (runControlCalls p calls empty).GrowsTo (runControlCalls p (calls ++ later) empty) := by
  have hconsistent := ((consistent_empty p).run calls).consistent
  have hsplit : runControlCalls p (calls ++ later) empty =
      runControlCalls p later (runControlCalls p calls empty) := by
    rw [runControlCalls, List.foldl_append]
    rfl
  refine ⟨hconsistent, ?_, ?_⟩
  · intro bot hbot hscope htrimmed hassigned
    exact hconsistent.previousVersion hbot hscope htrimmed hassigned
  · rw [hsplit]
    exact (hconsistent.run later).grows

end ControlPlane

end TradingPlatform.Storage

import TradingPlatform.Foundation.Runs
import TradingPlatform.Runtime.Redis

/-! # Pair locks, command by command

Acquiring a pair lock reads the entry and then writes it: a fresh entry with
`SET NX`, an entry of the same owner with a plain `SET`. Releasing reads the
entry, compares the owner and deletes it. The commands of several calls may
interleave, and an entry may expire between any two of them.
-/

namespace TradingPlatform.Runtime

open RedisRuntime

abbrev LockKey := String × String

structure AcquireRequest where
  market : String
  quotePairId : String
  payload : Dict
  /-- The instant of the call. -/
  isoNow : String

structure ReleaseRequest where
  market : String
  quotePairId : String
  strategyRunId : Option String := none
  botId : Option String := none
  ownerId : Option String := none

inductive LockRequest where
  | acquire (request : AcquireRequest)
  | release (request : ReleaseRequest)

section Requests

def AcquireRequest.key (request : AcquireRequest) : LockKey :=
  (request.market, request.quotePairId)

def AcquireRequest.document (request : AcquireRequest) : Dict :=
  storedPairLock request.market request.quotePairId request.payload request.isoNow

/-- The entry is held by the same owner, or by the same run of the same bot. -/
def AcquireRequest.owns (request : AcquireRequest) (existing : Dict) : Prop :=
  (lockText request.document "owner_id" ≠ "" ∧
      lockText existing "owner_id" = lockText request.document "owner_id") ∨
    sameRun existing (lockText request.document "strategy_run_id")
      (lockText request.document "bot_id")

def ReleaseRequest.key (request : ReleaseRequest) : LockKey :=
  (request.market, request.quotePairId)

/-- The request names an owner to compare, or a run and a bot. -/
def ReleaseRequest.named (request : ReleaseRequest) : Bool :=
  request.ownerId.isSome || (request.strategyRunId.isSome && request.botId.isSome)

def ReleaseRequest.owns (request : ReleaseRequest) (existing : Dict) : Prop :=
  (request.ownerId.getD "" ≠ "" ∧ lockText existing "owner_id" = request.ownerId.getD "") ∨
    (request.strategyRunId.getD "" ≠ "" ∧ request.botId.getD "" ≠ "" ∧
      lockText existing "strategy_run_id" = Text.strip (request.strategyRunId.getD "") ∧
      lockText existing "bot_id" = Text.strip (request.botId.getD ""))

instance AcquireRequest.decidableOwns (request : AcquireRequest) (existing : Dict) :
    Decidable (request.owns existing) :=
  inferInstanceAs (Decidable (_ ∨ _))

instance ReleaseRequest.decidableOwns (request : ReleaseRequest) (existing : Dict) :
    Decidable (request.owns existing) :=
  inferInstanceAs (Decidable (_ ∨ _))

def LockRequest.key : LockRequest → LockKey
  | acquire request => request.key
  | release request => request.key

def LockRequest.owns : LockRequest → Dict → Prop
  | acquire request => request.owns
  | release request => request.owns

end Requests

section Commands

inductive LockCommand where
  | get (key : LockKey)
  | set (key : LockKey) (document : Dict)
  | setNx (key : LockKey) (document : Dict)
  | del (key : LockKey)

inductive LockReply where
  | value (existing : Option Dict)
  | stored (ok : Bool)
  | deleted (count : Nat)

/-- What a command answers and leaves behind. -/
def LockCommand.exec (r : RedisRuntime) : LockCommand → LockReply × RedisRuntime
  | get key => (.value (r.pairLocks.lookup key), r)
  | set key document => (.stored true, { r with pairLocks := r.pairLocks.insert key document })
  | setNx key document =>
      if (r.pairLocks.lookup key).isSome then (.stored false, r)
      else (.stored true, { r with pairLocks := r.pairLocks.insert key document })
  | del key =>
      (.deleted (if (r.pairLocks.lookup key).isSome then 1 else 0),
        { r with pairLocks := r.pairLocks.erase key })

/-- How far a call has come: each phase but the first and the last is about to
send a command. -/
inductive LockPhase where
  | idle
  | ready (request : LockRequest)
  | create (request : AcquireRequest)
  | reread (request : AcquireRequest)
  | refresh (request : AcquireRequest)
  | delete (request : ReleaseRequest)
  | done (outcome : PairLockOutcome)

def LockPhase.command : LockPhase → Option LockCommand
  | idle | done _ => none
  | ready request => some (.get request.key)
  | create request => some (.setNx request.key request.document)
  | reread request => some (.get request.key)
  | refresh request => some (.set request.key request.document)
  | delete request => some (.del request.key)

/-- How a call goes on after an answer. -/
def LockPhase.resume : LockPhase → LockReply → LockPhase
  | ready (.acquire request), .value none => .create request
  | ready (.acquire request), .value (some existing) =>
      if request.owns existing then .refresh request else .done .conflict
  | ready (.release _), .value none => .done .missing
  | ready (.release request), .value (some existing) =>
      if request.named ∧ ¬request.owns existing then .done .conflict else .delete request
  | create request, .stored ok => if ok then .done .acquired else .reread request
  | reread _, .value _ => .done .conflict
  | refresh _, .stored ok => .done (if ok then .refreshed else .failed)
  | delete _, .deleted count => .done (if count = 1 then .released else .failed)
  | phase, _ => phase

end Commands

section System

/-- The entries, and the calls of every client. -/
structure LockSystem where
  redis : RedisRuntime
  phase : Nat → LockPhase

inductive LockStep where
  | call (client : Nat) (request : LockRequest)
  | command (client : Nat)
  | expire (key : LockKey)

namespace LockSystem

/-- No call is under way. -/
def start (redis : RedisRuntime) : LockSystem := ⟨redis, fun _ => .idle⟩

def entry (s : LockSystem) (key : LockKey) : Option Dict := s.redis.pairLocks.lookup key

/-- A client sends the next command of its call. -/
def send (s : LockSystem) (client : Nat) : LockSystem :=
  match (s.phase client).command with
  | none => s
  | some command =>
      let answer := command.exec s.redis
      ⟨answer.2, Function.update s.phase client ((s.phase client).resume answer.1)⟩

def step (s : LockSystem) : LockStep → LockSystem
  | .call client request =>
      match s.phase client with
      | .idle | .done _ => { s with phase := Function.update s.phase client (.ready request) }
      | _ => s
  | .command client => s.send client
  | .expire key => { s with redis.pairLocks := s.redis.pairLocks.erase key }

end LockSystem

end System

section Specification

/-- The call has passed its check, and its next command overwrites or deletes. -/
def LockPhase.writing : LockPhase → Option LockRequest
  | refresh request => some (.acquire request)
  | delete request => some (.release request)
  | _ => none

namespace LockSystem

/-- A live entry stays as it is, unless it expires or the next command is of a
call that owns it. -/
def KeepsOwner (s : LockSystem) (next : LockStep) : Prop :=
  ∀ key existing, s.entry key = some existing →
    (s.step next).entry key = some existing ∨ next = .expire key ∨
      ∃ client request, next = .command client ∧ (s.phase client).writing = some request ∧
        request.key = key ∧ request.owns existing

/-- The document that the next command of a call puts in place. -/
inductive Puts (s : LockSystem) : LockPhase → LockKey → Dict → Prop
  | refresh (request : AcquireRequest) : Puts s (.refresh request) request.key request.document
  | create (request : AcquireRequest) (hfree : s.entry request.key = none) :
      Puts s (.create request) request.key request.document

/-- Nothing is put in place that another call about to write does not own, and
no release without a name finds an entry. -/
structure Admissible (s : LockSystem) (next : LockStep) : Prop where
  puts : ∀ client key document, next = .command client → s.Puts (s.phase client) key document →
    ∀ other, other ≠ client → ∀ request, (s.phase other).writing = some request →
      request.key = key → request.owns document
  names : ∀ client request, next = .command client → s.phase client = .ready (.release request) →
    (s.entry request.key).isSome → request.named

/-- The calls about to write own what they find. -/
def OwnsEntries (s : LockSystem) : Prop :=
  ∀ client request, (s.phase client).writing = some request →
    ∀ existing, s.entry request.key = some existing → request.owns existing

/-- The calls about to refresh an entry own what they put in its place. -/
def OwnsDocuments (s : LockSystem) : Prop :=
  ∀ client request, (s.phase client).writing = some (.acquire request) →
    request.owns request.document

end LockSystem

end Specification

section Steps

theorem AcquireRequest.owns_document {request : AcquireRequest} {existing : Dict}
    (howns : request.owns existing) : request.owns request.document := by
  rcases howns with ⟨hnamed, -⟩ | hrun
  · exact Or.inl ⟨hnamed, rfl⟩
  · right
    simp only [sameRun, Bool.and_eq_true, decide_eq_true_eq] at hrun ⊢
    exact ⟨⟨hrun.1.1, trivial⟩, trivial⟩

theorem ReleaseRequest.not_owns_of_unnamed {request : ReleaseRequest}
    (hunnamed : ¬request.named) (existing : Dict) : ¬request.owns existing := by
  obtain ⟨market, quotePairId, strategyRunId, botId, ownerId⟩ := request
  cases ownerId <;> cases strategyRunId <;> cases botId <;>
    simp_all [ReleaseRequest.named, ReleaseRequest.owns]

namespace LockSystem

variable {s : LockSystem} {client other : Nat} {key : LockKey}

theorem send_eq {phase : LockPhase} {command : LockCommand} (hphase : s.phase client = phase)
    (hcommand : phase.command = some command) :
    s.send client = ⟨(command.exec s.redis).2,
      Function.update s.phase client (phase.resume (command.exec s.redis).1)⟩ := by
  subst hphase
  simp only [send, hcommand]

theorem send_phase_of_ne (hne : other ≠ client) : (s.send client).phase other = s.phase other := by
  unfold send
  split
  · rfl
  · exact Function.update_of_ne hne _ _

/-- What the next command of a call does to an entry. -/
theorem entry_send (s : LockSystem) (client : Nat) (key : LockKey) :
    (s.send client).entry key = s.entry key ∨
      (∃ document, s.Puts (s.phase client) key document ∧
        (s.send client).entry key = some document) ∨
      ((s.send client).entry key = none ∧
        ∃ request, s.phase client = .delete request ∧ request.key = key) := by
  cases hphase : s.phase client with
  | idle => exact Or.inl (by simp [send, hphase, LockPhase.command])
  | done outcome => exact Or.inl (by simp [send, hphase, LockPhase.command])
  | ready request =>
      rw [send_eq hphase rfl]
      exact Or.inl rfl
  | reread request =>
      rw [send_eq hphase rfl]
      exact Or.inl rfl
  | create request =>
      rw [send_eq hphase rfl]
      by_cases htaken : (s.redis.pairLocks.lookup request.key).isSome
      · exact Or.inl (by simp [LockCommand.exec, htaken, entry])
      · by_cases hkey : key = request.key
        · subst hkey
          refine Or.inr (Or.inl ⟨_, .create request ?_, ?_⟩)
          · simpa [entry] using htaken
          · simp [LockCommand.exec, htaken, entry, AList.lookup_insert]
        · exact Or.inl (by simp [LockCommand.exec, htaken, entry, AList.lookup_insert_ne hkey])
  | refresh request =>
      rw [send_eq hphase rfl]
      by_cases hkey : key = request.key
      · subst hkey
        exact Or.inr (Or.inl ⟨_, .refresh request, AList.lookup_insert _⟩)
      · exact Or.inl (AList.lookup_insert_ne hkey)
  | delete request =>
      rw [send_eq hphase rfl]
      by_cases hkey : key = request.key
      · subst hkey
        exact Or.inr (Or.inr ⟨AList.lookup_erase _ _, request, rfl, rfl⟩)
      · exact Or.inl (AList.lookup_erase_ne hkey)

/-- A document that a command puts in place is the entry from then on. -/
theorem entry_send_of_puts {document : Dict} (hputs : s.Puts (s.phase client) key document) :
    (s.send client).entry key = some document := by
  generalize hphase : s.phase client = phase at hputs
  cases hputs with
  | refresh request =>
      rw [send_eq hphase rfl]
      exact AList.lookup_insert _
  | create request hfree =>
      rw [send_eq hphase rfl]
      have hnone : s.redis.pairLocks.lookup request.key = none := hfree
      simp [LockCommand.exec, hnone, entry, AList.lookup_insert]

/-- A call comes to a write only by reading an entry that passes its check. -/
theorem writing_send {request : LockRequest}
    (hwriting : ((s.send client).phase client).writing = some request) :
    (∃ acquire existing, request = .acquire acquire ∧ s.phase client = .ready request ∧
        s.entry request.key = some existing ∧ acquire.owns existing) ∨
      ∃ release existing, request = .release release ∧ s.phase client = .ready request ∧
        s.entry request.key = some existing ∧ (release.named → release.owns existing) := by
  cases hphase : s.phase client with
  | idle => simp [send, hphase, LockPhase.command, LockPhase.writing] at hwriting
  | done outcome => simp [send, hphase, LockPhase.command, LockPhase.writing] at hwriting
  | ready asked =>
      rw [send_eq hphase rfl] at hwriting
      simp only [Function.update_self, LockCommand.exec] at hwriting
      cases hentry : s.redis.pairLocks.lookup asked.key with
      | none =>
          cases asked with
          | acquire acquire => simp [hentry, LockPhase.resume, LockPhase.writing] at hwriting
          | release release => simp [hentry, LockPhase.resume, LockPhase.writing] at hwriting
      | some existing =>
          cases asked with
          | acquire acquire =>
              simp only [hentry, LockPhase.resume] at hwriting
              split_ifs at hwriting with howns
              · obtain rfl := Option.some.inj hwriting
                exact Or.inl ⟨acquire, existing, rfl, rfl, hentry, howns⟩
              · exact absurd hwriting (by simp [LockPhase.writing])
          | release release =>
              simp only [hentry, LockPhase.resume] at hwriting
              split_ifs at hwriting with hrefused
              · exact absurd hwriting (by simp [LockPhase.writing])
              · obtain rfl := Option.some.inj hwriting
                refine Or.inr ⟨release, existing, rfl, rfl, hentry, fun hnamed => ?_⟩
                by_contra hnot
                exact hrefused ⟨hnamed, hnot⟩
  | create asked =>
      rw [send_eq hphase rfl] at hwriting
      simp only [Function.update_self, LockCommand.exec] at hwriting
      split_ifs at hwriting <;> simp [LockPhase.resume, LockPhase.writing] at hwriting
  | reread asked | refresh asked | delete asked =>
      rw [send_eq hphase rfl] at hwriting
      simp [LockCommand.exec, LockPhase.resume, LockPhase.writing] at hwriting

theorem call_phase_of_ne {caller : Nat} (hne : client ≠ caller) (request : LockRequest) :
    (s.step (.call caller request)).phase client = s.phase client := by
  simp only [step]
  split
  next => exact Function.update_of_ne hne _ _
  next => exact Function.update_of_ne hne _ _
  next => rfl

/-- A call begins with a read, and is moved on by its own commands only. -/
theorem writing_step_iff {next : LockStep} {request : LockRequest}
    (hne : next ≠ .command client) :
    ((s.step next).phase client).writing = some request ↔
      (s.phase client).writing = some request := by
  cases next with
  | expire key => exact Iff.rfl
  | command sender =>
      have hother : client ≠ sender := fun hsame => hne (hsame ▸ rfl)
      rw [step, send_phase_of_ne hother]
  | call caller asked =>
      by_cases hcaller : client = caller
      · subst hcaller
        cases hphase : s.phase client <;> simp [step, hphase, LockPhase.writing]
      · rw [call_phase_of_ne hcaller]

theorem entry_step_of_not_command {next : LockStep} (hnext : ∀ client, next ≠ .command client)
    (key : LockKey) :
    (s.step next).entry key = s.entry key ∨
      (next = .expire key ∧ (s.step next).entry key = none) := by
  cases next with
  | command sender => exact absurd rfl (hnext sender)
  | call caller asked =>
      left
      simp only [step]
      split <;> rfl
  | expire expired =>
      by_cases hkey : key = expired
      · subst hkey
        exact Or.inr ⟨rfl, AList.lookup_erase _ _⟩
      · exact Or.inl (AList.lookup_erase_ne hkey)

theorem ownsDocuments_start (redis : RedisRuntime) : OwnsDocuments (start redis) :=
  fun _ _ hwriting => absurd hwriting (by simp [start, LockPhase.writing])

theorem ownsEntries_start (redis : RedisRuntime) : OwnsEntries (start redis) :=
  fun _ _ hwriting => absurd hwriting (by simp [start, LockPhase.writing])

theorem OwnsDocuments.step (hdocuments : OwnsDocuments s) (next : LockStep) :
    OwnsDocuments (s.step next) := by
  intro client request hwriting
  by_cases hcommand : next = .command client
  · subst hcommand
    rcases writing_send hwriting with
      ⟨acquire, existing, hsame, -, -, howns⟩ | ⟨release, existing, hsame, -⟩
    · obtain rfl : request = acquire := by simpa using hsame
      exact AcquireRequest.owns_document howns
    · exact absurd hsame (by simp)
  · exact hdocuments client request ((writing_step_iff hcommand).mp hwriting)

/-- Every next command keeps to the owners exactly when the calls about to write
own what they find. -/
theorem keepsOwner_iff (hdocuments : OwnsDocuments s) :
    (∀ next, s.KeepsOwner next) ↔ s.OwnsEntries := by
  constructor
  · intro hkeeps client request hwriting existing hentry
    rcases hkeeps (.command client) request.key existing hentry with hsame | hexpire | howner
    · -- The entry is as it was although it was written: the very same document.
      cases hphase : s.phase client with
      | refresh acquire =>
          rw [hphase] at hwriting
          obtain rfl := Option.some.inj hwriting
          have hputs : s.Puts (s.phase client) acquire.key acquire.document := by
            rw [hphase]
            exact .refresh acquire
          have hafter := entry_send_of_puts hputs
          obtain rfl := Option.some.inj (hsame.symm.trans hafter)
          exact hdocuments client acquire (by rw [hphase, LockPhase.writing])
      | delete release =>
          rw [hphase] at hwriting
          obtain rfl := Option.some.inj hwriting
          have hafter : (s.send client).entry release.key = none := by
            rw [send_eq hphase rfl]
            exact AList.lookup_erase _ _
          exact absurd (hsame.symm.trans hafter) (by simp)
      | idle | ready | create | reread | done =>
          simp [hphase, LockPhase.writing] at hwriting
    · exact absurd hexpire (by simp)
    · obtain ⟨sender, sent, hsender, hsent, -, howns⟩ := howner
      obtain rfl : client = sender := by simpa using hsender
      obtain rfl := Option.some.inj (hwriting.symm.trans hsent)
      exact howns
  · intro howns next key existing hentry
    by_cases hcommand : ∃ client, next = .command client
    · obtain ⟨client, rfl⟩ := hcommand
      rcases entry_send s client key with hsame | ⟨document, hputs, -⟩ | ⟨-, release, hphase, hkey⟩
      · exact Or.inl (hsame.trans hentry)
      · right; right
        generalize hphase : s.phase client = phase at hputs
        cases hputs with
        | refresh request =>
            refine ⟨client, .acquire request, rfl, by rw [hphase, LockPhase.writing], rfl, ?_⟩
            exact howns client _ (by rw [hphase, LockPhase.writing]) existing hentry
        | create request hfree => exact absurd (hentry.symm.trans hfree) (by simp)
      · right; right
        subst hkey
        refine ⟨client, .release release, rfl, by rw [hphase, LockPhase.writing], rfl, ?_⟩
        exact howns client _ (by rw [hphase, LockPhase.writing]) existing hentry
    · rcases entry_step_of_not_command (s := s) (not_exists.mp hcommand) key with
        hsame | ⟨hexpire, -⟩
      · exact Or.inl (hsame.trans hentry)
      · exact Or.inr (Or.inl hexpire)

/-- A step leaves the calls about to write with what they own exactly when it is
admissible. -/
theorem ownsEntries_step_iff (howns : OwnsEntries s) (next : LockStep) :
    OwnsEntries (s.step next) ↔ s.Admissible next := by
  constructor
  · intro hafter
    refine ⟨?_, ?_⟩
    · intro client key document hnext hputs other hother request hwriting hkey
      subst hnext hkey
      have hne : LockStep.command client ≠ .command other := by simpa using hother.symm
      exact hafter other request ((writing_step_iff hne).mpr hwriting) document
        (entry_send_of_puts hputs)
    · intro client request hnext hphase hentry
      subst hnext
      obtain ⟨existing, hexisting⟩ := Option.isSome_iff_exists.mp hentry
      -- Without a name the request goes on to delete what it does not own.
      by_contra hunnamed
      have hresume : ((s.send client).phase client).writing = some (.release request) := by
        have hlookup : s.redis.pairLocks.lookup request.key = some existing := hexisting
        rw [send_eq hphase rfl]
        simp [LockCommand.exec, LockRequest.key, hlookup, LockPhase.resume, hunnamed,
          LockPhase.writing]
      have hsame : (s.send client).entry request.key = some existing := by
        rw [send_eq hphase rfl]
        exact hexisting
      exact ReleaseRequest.not_owns_of_unnamed hunnamed existing
        (hafter client _ hresume existing hsame)
  · intro hadmissible client request hwriting existing hentry
    by_cases hcommand : next = .command client
    · subst hcommand
      -- The call has just read the entry, which a read leaves as it is.
      have hread : ∀ asked, s.phase client = .ready asked →
          (s.step (.command client)).entry request.key = s.entry request.key := by
        intro asked hphase
        rw [step, send_eq hphase rfl]
        rfl
      rcases writing_send hwriting with
        ⟨acquire, found, rfl, hphase, hfound, hpassed⟩ |
        ⟨release, found, rfl, hphase, hfound, hpassed⟩
      · rw [hread _ hphase, hfound] at hentry
        obtain rfl := Option.some.inj hentry
        exact hpassed
      · have hnamed := hadmissible.names client release rfl hphase
          (Option.isSome_iff_exists.mpr ⟨found, hfound⟩)
        rw [hread _ hphase, hfound] at hentry
        obtain rfl := Option.some.inj hentry
        exact hpassed hnamed
    · have hbefore := (writing_step_iff hcommand).mp hwriting
      by_cases hother : ∃ sender, next = .command sender
      · obtain ⟨sender, rfl⟩ := hother
        have hne : client ≠ sender := by simpa [eq_comm] using hcommand
        rcases entry_send s sender request.key with
          hsame | ⟨document, hputs, hdocument⟩ | ⟨hnone, -⟩
        · exact howns client request hbefore existing (hsame.symm.trans hentry)
        · obtain rfl := Option.some.inj (hdocument.symm.trans hentry)
          exact hadmissible.puts sender request.key _ rfl hputs client hne request hbefore rfl
        · exact absurd (hnone.symm.trans hentry) (by simp)
      · rcases entry_step_of_not_command (s := s) (not_exists.mp hother) request.key with
          hsame | ⟨-, hnone⟩
        · exact howns client request hbefore existing (hsame.symm.trans hentry)
        · exact absurd (hnone.symm.trans hentry) (by simp)

end LockSystem

end Steps

section Uninterrupted

namespace LockSystem

variable {s : LockSystem} {client : Nat}

/-- Without interruption the commands of an acquisition do what it does as a whole. -/
theorem acquire_uninterrupted (hidle : s.phase client = .idle) (request : AcquireRequest) :
    let last := Runs.after step s
      [.call client (.acquire request), .command client, .command client]
    let whole := s.redis.acquirePairLock request.market request.quotePairId request.payload
      request.isoNow
    last.redis = whole.2 ∧ last.phase client = .done whole.1 := by
  cases hlookup : s.redis.pairLocks.lookup (request.market, request.quotePairId) with
  | none =>
      simp [step, hidle, send, LockPhase.command, LockCommand.exec, LockRequest.key,
        AcquireRequest.key, hlookup, LockPhase.resume, acquirePairLock, AcquireRequest.document]
  | some existing =>
      by_cases howns : request.owns existing
      · have hwhole := howns
        simp only [AcquireRequest.owns, AcquireRequest.document] at hwhole
        simp [step, hidle, send, LockPhase.command, LockCommand.exec, LockRequest.key,
          AcquireRequest.key, hlookup, LockPhase.resume, acquirePairLock,
          AcquireRequest.document, howns, hwhole]
      · have hwhole := howns
        simp only [AcquireRequest.owns, AcquireRequest.document] at hwhole
        simp [step, hidle, send, LockPhase.command, LockCommand.exec, LockRequest.key,
          AcquireRequest.key, hlookup, LockPhase.resume, acquirePairLock, howns, hwhole]

/-- So do those of a release by its owner. -/
theorem release_uninterrupted (hidle : s.phase client = .idle)
    (market quotePairId ownerId : String) :
    let last := Runs.after step s
      [.call client (.release { market, quotePairId, ownerId }), .command client,
        .command client]
    let whole := s.redis.releasePairLock market quotePairId ownerId
    last.redis = whole.2 ∧ last.phase client = .done whole.1 := by
  cases hlookup : s.redis.pairLocks.lookup (market, quotePairId) with
  | none =>
      simp [step, hidle, send, LockPhase.command, LockCommand.exec, LockRequest.key,
        ReleaseRequest.key, hlookup, LockPhase.resume, releasePairLock]
  | some existing =>
      by_cases howns : ownerId ≠ "" ∧ lockText existing "owner_id" = ownerId
      · simp [step, hidle, send, LockPhase.command, LockCommand.exec, LockRequest.key,
          ReleaseRequest.key, hlookup, LockPhase.resume, releasePairLock, ReleaseRequest.owns,
          howns]
      · simp [step, hidle, send, LockPhase.command, LockCommand.exec, LockRequest.key,
          ReleaseRequest.key, hlookup, LockPhase.resume, releasePairLock, ReleaseRequest.owns,
          ReleaseRequest.named, howns]

end LockSystem

end Uninterrupted

section Runs

namespace LockSystem

/-- The entries keep their owners in every state of a run, whatever command comes
next, exactly when every step of the run is admissible. -/
theorem runs_keepOwner_iff (redis : RedisRuntime) (steps : List LockStep) :
    Runs.Throughout step (fun s => ∀ next, s.KeepsOwner next) (start redis) steps ↔
      Runs.Along step Admissible (start redis) steps := by
  have hdocuments : Runs.Throughout step OwnsDocuments (start redis) steps :=
    Runs.throughout_of_step (ownsDocuments_start redis) (fun _ next hs => hs.step next) steps
  have hstates : Runs.Throughout step (fun s => ∀ next, s.KeepsOwner next) (start redis) steps ↔
      Runs.Throughout step OwnsEntries (start redis) steps :=
    forall₂_congr fun done hdone => keepsOwner_iff (hdocuments done hdone)
  exact hstates.trans
    (Runs.throughout_iff_along (ownsEntries_start redis)
      fun s next hs => ownsEntries_step_iff hs next)

/-- A run of a bot that takes the lock of a market. -/
def acquisitionBy (runId : String) : AcquireRequest :=
  { market := "XRP-KRW", quotePairId := "upbit:bithumb"
    payload := [("owner_id", .str ("bot:" ++ runId)), ("strategy_run_id", .str runId),
      ("bot_id", .str "bot")]
    isoNow := "" }

/-- A run refreshes its lock: it reads the entry, which then expires; another run
takes the lock before the refresh is written. -/
def refreshAfterExpiry : List LockStep :=
  [.call 0 (.acquire (acquisitionBy "run1")), .command 0, .command 0,
    .call 0 (.acquire (acquisitionBy "run1")), .command 0,
    .expire ("XRP-KRW", "upbit:bithumb"),
    .call 1 (.acquire (acquisitionBy "run2")), .command 1, .command 1]

/-- The refresh overwrites the entry of the other run. -/
theorem refreshAfterExpiry_overwrites :
    ¬(Runs.after step (start .empty) refreshAfterExpiry).KeepsOwner (.command 0) := by
  intro hkeeps
  have htaken : ((Runs.after step (start .empty) refreshAfterExpiry).entry
      ("XRP-KRW", "upbit:bithumb")).map (fun lock => (lockText lock "owner_id",
        lockText lock "strategy_run_id")) = some ("bot:run2", "run2") := by decide +kernel
  obtain ⟨existing, hexisting, howner⟩ := Option.map_eq_some_iff.mp htaken
  rw [Prod.mk.injEq] at howner
  rcases hkeeps _ existing hexisting with hsame | hexpire | howns
  · have hwritten : (((Runs.after step (start .empty) refreshAfterExpiry).step
        (.command 0)).entry ("XRP-KRW", "upbit:bithumb")).map (lockText · "owner_id") =
          some "bot:run1" := by decide +kernel
    rw [hsame, Option.map_some, howner.1] at hwritten
    exact absurd hwritten (by decide)
  · exact absurd hexpire (by simp)
  · obtain ⟨client, request, hclient, hwriting, -, howns⟩ := howns
    obtain rfl : client = 0 := by simpa using hclient.symm
    have hrefresh : ((Runs.after step (start .empty) refreshAfterExpiry).phase 0).writing =
        some (.acquire (acquisitionBy "run1")) := by rfl
    obtain rfl := Option.some.inj (hrefresh.symm.trans hwriting)
    have hnamed : lockText (acquisitionBy "run1").document "owner_id" = "bot:run1" ∧
        lockText (acquisitionBy "run1").document "strategy_run_id" = "run1" := by decide +kernel
    rcases howns with ⟨-, hother⟩ | hrun
    · rw [howner.1, hnamed.1] at hother
      exact absurd hother (by decide)
    · simp [sameRun, howner.2, hnamed.2] at hrun

end LockSystem

end Runs

end TradingPlatform.Runtime

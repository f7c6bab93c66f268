import Mathlib.Data.List.Nodup
import TradingPlatform.Foundation.Runs
import TradingPlatform.RedisClient.Codec

/-! # The connection pool of the Redis client

Any number of calls share the connections of a client. A call takes a connection under
the lock of the pool, connects it when it has no socket, sends its command and reads one
reply; it gives the connection back, or closes it and counts it out. The steps of the
calls interleave, the server answers every command it is sent, and a socket may fail at
any point.
-/

namespace TradingPlatform.RedisClient

open Reading Utf8

section Connections

structure RedisConnectionConfig where
  db : Int
  username : Option (List CodePoint)
  password : Option (List CodePoint)

def asciiText (text : String) : List CodePoint := text.toList.map .scalar

/-- The commands a new connection sends before it is used. -/
def RedisConnectionConfig.handshake (config : RedisConnectionConfig) : List (List Part) :=
  let auth : List (List Part) :=
    match config.username, config.password with
    | some username, password =>
        [[.text (asciiText "AUTH"), .text username, .text (password.getD [])]]
    | none, some password => [[.text (asciiText "AUTH"), .text password]]
    | none, none => []
  auth ++
    if config.db = 0 then [] else
      [[.text (asciiText "SELECT"), .text (asciiText (toString config.db))]]

/-- The socket of a connection, with what the server has sent on it and was not read. What
a failed read leaves is unknown. -/
inductive Socket where
  | closed
  | connected (unread : List UInt8)
  | broken
deriving DecidableEq, Repr

abbrev ConnectionId := Nat

end Connections

section Calls

/-- What a call fails with: a read, a socket, or a part that has no encoding. -/
inductive ExecuteError where
  | reply (failure : Failure)
  | socket
  | encoding

/-- Where a call is. The commands it has still to send end with its own. -/
inductive Phase where
  | acquiring
  | starting (connection : ConnectionId)
  | connecting (connection : ConnectionId)
  | sending (connection : ConnectionId) (commands : List (List Part))
  | receiving (connection : ConnectionId) (commands : List (List Part))
  | releasing (connection : ConnectionId) (response : Reply)
  | raised (connection : ConnectionId) (error : ExecuteError)
  | discarding (connection : ConnectionId) (error : ExecuteError)
  | finished (result : Except ExecuteError Reply)

/-- The connection a call has in its hands. -/
def Phase.connection : Phase → Option ConnectionId
  | .acquiring | .finished _ => none
  | .starting connection | .connecting connection | .sending connection _
  | .receiving connection _ | .releasing connection _ | .raised connection _
  | .discarding connection _ => some connection

/-- A call of `execute`, with the last command it has sent and the server's answer. -/
structure Call where
  command : List Part
  phase : Phase
  exchange : Option (List UInt8 × RespValue)

def Call.connection (call : Call) : Option ConnectionId := call.phase.connection

end Calls

section Steps

/-- The pool, its calls, and the connections on which an error has occurred. The
connection that was given back last comes first. -/
structure PoolState where
  idle : List ConnectionId
  openConnections : Nat
  created : Nat
  sockets : ConnectionId → Socket
  calls : List Call
  failed : List ConnectionId

def PoolState.start : PoolState where
  idle := []
  openConnections := 0
  created := 0
  sockets := fun _ => .closed
  calls := []
  failed := []

/-- What a call does next, and what it meets with. -/
inductive Action where
  | acquire
  | enter
  | connect (succeeds : Bool)
  /-- The server's answer, unless the socket fails. -/
  | send (answer : Option RespValue)
  /-- How many bytes arrive before the stream ends, unless the socket fails. -/
  | receive (arrived : Option Nat)
  | release
  | close
  | discard

inductive PoolEvent where
  | execute (command : List Part)
  | act (call : Nat) (action : Action)

namespace PoolState

variable (s : PoolState) (i : Nat) (call : Call) (connection : ConnectionId)

/-- A call goes on, leaving its connection with this socket. -/
def advance (socket : Socket) (next : Call) : PoolState :=
  { s with
    sockets := Function.update s.sockets connection socket
    calls := s.calls.set i next }

/-- An error occurs on the connection of a call. -/
def raises (socket : Socket) (error : ExecuteError) : PoolState :=
  { s.advance i connection socket { call with phase := .raised connection error } with
    failed := connection :: s.failed }

/-- Take a connection out of the pool, open another one, or wait. -/
def acquire (limit : Nat) : PoolState :=
  match s.idle with
  | connection :: rest =>
      { s with
        idle := rest
        calls := s.calls.set i { call with phase := .starting connection } }
  | [] =>
      if s.openConnections < limit then
        { s with
          openConnections := s.openConnections + 1
          created := s.created + 1
          calls := s.calls.set i { call with phase := .starting s.created } }
      else s

def enter : PoolState :=
  if s.sockets connection = .closed then
    s.advance i connection .closed { call with phase := .connecting connection }
  else
    s.advance i connection (s.sockets connection)
      { call with phase := .sending connection [call.command] }

def connect (config : RedisConnectionConfig) (succeeds : Bool) : PoolState :=
  if succeeds then
    s.advance i connection (.connected [])
      { call with phase := .sending connection (config.handshake ++ [call.command]) }
  else s.raises i call connection .closed .socket

def send (command : List Part) (rest : List (List Part)) (answer : Option RespValue) : PoolState :=
  match s.sockets connection, encodeCommand command, answer with
  | .connected unread, some bytes, some value =>
      s.advance i connection (.connected (unread ++ value.encode))
        { call with phase := .receiving connection rest, exchange := some (bytes, value) }
  | .connected _, none, _ => s.raises i call connection .closed .encoding
  | _, _, _ => s.raises i call connection .closed .socket

/-- A read that fails closes the connection while it is being set up, and where it is a
`ValueError`. -/
def socketAfter (rest : List (List Part)) (failure : Failure) : Socket :=
  if rest ≠ [] ∨ failure = .valueError then .closed else .broken

def receive (rest : List (List Part)) (arrived : Option Nat) : PoolState :=
  match s.sockets connection, arrived with
  | .connected unread, some length =>
      match readResponse (unread.take length) with
      | .ok (reply, left) =>
          s.advance i connection (.connected (left ++ unread.drop length))
            { call with
              phase :=
                if rest = [] then .releasing connection reply else .sending connection rest }
      | .error failure => s.raises i call connection (socketAfter rest failure) (.reply failure)
  | _, _ => s.raises i call connection .closed .socket

def release (reply : Reply) : PoolState :=
  { s with
    idle := connection :: s.idle
    calls := s.calls.set i { call with phase := .finished (.ok reply) } }

def close (error : ExecuteError) : PoolState :=
  s.advance i connection .closed { call with phase := .discarding connection error }

def discard (error : ExecuteError) : PoolState :=
  { s with
    openConnections := s.openConnections - 1
    calls := s.calls.set i { call with phase := .finished (.error error) } }

/-- A call does what its phase allows. -/
def act (config : RedisConnectionConfig) (limit : Nat) (action : Action) : PoolState :=
  match call.phase, action with
  | .acquiring, .acquire => s.acquire i call limit
  | .starting connection, .enter => s.enter i call connection
  | .connecting connection, .connect succeeds => s.connect i call connection config succeeds
  | .sending connection (command :: rest), .send answer =>
      s.send i call connection command rest answer
  | .receiving connection rest, .receive arrived => s.receive i call connection rest arrived
  | .releasing connection reply, .release => s.release i call connection reply
  | .raised connection error, .close => s.close i call connection error
  | .discarding _ error, .discard => s.discard i call error
  | _, _ => s

end PoolState

def PoolState.step (config : RedisConnectionConfig) (maxConnections : Int) (s : PoolState) :
    PoolEvent → PoolState
  | .execute command => { s with calls := s.calls ++ [⟨command, .acquiring, none⟩] }
  | .act i action =>
      (s.calls[i]?).elim s fun call => s.act i call config (max 1 maxConnections).toNat action

end Steps

section Meaning

/-- The server has answered the command of a call, and this is the answer. -/
def Call.Answered (call : Call) (reply : Reply) : Prop :=
  ∃ bytes value, encodeCommand call.command = some bytes ∧
    call.exchange = some (bytes, value) ∧ value.decoded = .ok reply

namespace PoolState

/-- The connections that calls have in their hands. -/
def inUse (s : PoolState) : List ConnectionId := s.calls.filterMap Call.connection

/-- The connection that the next call to acquire one is given. -/
def handedOut (s : PoolState) (limit : Nat) : Option ConnectionId :=
  s.idle.head?.or (if s.openConnections < limit then some s.created else none)

/-- What a pool keeps to. -/
structure Sound (maxConnections : Int) (s : PoolState) : Prop where
  exclusive : s.inUse.Nodup
  notIdle : ∀ connection ∈ s.inUse, connection ∉ s.idle
  counted : s.openConnections = s.idle.length + s.inUse.length
  bounded : (s.openConnections : Int) ≤ max 1 maxConnections
  discarded : ∀ connection ∈ s.failed, connection ∉ s.idle ∧
    s.handedOut (max 1 maxConnections).toNat ≠ some connection
  atBoundary : ∀ connection ∈ s.idle, s.sockets connection = .connected []
  ownReply : ∀ call ∈ s.calls, ∀ reply, call.phase = .finished (.ok reply) → call.Answered reply

end PoolState

end Meaning

section Invariants

/-- The connection of a call on which no error was raised. -/
def Phase.healthy : Phase → Option ConnectionId
  | .acquiring | .raised _ _ | .discarding _ _ | .finished _ => none
  | .starting connection | .connecting connection | .sending connection _
  | .receiving connection _ | .releasing connection _ => some connection

/-- A call has its connection where its phase needs it. -/
def Call.Fits (call : Call) (socket : Socket) : Prop :=
  match call.phase with
  | .starting _ => socket = .closed ∨ socket = .connected []
  | .connecting _ => socket = .closed
  | .sending _ commands => socket = .connected [] ∧ commands.getLast? = some call.command
  | .receiving _ commands => ∃ bytes value, call.exchange = some (bytes, value) ∧
      socket = .connected value.encode ∧
      (commands = [] → encodeCommand call.command = some bytes) ∧
      (commands ≠ [] → commands.getLast? = some call.command)
  | .releasing _ reply => socket = .connected [] ∧ call.Answered reply
  | .acquiring | .raised _ _ | .discarding _ _ | .finished _ => True

structure Call.Ok (sockets : ConnectionId → Socket) (failed : List ConnectionId) (call : Call) :
    Prop where
  healthy : ∀ connection, call.phase.healthy = some connection →
    connection ∉ failed ∧ call.Fits (sockets connection)
  answered : ∀ reply, call.phase = .finished (.ok reply) → call.Answered reply

/-- What the steps of a pool keep. -/
structure Coherent (limit : Nat) (s : PoolState) : Prop where
  nodup : (s.idle ++ s.inUse).Nodup
  counted : s.openConnections = s.idle.length + s.inUse.length
  bounded : s.openConnections ≤ limit
  known : ∀ connection ∈ s.idle ++ s.inUse, connection < s.created
  fresh : ∀ connection, s.created ≤ connection → s.sockets connection = .closed
  atBoundary : ∀ connection ∈ s.idle, s.sockets connection = .connected []
  discarded : ∀ connection ∈ s.failed, connection < s.created ∧ connection ∉ s.idle
  calls : ∀ call ∈ s.calls, call.Ok s.sockets s.failed

variable {sockets sockets' : ConnectionId → Socket} {failed failed' : List ConnectionId}
  {call next : Call} {connection : ConnectionId} {i limit : Nat} {s : PoolState}

theorem Phase.connection_of_healthy {phase : Phase} (hhealthy : phase.healthy = some connection) :
    phase.connection = some connection := by
  cases phase <;> first | exact hhealthy | cases hhealthy

/-- What happens to one connection does not matter to the calls that have others. -/
theorem Call.Ok.frame (hok : call.Ok sockets failed)
    (hother : call.connection ≠ some connection)
    (hsockets : ∀ other, other ≠ connection → sockets' other = sockets other)
    (hfailed : ∀ other ∈ failed', other ∈ failed ∨ other = connection) :
    call.Ok sockets' failed' := by
  refine ⟨fun other hhealthy => ?_, hok.answered⟩
  have hne : other ≠ connection := by
    rintro rfl
    exact hother (Phase.connection_of_healthy hhealthy)
  obtain ⟨hfree, hfits⟩ := hok.healthy other hhealthy
  rw [hsockets other hne]
  exact ⟨fun hmem => (hfailed other hmem).elim hfree hne, hfits⟩

end Invariants

section OneCall

variable {calls front back : List Call} {call next : Call} {connection : ConnectionId} {i : Nat}

/-- A call among the others. -/
theorem exists_split (hcall : calls[i]? = some call) :
    ∃ front back, calls = front ++ call :: back ∧
      ∀ next, calls.set i next = front ++ next :: back := by
  obtain ⟨hlength, hget⟩ := List.getElem?_eq_some_iff.mp hcall
  refine ⟨calls.take i, calls.drop (i + 1), ?_, fun next => ?_⟩
  · rw [← hget, List.getElem_cons_drop, List.take_append_drop]
  · rw [List.set_eq_take_append_cons_drop, if_pos hlength]

def connectionsOf (calls : List Call) : List ConnectionId := calls.filterMap Call.connection

theorem connectionsOf_split_some (hconnection : call.connection = some connection) :
    connectionsOf (front ++ call :: back) =
      connectionsOf front ++ connection :: connectionsOf back := by
  rw [connectionsOf, List.filterMap_append, List.filterMap_cons_some hconnection]
  rfl

theorem connectionsOf_split_none (hconnection : call.connection = none) :
    connectionsOf (front ++ call :: back) = connectionsOf front ++ connectionsOf back := by
  rw [connectionsOf, List.filterMap_append, List.filterMap_cons_none hconnection]
  rfl

theorem ne_of_notMem_connectionsOf (hfree : connection ∉ connectionsOf calls) :
    ∀ other ∈ calls, other.connection ≠ some connection :=
  fun other hother heq => hfree (List.mem_filterMap.mpr ⟨other, hother, heq⟩)

end OneCall

section Steps

variable {call next : Call} {connection : ConnectionId} {socket : Socket} {i limit : Nat}
  {s : PoolState} {failed : List ConnectionId}

/-- A step of a call that keeps its connection. -/
theorem Coherent.advance (hs : Coherent limit s) (hcall : s.calls[i]? = some call)
    (hconnection : call.connection = some connection)
    (hnext : next.connection = some connection)
    (hfailed : ∀ other ∈ failed, other ∈ s.failed ∨ other = connection)
    (hok : next.Ok (Function.update s.sockets connection socket) failed) :
    Coherent limit { s.advance i connection socket next with failed := failed } := by
  obtain ⟨front, back, hsplit, hset⟩ := exists_split hcall
  have hinUse : s.inUse = connectionsOf front ++ connection :: connectionsOf back := by
    rw [PoolState.inUse, hsplit]
    exact connectionsOf_split_some hconnection
  have hmem : connection ∈ s.inUse := by
    rw [hinUse]
    exact List.mem_append_right _ List.mem_cons_self
  have hidle : connection ∉ s.idle := fun hidle =>
    (List.nodup_append.mp hs.nodup).2.2 connection hidle connection hmem rfl
  have hknown : connection < s.created := hs.known connection (List.mem_append_right _ hmem)
  -- no other call has the connection, so the sockets of the others stay as they are
  have hothers : connection ∉ connectionsOf front ++ connectionsOf back := by
    have hnodup := (List.nodup_append.mp hs.nodup).2.1
    rw [hinUse, List.nodup_middle] at hnodup
    exact (List.nodup_cons.mp hnodup).1
  have hinUse' : PoolState.inUse { s.advance i connection socket next with failed := failed } =
      s.inUse := by
    rw [hinUse, PoolState.inUse]
    change connectionsOf (s.calls.set i next) = _
    rw [hset, connectionsOf_split_some hnext]
  have hsockets : ∀ other, other ≠ connection →
      Function.update s.sockets connection socket other = s.sockets other :=
    fun other hne => Function.update_of_ne hne _ _
  refine ⟨hinUse' ▸ hs.nodup, hinUse' ▸ hs.counted, hs.bounded, hinUse' ▸ hs.known, ?_, ?_, ?_, ?_⟩
  · intro other hother
    exact (hsockets other (hknown.trans_le hother).ne').trans (hs.fresh other hother)
  · intro other hother
    have hne : other ≠ connection := fun heq => hidle (heq ▸ hother)
    exact (hsockets other hne).trans (hs.atBoundary other hother)
  · intro other hother
    rcases hfailed other hother with hold | rfl
    · exact hs.discarded other hold
    · exact ⟨hknown, hidle⟩
  · intro other hother
    change other ∈ s.calls.set i next at hother
    rw [hset, List.mem_append, List.mem_cons] at hother
    have hframe : other ∈ front ++ back → other.Ok _ failed := fun hmem => by
      have hold : other ∈ s.calls := by
        rw [hsplit, List.mem_append, List.mem_cons]
        exact (List.mem_append.mp hmem).imp_right Or.inr
      have hfree : connection ∉ connectionsOf (front ++ back) := by
        rwa [connectionsOf, List.filterMap_append]
      have hne := ne_of_notMem_connectionsOf hfree other hmem
      exact (hs.calls other hold).frame hne hsockets hfailed
    rcases hother with hfront | rfl | hback
    · exact hframe (List.mem_append_left _ hfront)
    · exact hok
    · exact hframe (List.mem_append_right _ hback)

/-- An error on the connection of a call. -/
theorem Coherent.raises (hs : Coherent limit s) (hcall : s.calls[i]? = some call)
    (hconnection : call.connection = some connection) (error : ExecuteError) :
    Coherent limit (s.raises i call connection socket error) := by
  refine hs.advance hcall hconnection rfl (fun other hother => ?_) ⟨?_, ?_⟩
  · exact (List.mem_cons.mp hother).symm
  · intro other hother
    cases hother
  · intro reply hreply
    cases hreply

/-- Only a whole answer is read, and nothing is left of it. -/
theorem read_whole {value : RespValue} {length : Nat} {reply : Reply} {left : List UInt8}
    (hread : readResponse (value.encode.take length) = .ok (reply, left)) :
    value.decoded = .ok reply ∧ left ++ value.encode.drop length = [] := by
  by_cases hwhole : value.encode.take length = value.encode
  · have hgives := gives_readResponse value []
    rw [List.append_nil, ← hwhole, hread] at hgives
    have hlength : value.encode.drop length = [] := by
      have hall := congrArg List.length (List.take_append_drop length value.encode)
      rw [List.length_append, hwhole] at hall
      exact List.length_eq_zero_iff.mp (Nat.add_eq_left.mp hall)
    cases hdecoded : value.decoded with
    | error message =>
        rw [hdecoded] at hgives
        cases hgives
    | ok answer =>
        rw [hdecoded] at hgives
        obtain ⟨rfl, rfl⟩ := Prod.mk.inj (Except.ok.inj hgives)
        exact ⟨rfl, hlength⟩
  · have hcut := isOk_readResponse_of_cut value (List.take_prefix length _) hwhole
    rw [hread] at hcut
    cases hcut

/-- A step of a call that leaves everything but its own phase and socket. -/
theorem Coherent.goesOn (hs : Coherent limit s) (hcall : s.calls[i]? = some call)
    (hconnection : call.connection = some connection) (hnext : next.connection = some connection)
    (hok : next.Ok (Function.update s.sockets connection socket) s.failed) :
    Coherent limit (s.advance i connection socket next) :=
  hs.advance hcall hconnection hnext (fun _ hother => Or.inl hother) hok

/-- A call whose connection is healthy after its step. -/
theorem Call.ok_update {sockets : ConnectionId → Socket} (hfree : connection ∉ failed)
    (hhealthy : next.phase.healthy = some connection) (hfits : next.Fits socket) :
    next.Ok (Function.update sockets connection socket) failed := by
  refine ⟨fun other hother => ?_, fun reply hreply => ?_⟩
  · rw [hhealthy, Option.some.injEq] at hother
    rw [← hother, Function.update_self]
    exact ⟨hfree, hfits⟩
  · rw [hreply] at hhealthy
    cases hhealthy

theorem Coherent.ok (hs : Coherent limit s) (hcall : s.calls[i]? = some call) :
    call.Ok s.sockets s.failed :=
  hs.calls call (List.mem_of_getElem? hcall)

theorem Coherent.set_ok (hs : Coherent limit s) (hok : next.Ok s.sockets s.failed) :
    ∀ call ∈ s.calls.set i next, call.Ok s.sockets s.failed := by
  intro call hcall
  rcases List.mem_or_eq_of_mem_set hcall with hold | rfl
  · exact hs.calls call hold
  · exact hok

theorem coherent_start (limit : Nat) : Coherent limit .start where
  nodup := List.nodup_nil
  counted := rfl
  bounded := Nat.zero_le _
  known := fun _ hmem => absurd hmem List.not_mem_nil
  fresh := fun _ _ => rfl
  atBoundary := fun _ hmem => absurd hmem List.not_mem_nil
  discarded := fun _ hmem => absurd hmem List.not_mem_nil
  calls := fun _ hmem => absurd hmem List.not_mem_nil

/-- A connection is taken out of the pool, or opened. -/
theorem Coherent.acquire (hs : Coherent limit s) (hcall : s.calls[i]? = some call)
    (hphase : call.phase = .acquiring) : Coherent limit (s.acquire i call limit) := by
  obtain ⟨front, back, hsplit, hset⟩ := exists_split hcall
  have hinUse : s.inUse = connectionsOf front ++ connectionsOf back := by
    rw [PoolState.inUse, hsplit]
    exact connectionsOf_split_none (by rw [Call.connection, hphase]; rfl)
  have htaken : ∀ connection, connectionsOf
      (s.calls.set i { call with phase := .starting connection }) =
        connectionsOf front ++ connection :: connectionsOf back := fun connection => by
    rw [hset]
    exact connectionsOf_split_some rfl
  unfold PoolState.acquire
  split
  next connection rest hidle =>
    -- an idle connection changes hands: the connections are the same ones
    have hperm : (rest ++ (connectionsOf front ++ connection :: connectionsOf back)).Perm
        (s.idle ++ s.inUse) := by
      rw [hidle, hinUse, ← List.append_assoc]
      exact List.perm_middle.trans (by rw [List.append_assoc]; rfl)
    have hmem : connection ∈ s.idle := hidle ▸ List.mem_cons_self
    refine ⟨?_, ?_, hs.bounded, ?_, hs.fresh, ?_, ?_, hs.set_ok ⟨?_, ?_⟩⟩
    · change (rest ++ connectionsOf _).Nodup
      rw [htaken]
      exact hperm.nodup_iff.mpr hs.nodup
    · change s.openConnections = rest.length + (connectionsOf _).length
      have hlength := hperm.length_eq
      rw [htaken, hs.counted, ← List.length_append, ← List.length_append, hlength]
    · change ∀ other ∈ rest ++ connectionsOf _, other < s.created
      rw [htaken]
      exact fun other hother => hs.known other (hperm.mem_iff.mp hother)
    · exact fun other hother => hs.atBoundary other (hidle ▸ List.mem_cons_of_mem _ hother)
    · intro other hother
      obtain ⟨hknown, hfree⟩ := hs.discarded other hother
      exact ⟨hknown, fun hrest => hfree (hidle ▸ List.mem_cons_of_mem _ hrest)⟩
    · intro other hother
      obtain rfl : connection = other := Option.some.inj hother
      exact ⟨fun hfailed => (hs.discarded _ hfailed).2 hmem, Or.inr (hs.atBoundary _ hmem)⟩
    · intro reply hreply
      cases hreply
  next hidle =>
    split
    next hopen =>
      -- a new connection is opened, under a number that none has had
      have hperm : (connectionsOf front ++ s.created :: connectionsOf back).Perm
          (s.created :: s.inUse) := hinUse ▸ List.perm_middle
      have hnew : s.created ∉ s.inUse := fun hmem =>
        Nat.lt_irrefl _ (hs.known _ (List.mem_append_right _ hmem))
      refine ⟨?_, ?_, hopen, ?_, ?_, ?_, ?_, hs.set_ok ⟨?_, ?_⟩⟩
      · change (s.idle ++ connectionsOf _).Nodup
        rw [hidle, htaken]
        have hnodup := hs.nodup
        rw [hidle] at hnodup
        exact hperm.nodup_iff.mpr (List.nodup_cons.mpr ⟨hnew, hnodup⟩)
      · change s.openConnections + 1 = s.idle.length + (connectionsOf _).length
        rw [htaken, hperm.length_eq, hs.counted, List.length_cons, Nat.add_assoc]
      · change ∀ other ∈ s.idle ++ connectionsOf _, other < s.created + 1
        rw [hidle, htaken]
        intro other hother
        rcases List.mem_cons.mp (hperm.mem_iff.mp hother) with rfl | hold
        · exact Nat.lt_succ_self _
        · exact Nat.lt_succ_of_lt (hs.known other (List.mem_append_right _ hold))
      · exact fun other hother => hs.fresh other (Nat.le_of_succ_le hother)
      · exact hs.atBoundary
      · intro other hother
        obtain ⟨hknown, hfree⟩ := hs.discarded other hother
        exact ⟨Nat.lt_succ_of_lt hknown, hfree⟩
      · intro other hother
        obtain rfl : s.created = other := Option.some.inj hother
        exact ⟨fun hfailed => Nat.lt_irrefl _ (hs.discarded _ hfailed).1,
          Or.inl (hs.fresh _ le_rfl)⟩
      · intro reply hreply
        cases hreply
    -- at the limit the call goes on waiting
    next => exact hs

theorem Coherent.enter (hs : Coherent limit s) (hcall : s.calls[i]? = some call)
    (hphase : call.phase = .starting connection) :
    Coherent limit (s.enter i call connection) := by
  have hconnection : call.connection = some connection := by rw [Call.connection, hphase]; rfl
  obtain ⟨hfree, hfits⟩ := (hs.ok hcall).healthy connection (by rw [hphase]; rfl)
  unfold Call.Fits at hfits
  rw [hphase] at hfits
  unfold PoolState.enter
  split
  next => exact hs.goesOn hcall hconnection rfl (Call.ok_update hfree rfl rfl)
  next hopen =>
    refine hs.goesOn hcall hconnection rfl (Call.ok_update hfree rfl ⟨?_, rfl⟩)
    exact hfits.resolve_left hopen

theorem Coherent.connect (hs : Coherent limit s) (hcall : s.calls[i]? = some call)
    (hphase : call.phase = .connecting connection) (config : RedisConnectionConfig)
    (succeeds : Bool) : Coherent limit (s.connect i call connection config succeeds) := by
  have hconnection : call.connection = some connection := by rw [Call.connection, hphase]; rfl
  obtain ⟨hfree, -⟩ := (hs.ok hcall).healthy connection (by rw [hphase]; rfl)
  unfold PoolState.connect
  split
  next =>
    refine hs.goesOn hcall hconnection rfl (Call.ok_update hfree rfl ⟨rfl, ?_⟩)
    exact List.getLast?_concat
  next => exact hs.raises hcall hconnection .socket

theorem Coherent.send (hs : Coherent limit s) (hcall : s.calls[i]? = some call)
    {command : List Part} {rest : List (List Part)}
    (hphase : call.phase = .sending connection (command :: rest)) (answer : Option RespValue) :
    Coherent limit (s.send i call connection command rest answer) := by
  have hconnection : call.connection = some connection := by rw [Call.connection, hphase]; rfl
  obtain ⟨hfree, hfits⟩ := (hs.ok hcall).healthy connection (by rw [hphase]; rfl)
  unfold Call.Fits at hfits
  rw [hphase] at hfits
  obtain ⟨hsocket, hlast⟩ := hfits
  unfold PoolState.send
  split
  next unread bytes value hunread hencoded =>
    rw [hsocket, Socket.connected.injEq] at hunread
    refine hs.goesOn hcall hconnection rfl
      (Call.ok_update hfree rfl ⟨bytes, value, rfl, ?_, ?_, ?_⟩)
    · rw [← hunread, List.nil_append]
    · rintro rfl
      rw [List.getLast?_singleton, Option.some.injEq] at hlast
      rw [← hlast]
      exact hencoded
    · intro hmore
      rwa [List.getLast?_cons_of_ne_nil hmore] at hlast
  next => exact hs.raises hcall hconnection .encoding
  next => exact hs.raises hcall hconnection .socket

/-- A whole answer is read and nothing more. -/
theorem Coherent.receive (hs : Coherent limit s) (hcall : s.calls[i]? = some call)
    {rest : List (List Part)} (hphase : call.phase = .receiving connection rest)
    (arrived : Option Nat) : Coherent limit (s.receive i call connection rest arrived) := by
  have hconnection : call.connection = some connection := by rw [Call.connection, hphase]; rfl
  obtain ⟨hfree, hfits⟩ := (hs.ok hcall).healthy connection (by rw [hphase]; rfl)
  unfold Call.Fits at hfits
  rw [hphase] at hfits
  obtain ⟨bytes, value, hexchange, hsocket, hown, hmore⟩ := hfits
  unfold PoolState.receive
  split
  next unread length hunread =>
    rw [hsocket, Socket.connected.injEq] at hunread
    split
    next reply left hread =>
      rw [← hunread] at hread ⊢
      obtain ⟨hdecoded, hleft⟩ := read_whole hread
      rw [hleft]
      split
      next hlast =>
        refine hs.goesOn hcall hconnection rfl (Call.ok_update hfree rfl ⟨rfl, ?_⟩)
        exact ⟨bytes, value, hown hlast, hexchange, hdecoded⟩
      next hnot =>
        exact hs.goesOn hcall hconnection rfl (Call.ok_update hfree rfl ⟨rfl, hmore hnot⟩)
    next failure hread => exact hs.raises hcall hconnection (.reply failure)
  next => exact hs.raises hcall hconnection .socket

/-- A call that is over has no connection any more. -/
theorem perm_set_finished (hcall : s.calls[i]? = some call)
    (hconnection : call.connection = some connection) (result : Except ExecuteError Reply) :
    (connection :: s.idle ++
      connectionsOf (s.calls.set i { call with phase := .finished result })).Perm
        (s.idle ++ s.inUse) := by
  obtain ⟨front, back, hsplit, hset⟩ := exists_split hcall
  have hinUse : s.inUse = connectionsOf front ++ connection :: connectionsOf back := by
    rw [PoolState.inUse, hsplit]
    exact connectionsOf_split_some hconnection
  rw [hset, connectionsOf_split_none rfl, hinUse]
  exact List.perm_middle.symm.trans (List.perm_middle.symm.append_left s.idle)

theorem Coherent.release (hs : Coherent limit s) (hcall : s.calls[i]? = some call) {reply : Reply}
    (hphase : call.phase = .releasing connection reply) :
    Coherent limit (s.release i call connection reply) := by
  have hconnection : call.connection = some connection := by rw [Call.connection, hphase]; rfl
  obtain ⟨hfree, hfits⟩ := (hs.ok hcall).healthy connection (by rw [hphase]; rfl)
  unfold Call.Fits at hfits
  rw [hphase] at hfits
  obtain ⟨hsocket, hanswered⟩ := hfits
  have hperm := perm_set_finished hcall hconnection (.ok reply)
  refine ⟨hperm.nodup_iff.mpr hs.nodup, ?_, hs.bounded, ?_, hs.fresh, ?_, ?_, hs.set_ok ⟨?_, ?_⟩⟩
  · have hlength := hperm.length_eq
    rw [List.length_append, List.length_append, ← hs.counted] at hlength
    exact hlength.symm
  · exact fun other hother => hs.known other (hperm.mem_iff.mp hother)
  · intro other hother
    rcases List.mem_cons.mp hother with rfl | hold
    · exact hsocket
    · exact hs.atBoundary other hold
  · intro other hother
    obtain ⟨hknown, hidle⟩ := hs.discarded other hother
    refine ⟨hknown, fun hmem => ?_⟩
    rcases List.mem_cons.mp hmem with rfl | hold
    · exact hfree hother
    · exact hidle hold
  · intro other hother
    cases hother
  · intro answer hanswer
    obtain rfl : reply = answer := by simpa using hanswer
    exact hanswered

/-- A connection that has failed is counted out. -/
theorem Coherent.discard (hs : Coherent limit s) (hcall : s.calls[i]? = some call)
    {error : ExecuteError} (hphase : call.phase = .discarding connection error) :
    Coherent limit (s.discard i call error) := by
  have hconnection : call.connection = some connection := by rw [Call.connection, hphase]; rfl
  have hperm := perm_set_finished hcall hconnection (.error error)
  refine ⟨(List.nodup_cons.mp (hperm.nodup_iff.mpr hs.nodup)).2, ?_, ?_, ?_, hs.fresh,
    hs.atBoundary, hs.discarded, hs.set_ok ⟨?_, ?_⟩⟩
  · have hlength := hperm.length_eq
    rw [List.length_append, List.length_append, ← hs.counted, List.length_cons] at hlength
    have hinUse : s.openConnections - 1 = s.idle.length + (connectionsOf
        (s.calls.set i { call with phase := .finished (.error error) })).length := by omega
    exact hinUse
  · exact (Nat.sub_le _ _).trans hs.bounded
  · exact fun other hother => hs.known other (hperm.mem_iff.mp (List.mem_cons_of_mem _ hother))
  · intro other hother
    cases hother
  · intro answer hanswer
    simp at hanswer

theorem Coherent.close (hs : Coherent limit s) (hcall : s.calls[i]? = some call)
    {error : ExecuteError} (hphase : call.phase = .raised connection error) :
    Coherent limit (s.close i call connection error) := by
  have hconnection : call.connection = some connection := by rw [Call.connection, hphase]; rfl
  refine hs.goesOn hcall hconnection rfl ⟨fun other hother => ?_, fun reply hreply => ?_⟩
  · cases hother
  · cases hreply

theorem Coherent.act (hs : Coherent limit s) (hcall : s.calls[i]? = some call)
    (config : RedisConnectionConfig) (action : Action) :
    Coherent limit (s.act i call config limit action) := by
  unfold PoolState.act
  split
  next hphase => exact hs.acquire hcall hphase
  next hphase => exact hs.enter hcall hphase
  next hphase => exact hs.connect hcall hphase config _
  next hphase => exact hs.send hcall hphase _
  next hphase => exact hs.receive hcall hphase _
  next hphase => exact hs.release hcall hphase
  next hphase => exact hs.close hcall hphase
  next hphase => exact hs.discard hcall hphase
  next => exact hs

/-- A new call has no connection yet. -/
theorem Coherent.execute (hs : Coherent limit s) (command : List Part) :
    Coherent limit { s with calls := s.calls ++ [⟨command, .acquiring, none⟩] } := by
  have hinUse : PoolState.inUse { s with calls := s.calls ++ [⟨command, .acquiring, none⟩] } =
      s.inUse := by
    change connectionsOf (s.calls ++ _) = _
    rw [connectionsOf_split_none rfl]
    exact List.append_nil _
  refine ⟨hinUse ▸ hs.nodup, hinUse ▸ hs.counted, hs.bounded, hinUse ▸ hs.known, hs.fresh,
    hs.atBoundary, hs.discarded, fun call hcall => ?_⟩
  rcases List.mem_append.mp hcall with hold | hnew
  · exact hs.calls call hold
  · rw [List.mem_singleton.mp hnew]
    refine ⟨fun other hother => ?_, fun reply hreply => ?_⟩
    · cases hother
    · cases hreply

end Steps

/-- A coherent pool is sound. -/
theorem Coherent.sound {maxConnections : Int} {s : PoolState}
    (hs : Coherent (max 1 maxConnections).toNat s) : s.Sound maxConnections where
  exclusive := (List.nodup_append.mp hs.nodup).2.1
  notIdle := fun connection hmem hidle =>
    (List.nodup_append.mp hs.nodup).2.2 connection hidle connection hmem rfl
  counted := hs.counted
  bounded := by
    have hbounded := hs.bounded
    omega
  discarded := by
    intro connection hfailed
    obtain ⟨hknown, hidle⟩ := hs.discarded connection hfailed
    refine ⟨hidle, ?_⟩
    unfold PoolState.handedOut
    cases hpool : s.idle with
    | nil =>
        rw [List.head?_nil, Option.none_or]
        split
        next => exact fun heq => absurd (Option.some.inj heq) hknown.ne'
        next => exact fun heq => nomatch heq
    | cons first rest =>
        rw [List.head?_cons, Option.some_or]
        intro heq
        rw [← Option.some.inj heq, hpool] at hidle
        exact hidle List.mem_cons_self
  atBoundary := hs.atBoundary
  ownReply := fun call hcall => (hs.calls call hcall).answered

/-- In every run of a pool, no two calls have one connection, the open connections are the
idle ones and those in use and not more than allowed, a connection on which an error has
occurred is not handed out, an idle connection is at a boundary between replies, and a
call that returns has the reply to its own command. -/
theorem pool_sound (config : RedisConnectionConfig) (maxConnections : Int)
    (events : List PoolEvent) :
    Runs.Throughout (PoolState.step config maxConnections) (PoolState.Sound maxConnections) .start
      events := by
  have hstep : ∀ (s : PoolState) (event : PoolEvent), Coherent (max 1 maxConnections).toNat s →
      Coherent (max 1 maxConnections).toNat (s.step config maxConnections event) := by
    intro s event hs
    cases event with
    | execute command => exact hs.execute command
    | act i action =>
        rw [PoolState.step]
        cases hcall : s.calls[i]? with
        | none => exact hs
        | some call => exact hs.act hcall config action
  have hcoherent := Runs.throughout_of_step (coherent_start _) hstep events
  exact hcoherent.mono fun s hs => hs.sound

/-- A call that opens a connection, sends its command and reads the answer of the server. -/
def pinged : List PoolEvent :=
  [.execute [.text (asciiText "PING")], .act 0 .acquire, .act 0 .enter, .act 0 (.connect true),
    .act 0 (.send (some (.bulk [80, 79, 78, 71]))), .act 0 (.receive (some 10)), .act 0 .release]

/-- It returns with the answer and gives its connection back. -/
example :
    let s := Runs.after (PoolState.step ⟨0, none, none⟩ 1) .start pinged
    (s.calls.map fun call =>
      match call.phase with
      | .finished (.ok (.text cs)) => some cs
      | _ => none) = [some (asciiText "PONG")] ∧ s.idle = [0] ∧ s.openConnections = 1 := by
  decide +kernel

end TradingPlatform.RedisClient

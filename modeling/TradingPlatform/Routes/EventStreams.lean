import Mathlib.Data.Prod.Lex
import TradingPlatform.Foundation.JsonText
import TradingPlatform.Foundation.Paging
import TradingPlatform.Foundation.PathPatterns

/-! # Event streams

Events are appended to streams that forget their oldest entries. A client reads a stream
page by page, from the newest event to the oldest, with filters of its own; a page holds
what the filters leave of it, and its cursor is the identifier of the last entry that was
read for it.
-/

namespace TradingPlatform.Routes

open JsonText

section Program

/-- The time at which the server took an entry, and a number among those of the same time. -/
abbrev StreamId := ℕ ×ₗ ℕ

def StreamId.text (id : StreamId) : String :=
  String.ofList (Nat.toDigits 10 (ofLex id).1) ++ "-" ++
    String.ofList (Nat.toDigits 10 (ofLex id).2)

/-- What an event is written as, with a payload that can be written. -/
structure EventEnvelope (readFloat : String → String) where
  eventId : String
  eventType : String
  occurredAt : String
  producer : String
  traceId : Option String
  payload : Dict
  writable : Writable readFloat (.obj payload)

namespace EventEnvelope

variable {readFloat : String → String}

def eventVersion : ℤ := 1

def fields (event : EventEnvelope readFloat) : Dict :=
  [("event_id", .str event.eventId), ("event_type", .str event.eventType),
    ("event_version", .int eventVersion), ("occurred_at", .str event.occurredAt),
    ("producer", .str event.producer), ("trace_id", event.traceId.elim .null .str),
    ("payload", .obj event.payload)]

/-- The names and the values of an entry, as the server keeps them. -/
def values (event : EventEnvelope readFloat) : List String :=
  ["event", dumps (.obj event.fields)]

end EventEnvelope

def streamKey (keyPrefix streamName : String) : String :=
  Text.join ":" [keyPrefix, "stream", streamName]

/-- The command that appends an event. -/
def appendEvent {readFloat : String → String} (key : String) (event : EventEnvelope readFloat) :
    List String :=
  ["XADD", key, "MAXLEN", "~", "1000", "*"] ++ event.values

/-- An event as the runtime gives it: the entry's identifier first. -/
def parseStreamEntry (readFloat : String → String) : Json → Option Dict
  | .arr [.str streamId, .arr (_ :: .str payloadText :: _)] =>
      match loads readFloat payloadText with
      | some (.obj payload) => some (Dict.merge [("stream_id", .str streamId)] payload)
      | _ => none
  | _ => none

/-- How the runtime is answered to a command, if it is answered at all. -/
abbrev Execute := List String → Option Json

def listStreamEvents (readFloat : String → String) (key : String) (limit : ℕ)
    (beforeStreamId : Option String) (execute : Execute) : Option (List Dict) :=
  let upperBound := match beforeStreamId with
    | none => "+"
    | some id => if id = "" then "+" else "(" ++ Text.strip id
  match execute ["XREVRANGE", key, upperBound, "-", "COUNT", toString limit] with
  | some (.arr raw) => some (raw.filterMap (parseStreamEntry readFloat))
  | _ => none

/-- The first value of each parameter of a query. -/
abbrev Params := String → Option String

def queryLimit (params : Params) : ℕ :=
  match params "limit" with
  | none => 20
  | some raw => ((Text.toInt? raw).map fun value => (max 1 (min value 100)).toNat).getD 20

/-- What a parameter of a query selects the events by. -/
structure EventFilter where
  queryKeys : List String
  /-- What is looked at in the payload of an event. -/
  extractor : Dict → Json
  normalizer : String → String

/-- The payload of an event; anything else than a dictionary raises. -/
def payloadOf (event : Dict) : Option Dict :=
  match (event.get "payload").orElse (.obj []) with
  | .obj payload => some payload
  | _ => none

/-- The events that a condition keeps; it may raise. -/
def filterEvents (keeps : Dict → Option Bool) : List Dict → Option (List Dict)
  | [] => some []
  | event :: rest =>
      (keeps event).bind fun kept =>
        (filterEvents keeps rest).map fun others => if kept then event :: others else others

/-- The value that a filter asks for, if the query has one. -/
def EventFilter.value? (filter : EventFilter) (params : Params) : Option String :=
  (filter.queryKeys.findSome? params).bind fun raw =>
    if filter.normalizer raw = "" then none else some (filter.normalizer raw)

def EventFilter.apply (params : Params) (events : List Dict) (filter : EventFilter) :
    Option (List Dict) :=
  match filter.value? params with
  | none => some events
  | some value =>
      filterEvents (fun event => (payloadOf event).map fun payload =>
        filter.normalizer (filter.extractor payload).textOrEmpty = value) events

/-- The events whose text under a key is the one that the query asks for. -/
def filterText (key : String) (params : Params) (events : List Dict) : List Dict :=
  let value := Text.strip ((params key).getD "")
  if value = "" then events
  else events.filter fun event => Text.strip (event.get key).textOrEmpty = value

structure EventStream where
  name : String
  label : String
  filters : List EventFilter
  /-- The cursor of a page selects nothing. -/
  cursor_notMem : ∀ filter ∈ filters, "before_stream_id" ∉ filter.queryKeys

def payloadFilter (key : String) (normalizer : String → String) : EventFilter :=
  ⟨[key], fun payload => payload.get key, normalizer⟩

def lowered (value : String) : String := Text.lower (Text.strip value)

def uppered (value : String) : String := Text.upper (Text.strip value)

def marketEvents : EventStream where
  name := "market_events"
  label := "market event stream"
  filters := [payloadFilter "exchange" lowered, payloadFilter "market" uppered]
  cursor_notMem := by simp [payloadFilter]

def botEvents : EventStream where
  name := "bot_events"
  label := "bot event stream"
  filters := [payloadFilter "bot_id" Text.strip, payloadFilter "bot_key" Text.strip]
  cursor_notMem := by simp [payloadFilter]

def strategyEvents : EventStream where
  name := "strategy_events"
  label := "strategy event stream"
  filters := [payloadFilter "bot_id" Text.strip, payloadFilter "run_id" Text.strip,
    payloadFilter "config_scope" Text.strip]
  cursor_notMem := by simp [payloadFilter]

def orderEvents : EventStream where
  name := "order_events"
  label := "order event stream"
  filters := [payloadFilter "bot_id" Text.strip, payloadFilter "order_id" Text.strip,
    ⟨["order_intent_id", "intent_id"],
      fun payload => (payload.get "order_intent_id").orElse (payload.get "intent_id"), Text.strip⟩,
    ⟨["exchange_name", "exchange"], fun payload => payload.get "exchange_name", lowered⟩]
  cursor_notMem := by simp [payloadFilter]

def alertEvents : EventStream where
  name := "alert_events"
  label := "alert event stream"
  filters := [payloadFilter "bot_id" Text.strip, payloadFilter "alert_id" Text.strip,
    payloadFilter "level" lowered]
  cursor_notMem := by simp [payloadFilter]

/-- Digits, a hyphen and digits. -/
def isStreamId (id : String) : Bool :=
  match Text.partition '-' id with
  | none => false
  | some (first, second) =>
      first ≠ "" && first.toList.all (Text.digitValue · |>.isSome) &&
        (second ≠ "" && second.toList.all (Text.digitValue · |>.isSome))

structure EventPage where
  items : List Dict
  count : ℕ
  hasMore : Bool
  nextBeforeStreamId : Option String
  newestStreamId : Option String
  oldestStreamId : Option String

inductive StreamResponse where
  | failed (status : ℕ) (code message : String)
  | ok (page : EventPage)

/-- The identifier of an event, if it is a text and not empty. -/
def streamIdOf (event : Dict) : Option String :=
  match event.get "stream_id" with
  | .str id => if id = "" then none else some id
  | _ => none

/-- The answer to a query, unless a payload raises. -/
def streamEventsResponse (readFloat : String → String) (keyPrefix : String) (stream : EventStream)
    (params : Params) (execute : Execute) : Option StreamResponse :=
  let limit := queryLimit params
  let beforeStreamId := Text.strip ((params "before_stream_id").getD "")
  if beforeStreamId ≠ "" ∧ isStreamId beforeStreamId = false then
    some (.failed 400 "INVALID_REQUEST" "before_stream_id must be a Redis stream id")
  else
    match listStreamEvents readFloat (streamKey keyPrefix stream.name) (limit + 1)
        (if beforeStreamId = "" then none else some beforeStreamId) execute with
    | none =>
        some (.failed 502 "REDIS_STREAM_READ_FAILED" ("failed to read " ++ stream.label))
    | some rawEvents =>
        let hasMore := limit < rawEvents.length
        let pageEvents := rawEvents.take limit
        let nextBeforeStreamId :=
          if hasMore then pageEvents.getLast?.bind streamIdOf else none
        let events := filterText "trace_id" params (filterText "event_type" params pageEvents)
        (stream.filters.foldlM (EventFilter.apply params) events).map fun events =>
          .ok ⟨events, events.length, hasMore, nextBeforeStreamId,
            events.head?.bind streamIdOf, events.getLast?.bind streamIdOf⟩

/-- The answers that a client gets who asks for page after page with the same filters, and
asks again when a read has failed. -/
def readStream (readFloat : String → String) (keyPrefix : String) (stream : EventStream) :
    Params → List Execute → List (Option StreamResponse)
  | _, [] => []
  | params, execute :: later =>
      let response := streamEventsResponse readFloat keyPrefix stream params execute
      response :: match response with
        | some (.ok page) =>
            match page.nextBeforeStreamId with
            | none => []
            | some id => readStream readFloat keyPrefix stream
                (Function.update params "before_stream_id" (some id)) later
        | _ => readStream readFloat keyPrefix stream params later

end Program

section Server

variable {readFloat : String → String} {S : Type} {key : String}

abbrev StreamLog (readFloat : String → String) := Paging.Log StreamId (EventEnvelope readFloat)

/-- An entry in a reply: its identifier, and its names and values. -/
def entryReply (entry : StreamId × EventEnvelope readFloat) : Json :=
  .arr [.str (StreamId.text entry.1), .arr (entry.2.values.map .str)]

def reply (entries : List (StreamId × EventEnvelope readFloat)) : Json :=
  .arr (entries.map entryReply)

/-- What is known of the server of a stream to which only events are appended: when it is
reached, it answers with the newest entries, or with the newest below an identifier. -/
structure StreamServer (readFloat : String → String) (key : String) (S : Type) where
  log : S → Option (StreamLog readFloat)
  execute : S → Execute
  unreachable : ∀ {s}, log s = none → ∀ command, execute s command = none
  all : ∀ {s l}, log s = some l → ∀ count : ℕ,
    execute s ["XREVRANGE", key, "+", "-", "COUNT", toString count] =
      some (reply ((l.below ⊤).take count))
  below : ∀ {s l}, log s = some l → ∀ (id : StreamId) (count : ℕ),
    execute s ["XREVRANGE", key, "(" ++ id.text, "-", "COUNT", toString count] =
      some (reply ((l.below (id : WithTop StreamId)).take count))

/-- The event of an entry as a client sees it. -/
def render (entry : StreamId × EventEnvelope readFloat) : Dict :=
  Dict.merge [("stream_id", .str (StreamId.text entry.1))] entry.2.fields

end Server

section Entries

variable {readFloat : String → String} {entry : StreamId × EventEnvelope readFloat}

theorem keys_fields (event : EventEnvelope readFloat) : event.fields.map Prod.fst =
    ["event_id", "event_type", "event_version", "occurred_at", "producer", "trace_id",
      "payload"] := (rfl)

theorem writable_fields (event : EventEnvelope readFloat) :
    Writable readFloat (.obj event.fields) := by
  rw [writable_obj_iff, keys_fields]
  refine ⟨by simp, ?_⟩
  have htrace : Writable readFloat (event.traceId.elim .null .str) := by
    cases event.traceId <;> trivial
  simpa [EventEnvelope.fields, Writable, htrace] using event.writable

/-- Events are read as they were written. -/
theorem parseStreamEntry_entryReply :
    parseStreamEntry readFloat (entryReply entry) = some (render entry) := by
  have hloads := loads_dumps (writable_fields entry.2)
  simp only [entryReply, EventEnvelope.values, List.map_cons, List.map_nil, parseStreamEntry,
    hloads]
  rfl

theorem get_render_of_mem {name : String} {value : Json}
    (hmem : (name, value) ∈ entry.2.fields) : (render entry).get name = value :=
  Dict.get_merge_of_mem (by rw [keys_fields]; simp) hmem

theorem get_render_stream_id :
    (render entry).get "stream_id" = .str (StreamId.text entry.1) := by
  rw [render, Dict.get_merge_of_notMem _ _ (by rw [keys_fields]; simp)]
  rfl

theorem text_ne_empty (id : StreamId) : id.text ≠ "" := by
  intro hempty
  have hlist := congrArg String.toList hempty
  simp [StreamId.text] at hlist

theorem streamIdOf_render : streamIdOf (render entry) = some (StreamId.text entry.1) := by
  rw [streamIdOf, get_render_stream_id]
  exact if_neg (text_ne_empty entry.1)

theorem payloadOf_render : payloadOf (render entry) = some entry.2.payload := by
  have hpayload : (render entry).get "payload" = .obj entry.2.payload :=
    get_render_of_mem (by simp [EventEnvelope.fields])
  rw [payloadOf, hpayload, Json.orElse]
  split_ifs with htruthy
  · rfl
  · cases hfields : entry.2.payload with
    | nil => rfl
    | cons field rest => simp [hfields, Json.truthy] at htruthy

theorem isDigit_of_mem_text {id : StreamId} {c : Char} (hc : c ∈ id.text.toList) :
    c.isDigit = true ∨ c = '-' := by
  simp only [StreamId.text, String.toList_append, String.toList_ofList, List.mem_append] at hc
  rcases hc with (hfirst | hhyphen) | hsecond
  · exact Or.inl (Nat.isDigit_of_mem_toDigits (by decide) (by decide) hfirst)
  · exact Or.inr (by simpa using hhyphen)
  · exact Or.inl (Nat.isDigit_of_mem_toDigits (by decide) (by decide) hsecond)

theorem strip_text (id : StreamId) : Text.strip id.text = id.text := by
  apply Text.strip_of_noSpace
  intro c hc
  rcases isDigit_of_mem_text hc with hdigit | rfl
  · simp only [Char.isDigit, Bool.and_eq_true, decide_eq_true_eq] at hdigit
    have hlow : 48 ≤ c.toNat := hdigit.1
    have hhigh : c.toNat ≤ 57 := hdigit.2
    simp only [Text.isSpace, Bool.or_eq_false_iff, Bool.and_eq_false_iff, decide_eq_false_iff_not,
      beq_eq_false_iff_ne]
    omega
  · decide

theorem partition_text (id : StreamId) : Text.partition '-' id.text =
    some (String.ofList (Nat.toDigits 10 (ofLex id).1),
      String.ofList (Nat.toDigits 10 (ofLex id).2)) := by
  rw [PathPatterns.partition_eq_some_iff]
  refine ⟨rfl, fun hmem => ?_⟩
  rw [String.toList_ofList] at hmem
  exact absurd (Nat.isDigit_of_mem_toDigits (by decide) (by decide) hmem) (by decide)

theorem digitValue_isSome {c : Char} (hc : c.isDigit = true) :
    (Text.digitValue c).isSome = true := by
  simp only [Char.isDigit, Bool.and_eq_true, decide_eq_true_eq] at hc
  have hlow : 48 ≤ c.toNat := hc.1
  have hhigh : c.toNat ≤ 57 := hc.2
  rw [Text.digitValue, Option.isSome_map, List.find?_isSome]
  refine ⟨0x30, by simp [Text.zeroDigits], ?_⟩
  simp only [Bool.and_eq_true, decide_eq_true_eq]
  omega

/-- The identifiers that the server gives are taken as cursors. -/
theorem isStreamId_text (id : StreamId) : isStreamId id.text = true := by
  have hdigits : ∀ n : ℕ, String.ofList (Nat.toDigits 10 n) ≠ "" ∧
      (String.ofList (Nat.toDigits 10 n)).toList.all (Text.digitValue · |>.isSome) = true := by
    intro n
    rw [String.toList_ofList, List.all_eq_true]
    refine ⟨fun hempty => ?_, fun c hc => digitValue_isSome
      (Nat.isDigit_of_mem_toDigits (by decide) (by decide) hc)⟩
    have hlist := congrArg String.toList hempty
    rw [String.toList_ofList] at hlist
    exact Nat.toDigits_ne_nil hlist
  rw [isStreamId, partition_text]
  dsimp only
  rw [(hdigits _).2, (hdigits _).2, decide_eq_true (hdigits _).1, decide_eq_true (hdigits _).1]
  rfl

end Entries

section Filters

variable {params : Params} {stream : EventStream} {events : List Dict}

/-- Whether a filter lets an event through. -/
def EventFilter.selects (filter : EventFilter) (params : Params) (event : Dict) : Bool :=
  match filter.value? params with
  | none => true
  | some value =>
      filter.normalizer ((payloadOf event).elim "" fun payload =>
        (filter.extractor payload).textOrEmpty) = value

def selectsText (key : String) (params : Params) (event : Dict) : Bool :=
  Text.strip ((params key).getD "") = "" ||
    Text.strip (event.get key).textOrEmpty = Text.strip ((params key).getD "")

/-- Whether an event is among those that a query asks for. -/
def EventStream.selects (stream : EventStream) (params : Params) (event : Dict) : Bool :=
  selectsText "event_type" params event && selectsText "trace_id" params event &&
    stream.filters.all (·.selects params event)

theorem filterText_eq (key : String) :
    filterText key params events = events.filter (selectsText key params) := by
  unfold filterText selectsText
  dsimp only
  split_ifs with hempty
  · rw [List.filter_eq_self.mpr]
    simp [hempty]
  · simp [hempty]

theorem filterEvents_eq_some {keeps : Dict → Option Bool} {f : Dict → Bool}
    (hkeeps : ∀ event ∈ events, keeps event = some (f event)) :
    filterEvents keeps events = some (events.filter f) := by
  induction events with
  | nil => rfl
  | cons event rest ih =>
      rw [filterEvents, hkeeps event List.mem_cons_self,
        ih fun other hother => hkeeps other (List.mem_cons_of_mem _ hother)]
      simp only [Option.bind_some, Option.map_some, List.filter_cons]

theorem EventFilter.apply_eq_some (filter : EventFilter)
    (hpayload : ∀ event ∈ events, (payloadOf event).isSome) :
    EventFilter.apply params events filter = some (events.filter (filter.selects params)) := by
  unfold EventFilter.apply EventFilter.selects
  cases hvalue : filter.value? params with
  | none => simp
  | some value =>
      apply filterEvents_eq_some
      intro event hevent
      obtain ⟨payload, hsome⟩ := Option.isSome_iff_exists.mp (hpayload event hevent)
      rw [hsome]
      rfl

/-- Events with payloads pass all filters of a query, or one of them does not let them. -/
theorem foldlM_apply_eq_some (filters : List EventFilter)
    (hpayload : ∀ event ∈ events, (payloadOf event).isSome) :
    filters.foldlM (EventFilter.apply params) events =
      some (events.filter fun event => filters.all (·.selects params event)) := by
  induction filters generalizing events with
  | nil => simp
  | cons filter rest ih =>
      rw [List.foldlM_cons, EventFilter.apply_eq_some filter hpayload]
      refine (ih fun event hevent => hpayload event (List.mem_of_mem_filter hevent)).trans ?_
      rw [List.filter_filter]
      congr 1
      apply List.filter_congr
      intro event _
      rw [List.all_cons, Bool.and_comm]

theorem findSome?_congr {keys : List String} {f g : String → Option String}
    (hkeys : ∀ key ∈ keys, f key = g key) : keys.findSome? f = keys.findSome? g := by
  induction keys with
  | nil => rfl
  | cons key rest ih =>
      rw [List.findSome?_cons, List.findSome?_cons, hkeys key List.mem_cons_self,
        ih fun other hother => hkeys other (List.mem_cons_of_mem _ hother)]

/-- A cursor selects nothing. -/
theorem EventStream.selects_update (cursor : Option String) :
    stream.selects (Function.update params "before_stream_id" cursor) = stream.selects params := by
  have hvalue : ∀ filter ∈ stream.filters,
      filter.value? (Function.update params "before_stream_id" cursor) = filter.value? params := by
    intro filter hfilter
    rw [EventFilter.value?, EventFilter.value?]
    congr 1
    apply findSome?_congr
    intro key hkey
    refine Function.update_of_ne ?_ _ _
    rintro rfl
    exact stream.cursor_notMem filter hfilter hkey
  funext event
  have hfilters : ∀ filter ∈ stream.filters,
      filter.selects (Function.update params "before_stream_id" cursor) event =
        filter.selects params event := by
    intro filter hfilter
    rw [EventFilter.selects, EventFilter.selects, hvalue filter hfilter]
  have hall : (stream.filters.all fun filter =>
      filter.selects (Function.update params "before_stream_id" cursor) event) =
        stream.filters.all fun filter => filter.selects params event := by
    rw [Bool.eq_iff_iff, List.all_eq_true, List.all_eq_true]
    exact forall₂_congr fun filter hfilter => by rw [hfilters filter hfilter]
  rw [EventStream.selects, EventStream.selects, hall]
  simp only [selectsText, Function.update_of_ne (show "event_type" ≠ "before_stream_id" by simp),
    Function.update_of_ne (show "trace_id" ≠ "before_stream_id" by simp)]

theorem queryLimit_update (cursor : Option String) :
    queryLimit (Function.update params "before_stream_id" cursor) = queryLimit params := by
  rw [queryLimit, Function.update_of_ne (by simp), queryLimit]

theorem queryLimit_pos : 0 < queryLimit params := by
  unfold queryLimit
  split
  · decide
  · rename_i raw _
    cases Text.toInt? raw with
    | none => exact Nat.zero_lt_succ _
    | some value =>
        simp only [Option.map_some, Option.getD_some]
        omega

end Filters

section Pages

variable {readFloat : String → String} {S : Type} {keyPrefix : String} {stream : EventStream}
  {params : Params} {before : WithTop StreamId} {s : S} {log base : StreamLog readFloat}

/-- A page as a client gets it, of the entries that were read for it. -/
def eventPage (stream : EventStream) (params : Params)
    (page : Paging.Page StreamId (EventEnvelope readFloat)) : EventPage :=
  let items := (page.items.map render).filter (stream.selects params)
  ⟨items, items.length, page.next.isSome, page.next.map StreamId.text,
    items.head?.bind streamIdOf, items.getLast?.bind streamIdOf⟩

/-- A query asks for what is below a cursor, or for everything. -/
def Asks (params : Params) (before : WithTop StreamId) : Prop :=
  before = ⊤ ∧ Text.strip ((params "before_stream_id").getD "") = "" ∨
    ∃ id : StreamId, before = id ∧ params "before_stream_id" = some id.text

theorem asks_update (params : Params) (id : StreamId) :
    Asks (Function.update params "before_stream_id" (some id.text)) id :=
  Or.inr ⟨id, rfl, Function.update_self _ _ _⟩

/-- The cursors that the server gives are accepted. -/
theorem Asks.valid (hasks : Asks params before) :
    ¬ (Text.strip ((params "before_stream_id").getD "") ≠ "" ∧
      isStreamId (Text.strip ((params "before_stream_id").getD "")) = false) := by
  rintro ⟨hne, hinvalid⟩
  rcases hasks with ⟨-, hempty⟩ | ⟨id, -, hid⟩
  · exact hne hempty
  · rw [hid, Option.getD_some, strip_text, isStreamId_text] at hinvalid
    cases hinvalid

variable {server : StreamServer readFloat (streamKey keyPrefix stream.name) S}

theorem filterMap_parseStreamEntry (entries : List (StreamId × EventEnvelope readFloat)) :
    (entries.map entryReply).filterMap (parseStreamEntry readFloat) = entries.map render := by
  induction entries with
  | nil => rfl
  | cons entry rest ih =>
      rw [List.map_cons, List.filterMap_cons_some parseStreamEntry_entryReply, ih, List.map_cons]

/-- What the runtime reads for a query. -/
theorem listStreamEvents_eq (hlog : server.log s = some log) (hasks : Asks params before)
    (count : ℕ) :
    listStreamEvents readFloat (streamKey keyPrefix stream.name) count
      (if Text.strip ((params "before_stream_id").getD "") = "" then none
        else some (Text.strip ((params "before_stream_id").getD ""))) (server.execute s) =
      some (((log.below before).take count).map render) := by
  rcases hasks with ⟨rfl, hempty⟩ | ⟨id, rfl, hid⟩
  · rw [if_pos hempty, listStreamEvents]
    rw [server.all hlog, reply]
    exact congrArg some (filterMap_parseStreamEntry _)
  · have hstrip : Text.strip ((params "before_stream_id").getD "") = id.text := by
      rw [hid, Option.getD_some, strip_text]
    rw [hstrip, if_neg (text_ne_empty id), listStreamEvents]
    rw [if_neg (text_ne_empty id), strip_text, server.below hlog, reply]
    exact congrArg some (filterMap_parseStreamEntry _)

/-- A query that reaches the server is answered with a page of its stream. -/
theorem streamEventsResponse_eq (hlog : server.log s = some log) (hasks : Asks params before) :
    streamEventsResponse readFloat keyPrefix stream params (server.execute s) =
      some (.ok (eventPage stream params
        (Paging.readPage (queryLimit params) before log))) := by
  have hread := listStreamEvents_eq hlog hasks (queryLimit params + 1)
  have hpayload : ∀ event ∈ filterText "trace_id" params (filterText "event_type" params
      ((((log.below before).take (queryLimit params + 1)).map render).take (queryLimit params))),
      (payloadOf event).isSome := by
    intro event hevent
    rw [filterText_eq, filterText_eq] at hevent
    have hmem := List.mem_of_mem_take (List.mem_of_mem_filter (List.mem_of_mem_filter hevent))
    obtain ⟨entry, -, rfl⟩ := List.mem_map.mp hmem
    rw [payloadOf_render]
    rfl
  have hitems : (((log.below before).take (queryLimit params + 1)).map render).take
      (queryLimit params) = (Paging.readPage (queryLimit params) before log).items.map render := by
    rw [← List.map_take]
    rfl
  have hevents : (filterText "trace_id" params (filterText "event_type" params
      ((Paging.readPage (queryLimit params) before log).items.map render))).filter
        (fun event => stream.filters.all (·.selects params event)) =
      ((Paging.readPage (queryLimit params) before log).items.map render).filter
        (stream.selects params) := by
    rw [filterText_eq, filterText_eq, List.filter_filter, List.filter_filter]
    apply List.filter_congr
    intro event _
    rw [EventStream.selects, Bool.and_assoc, Bool.and_comm,
      Bool.and_comm (selectsText "trace_id" params event)]
  have hnext : (if queryLimit params < (((log.below before).take
        (queryLimit params + 1)).map render).length then
      ((Paging.readPage (queryLimit params) before log).items.map render).getLast?.bind streamIdOf
      else none) = (Paging.readPage (queryLimit params) before log).next.map StreamId.text := by
    have hpage : (Paging.readPage (queryLimit params) before log).next =
        if queryLimit params < ((log.below before).take (queryLimit params + 1)).length then
          (Paging.readPage (queryLimit params) before log).items.getLast?.map Prod.fst
        else none := (rfl)
    rw [hpage, List.length_map, List.getLast?_map]
    split_ifs
    · cases (Paging.readPage (queryLimit params) before log).items.getLast? with
      | none => rfl
      | some entry => exact streamIdOf_render
    · rfl
  have hmore : decide (queryLimit params < (((log.below before).take
      (queryLimit params + 1)).map render).length) =
        (Paging.readPage (queryLimit params) before log).next.isSome := by
    rw [List.length_map, Paging.isSome_next_readPage queryLimit_pos]
  rw [hitems] at hpayload
  rw [streamEventsResponse, if_neg hasks.valid, hread]
  dsimp only
  rw [hitems, foldlM_apply_eq_some stream.filters hpayload, Option.map_some, hevents, hnext, hmore]
  rfl

theorem streamEventsResponse_of_unreachable (hlog : server.log s = none)
    (hasks : Asks params before) :
    streamEventsResponse readFloat keyPrefix stream params (server.execute s) =
      some (.failed 502 "REDIS_STREAM_READ_FAILED" ("failed to read " ++ stream.label)) := by
  have hread : ∀ count cursor, listStreamEvents readFloat (streamKey keyPrefix stream.name) count
      cursor (server.execute s) = none := by
    intro count cursor
    unfold listStreamEvents
    dsimp only
    rw [server.unreachable hlog]
  rw [streamEventsResponse, if_neg hasks.valid, hread]

end Pages

section Reading

variable {readFloat : String → String} {S : Type} {keyPrefix : String} {stream : EventStream}
  {params : Params} {before : WithTop StreamId} {base : StreamLog readFloat}
  {server : StreamServer readFloat (streamKey keyPrefix stream.name) S}

def pageOf : Option StreamResponse → Option EventPage
  | some (.ok page) => some page
  | _ => none

/-- The pages that a client gets are those of its stream, at the instants at which the server
is reached. -/
theorem filterMap_pageOf_readStream (hasks : Asks params before) (states : List S) :
    (readStream readFloat keyPrefix stream params (states.map server.execute)).filterMap pageOf =
      (Paging.readPages (queryLimit params) before (states.filterMap server.log)).map
        (eventPage stream params) := by
  induction states generalizing params before with
  | nil => rfl
  | cons s later ih =>
      rw [List.map_cons, readStream]
      cases hlog : server.log s with
      | none =>
          rw [streamEventsResponse_of_unreachable hlog hasks, List.filterMap_cons_none hlog,
            ← ih hasks]
          rfl
      | some log =>
          rw [streamEventsResponse_eq hlog hasks, List.filterMap_cons_some hlog, Paging.readPages,
            List.map_cons, List.filterMap_cons_some (b := eventPage stream params
              (Paging.readPage (queryLimit params) before log)) (by rfl)]
          congr 1
          cases hnext : (Paging.readPage (queryLimit params) before log).next with
          | none => simp [eventPage, hnext]
          | some id =>
              have hrest := ih (asks_update params id)
              rw [queryLimit_update] at hrest
              have hpages : ∀ page : Paging.Page StreamId (EventEnvelope readFloat),
                  eventPage stream
                    (Function.update params "before_stream_id" (some (StreamId.text id))) page =
                      eventPage stream params page := by
                intro page
                rw [eventPage, EventStream.selects_update]
                rfl
              rw [funext hpages] at hrest
              simpa [eventPage, hnext] using hrest

/-- What a client has read of a stream: of what was in it at first, what was there of it
whenever the client reached the server, and what has come to it in pages. -/
structure HasRead (stream : EventStream) (params : Params) (base : StreamLog readFloat)
    (logs : List (StreamLog readFloat)) (pages : List EventPage)
    (read : List (StreamId × EventEnvelope readFloat)) : Prop where
  /-- In the order of the stream, from the newest event on, without a gap. -/
  isPrefix : read <+: base.entries.reverse
  items : pages.flatMap EventPage.items = (read.map render).filter (stream.selects params)
  /-- When there is no more, only what the stream has forgotten is missing. -/
  complete : ∀ page ∈ pages.getLast?, page.hasMore = false → ∀ log ∈ logs.getLast?,
    ∀ entry ∈ base.entries, entry ∈ log.entries → entry ∈ read
  finished : base.entries.length ≤ queryLimit params * logs.length →
    ∀ page ∈ pages.getLast?, page.hasMore = false

/-- **Reading a stream.** However a stream goes on while a client reads it page by page, and
however often a read fails, the client gets the events that its filters select of what was in
the stream when it was first reached, the newest first, none of them twice and nothing that was
appended later. With a page that says that there is no more, it has all of them but those that
the stream has forgotten since, and it gets this page as soon as the pages could hold them. -/
theorem readStream_covers
    (hfirst : Text.strip ((params "before_stream_id").getD "") = "") {states : List S}
    (hlogs : (states.filterMap server.log).Pairwise Paging.Log.Evolves)
    (hbase : base ∈ (states.filterMap server.log).head?) :
    ∃ read, HasRead stream params base (states.filterMap server.log)
      ((readStream readFloat keyPrefix stream params (states.map server.execute)).filterMap pageOf)
      read := by
  have hasks : Asks params ⊤ := Or.inl ⟨rfl, hfirst⟩
  rw [filterMap_pageOf_readStream hasks]
  cases hstates : states.filterMap server.log with
  | nil =>
      rw [hstates] at hbase
      cases hbase
  | cons first later =>
      rw [hstates] at hlogs hbase
      obtain rfl : first = base := Option.some.inj hbase
      obtain ⟨hread, hcomplete, hfinished⟩ :
          Paging.Covers (queryLimit params) ⊤ first (first :: later) :=
        Paging.covers_top queryLimit_pos hlogs
      rw [Paging.Log.below_top] at hread hcomplete hfinished
      -- A page has no cursor just when it says that there is no more.
      have hlast : ∀ page ∈ ((Paging.readPages (queryLimit params) ⊤ (first :: later)).map
          (eventPage stream params)).getLast?, ∃ read ∈ (Paging.readPages (queryLimit params) ⊤
            (first :: later)).getLast?, page.hasMore = read.next.isSome := by
        intro page hpage
        rw [List.getLast?_map] at hpage
        obtain ⟨read, hmem, rfl⟩ := Option.map_eq_some_iff.mp hpage
        exact ⟨read, hmem, rfl⟩
      refine ⟨(Paging.readPages (queryLimit params) ⊤ (first :: later)).flatMap
        Paging.Page.items, hread, ?_, ?_, ?_⟩
      · rw [List.flatMap_map, List.map_flatMap, List.filter_flatMap]
        rfl
      · intro page hpage hmore log hlog entry hentry hthere
        obtain ⟨read, hmem, hnext⟩ := hlast page hpage
        rw [hmore] at hnext
        exact hcomplete read hmem (Option.isNone_iff_eq_none.mp (by simpa using hnext.symm)) log
          hlog entry (List.mem_reverse.mpr hentry) hthere
      · intro hcount page hpage
        obtain ⟨read, hmem, hnext⟩ := hlast page hpage
        rw [hnext, hfinished (List.cons_ne_nil _ _) (by rwa [List.length_reverse]) read hmem]
        rfl

end Reading

section Servers

variable {readFloat : String → String}

def decodeId (text : String) : Option StreamId :=
  (Text.partition '-' text).map fun (first, second) =>
    toLex (Nat.ofDigitChars 10 first.toList 0, Nat.ofDigitChars 10 second.toList 0)

theorem decodeId_text (id : StreamId) : decodeId id.text = some id := by
  rw [decodeId, partition_text, Option.map_some]
  dsimp only
  rw [String.toList_ofList, String.toList_ofList, Nat.ofDigitChars_ten_toDigits,
    Nat.ofDigitChars_ten_toDigits]
  rfl

/-- What a server with a log answers. -/
def replyTo (key : String) (log : StreamLog readFloat) : Execute
  | [name, key', upper, lower, word, count] =>
      if name = "XREVRANGE" ∧ key' = key ∧ lower = "-" ∧ word = "COUNT" then
        let before := if upper = "+" then some ⊤
          else (decodeId (String.ofList (upper.toList.drop 1))).map WithTop.some
        before.map fun before =>
          reply ((log.below before).take (Nat.ofDigitChars 10 count.toList 0))
      else none
  | _ => none

theorem replyTo_of_before {key : String} {log : StreamLog readFloat} {upper : String}
    {before : WithTop StreamId} (count : ℕ)
    (hbefore : (if upper = "+" then some ⊤
      else (decodeId (String.ofList (upper.toList.drop 1))).map WithTop.some) = some before) :
    replyTo key log ["XREVRANGE", key, upper, "-", "COUNT", toString count] =
      some (reply ((log.below before).take count)) := by
  have hcount : Nat.ofDigitChars 10 (toString count).toList 0 = count := by
    rw [show (toString count).toList = Nat.toDigits 10 count from Nat.toList_repr,
      Nat.ofDigitChars_ten_toDigits]
  rw [replyTo, if_pos ⟨rfl, rfl, rfl, rfl⟩, hbefore, hcount]
  rfl

/-- A server that is out of reach at times. -/
def listServer (key : String) : StreamServer readFloat key (Option (StreamLog readFloat)) where
  log := id
  execute s command := s.bind fun log => replyTo key log command
  unreachable := by
    rintro s rfl command
    rfl
  all := by
    rintro s l rfl count
    exact replyTo_of_before count (if_pos rfl)
  below := by
    rintro s l rfl id count
    apply replyTo_of_before
    have hplus : ("(" ++ id.text) ≠ "+" := by
      intro heq
      have hlist := congrArg String.toList heq
      simp [String.toList_append] at hlist
    rw [if_neg hplus, String.toList_append]
    have hdrop : String.ofList (("(".toList ++ id.text.toList).drop 1) = id.text := by simp
    rw [hdrop, decodeId_text]
    rfl

def orderEvent (n : ℕ) : EventEnvelope id where
  eventId := "evt_" ++ toString n
  eventType := "order.created"
  occurredAt := "2025-01-01T00:00:00Z"
  producer := "control-plane"
  traceId := none
  payload := [("order_id", .str (toString n))]
  writable := by simp [Writable, WritableFields]

/-- A stream to which a number of orders were appended. -/
def ordersLog (n : ℕ) : StreamLog id where
  entries := (List.range n).map fun i => (toLex (i + 1, 0), orderEvent i)
  last := (toLex (n, 0) : StreamId)
  ordered := by
    rw [List.map_map, List.pairwise_map]
    apply List.pairwise_lt_range.imp
    intro i j hij
    exact Prod.Lex.toLex_lt_toLex.mpr (Or.inl (Nat.succ_lt_succ hij))
  le_last := by
    intro entry hentry
    obtain ⟨i, hi, rfl⟩ := List.mem_map.mp hentry
    have hle : i + 1 ≤ n := List.mem_range.mp hi
    refine WithBot.coe_le_coe.mpr (Prod.Lex.toLex_le_toLex.mpr ?_)
    rcases Nat.lt_or_eq_of_le hle with hlt | rfl
    · exact Or.inl hlt
    · exact Or.inr ⟨rfl, le_rfl⟩

theorem step_ordersLog (n : ℕ) : Paging.Log.Step (ordersLog n) (ordersLog (n + 1)) := by
  refine .take (toLex (n + 1, 0)) (orderEvent n) ?_ ?_ rfl
  · exact WithBot.coe_lt_coe.mpr (Prod.Lex.toLex_lt_toLex.mpr (Or.inl (Nat.lt_succ_self n)))
  · have happend : (List.range (n + 1)).map (fun i : ℕ =>
        ((toLex (i + 1, 0) : StreamId), orderEvent i)) =
          (List.range n).map (fun i => (toLex (i + 1, 0), orderEvent i)) ++
            [(toLex (n + 1, 0), orderEvent n)] := by
      rw [List.range_succ, List.map_append, List.map_singleton]
    exact happend

def twoPerPage : Params := fun key => if key = "limit" then some "2" else none

/-- Three orders in two pages, with a read that fails and a new order between them. -/
theorem readStream_covers_orders : ∃ read, HasRead orderEvents twoPerPage (ordersLog 3)
    [ordersLog 3, ordersLog 4]
    ((readStream id "trading" orderEvents twoPerPage
      ([some (ordersLog 3), none, some (ordersLog 4)].map
        (listServer (streamKey "trading" orderEvents.name)).execute)).filterMap pageOf) read := by
  have hfirst : Text.strip ((twoPerPage "before_stream_id").getD "") = "" := by
    have hnone : twoPerPage "before_stream_id" = none := if_neg (by simp)
    rw [hnone]
    decide
  have hlogs : [ordersLog 3, ordersLog 4].Pairwise Paging.Log.Evolves :=
    List.pairwise_pair.mpr (Relation.ReflTransGen.single (step_ordersLog 3))
  have hbase : ordersLog 3 ∈ (List.filterMap (listServer (streamKey "trading"
      orderEvents.name)).log [some (ordersLog 3), none, some (ordersLog 4)]).head? := rfl
  exact readStream_covers hfirst hlogs hbase

end Servers

end TradingPlatform.Routes

import Mathlib.Algebra.Order.Group.Int
import Mathlib.Tactic.Linarith
import TradingPlatform.Foundation.SlidingWindow
import TradingPlatform.Routes.Dispatch

/-! # The guard of the write routes

A request to write is counted against its client before its token is looked at, and is
dispatched only when both let it through. The limiter remembers for each client when its
last requests were let through; a request reads the clock before it takes the limiter's lock.
-/

namespace TradingPlatform.Routes

open SlidingWindow

section Program

def parseBearerToken : Option String → Option String
  | none => none
  | some header =>
      let (scheme, token) := (Text.partition ' ' header).getD (header, "")
      if Text.lower (Text.strip scheme) ≠ "bearer" then none
      else
        let token := Text.strip token
        if token = "" then none else some token

structure WriteRequestGuardConfig where
  adminToken : Option String
  windowMs : ℤ
  maxRequests : ℤ

namespace WriteRequestGuardConfig

def authEnabled (config : WriteRequestGuardConfig) : Bool := config.adminToken.getD "" ≠ ""

def rateLimitEnabled (config : WriteRequestGuardConfig) : Bool :=
  0 < config.windowMs ∧ 0 < config.maxRequests

end WriteRequestGuardConfig

/-- For each client the readings of the clock at which its requests were let through. -/
abbrev Entries := String → List ℤ

/-- How long a client has to wait, when its request is not let through. -/
def checkAndConsume (config : WriteRequestGuardConfig) (clientId : String) (nowMs : ℤ)
    (entries : Entries) : Option ℤ × Entries :=
  let windowMs := max config.windowMs 0
  let maxRequests := max config.maxRequests 0
  if windowMs > 0 ∧ maxRequests > 0 then
    let cutoffMs := nowMs - windowMs
    let queue := (entries clientId).dropWhile fun entry => entry ≤ cutoffMs
    if maxRequests ≤ queue.length then
      -- A queue that is full is not empty.
      (some (max 1 (windowMs - (nowMs - queue.headD 0))), Function.update entries clientId queue)
    else (none, Function.update entries clientId (queue ++ [nowMs]))
  else (none, entries)

/-- Equality of texts, which raises unless both are in ASCII. -/
def compareDigest (a b : String) : Except String Bool :=
  if (a.toList ++ b.toList).all (·.toNat < 128) then .ok (a = b)
  else .error "comparing strings with non-ASCII characters is not supported"

def authenticate (config : WriteRequestGuardConfig) (headerValue : Option String) :
    Except String Bool :=
  if config.authEnabled then
    match parseBearerToken headerValue, config.adminToken with
    | some token, some adminToken => compareDigest token adminToken
    | _, _ => .ok false
  else .ok true

structure PostRequest where
  clientIp : String
  path : String
  authorization : Option String
  /-- The clock, as it was read before the limiter was locked. -/
  nowMs : ℤ
  /-- The clock, as it was when the limiter was locked. -/
  lockedMs : ℤ

structure BlockResponse where
  status : ℕ
  code : String
  message : String
  retryAfterMs : Option ℤ
  headers : List (String × String)
deriving DecidableEq

def isGuardedPostRoute (path : String) : Bool := Text.startsWith "/api/v1/" path

/-- Whole seconds, rounded up. -/
def retryAfterSeconds (retryAfterMs : ℤ) : ℤ := max 1 ((retryAfterMs + 999) / 1000)

def rateLimited (retryAfterMs : ℤ) : BlockResponse where
  status := 429
  code := "WRITE_RATE_LIMITED"
  message := "too many write requests"
  retryAfterMs := some retryAfterMs
  headers := [("Retry-After", toString (retryAfterSeconds retryAfterMs))]

def unauthorized : BlockResponse where
  status := 401
  code := "ADMIN_AUTH_REQUIRED"
  message := "write API requires a valid bearer token"
  retryAfterMs := none
  headers := [("WWW-Authenticate", "Bearer")]

def writeRequestBlockResponse (config : WriteRequestGuardConfig) (request : PostRequest)
    (entries : Entries) : Except String (Option BlockResponse) × Entries :=
  if isGuardedPostRoute request.path then
    let (retryAfterMs, entries) := checkAndConsume config request.clientIp request.nowMs entries
    match retryAfterMs with
    | some retryAfterMs => (.ok (some (rateLimited retryAfterMs)), entries)
    | none =>
        ((authenticate config request.authorization).map fun authenticated =>
          if authenticated then none else some unauthorized, entries)
  else (.ok none, entries)

/-- What becomes of a request: it is blocked, or dispatched to the handler that its path
asks for, if there is one. -/
inductive PostOutcome where
  | blocked (response : BlockResponse)
  | dispatched (route : Option PostRoute)
deriving DecidableEq

def doPost (config : WriteRequestGuardConfig) (request : PostRequest) (entries : Entries) :
    Except String PostOutcome × Entries :=
  let (blocked, entries) := writeRequestBlockResponse config request entries
  (blocked.map fun
    | some response => .blocked response
    | none => .dispatched (dispatchPost request.path), entries)

/-- The requests of a run, each with what becomes of it. -/
def serve (config : WriteRequestGuardConfig) (entries : Entries) :
    List PostRequest → List (PostRequest × Except String PostOutcome)
  | [] => []
  | request :: rest =>
      let (outcome, entries) := doPost config request entries
      (request, outcome) :: serve config entries rest

/-- What the limiter remembers after a run. -/
def entriesAfter (config : WriteRequestGuardConfig) (entries : Entries) :
    List PostRequest → Entries
  | [] => entries
  | request :: rest => entriesAfter config (doPost config request entries).2 rest

end Program

section Limits

/-- The limit for the requests of one client. -/
def WriteRequestGuardConfig.limit (config : WriteRequestGuardConfig) : Limit ℤ :=
  ⟨config.windowMs, config.maxRequests.toNat⟩

/-- A request as the limiter sees it. -/
def PostRequest.request (request : PostRequest) : Request ℤ := ⟨request.nowMs, request.lockedMs⟩

/-- A request of a client that has to pass the guard. -/
def PostRequest.Guarded (clientIp : String) (request : PostRequest) : Bool :=
  request.clientIp = clientIp && isGuardedPostRoute request.path

/-- The request is answered that there were too many. -/
def isRateLimited : Except String PostOutcome → Bool
  | .ok (.blocked response) => response.status = 429
  | _ => false

/-- The guarded requests of a client that the limiter lets through. -/
def letThrough (clientIp : String) (served : List (PostRequest × Except String PostOutcome)) :
    List PostRequest :=
  (served.filter fun pair => pair.1.Guarded clientIp && !isRateLimited pair.2).map Prod.fst

variable {config : WriteRequestGuardConfig} {clientIp clientId : String} {nowMs : ℤ}
  {entries : Entries} {request : PostRequest}

/-- What the limiter does is what a sliding window does with the entries of the client. -/
theorem checkAndConsume_eq (henabled : config.rateLimitEnabled = true) :
    checkAndConsume config clientId nowMs entries =
      (if (config.limit.enter nowMs (entries clientId)).1 then none
        else some (max 1 (config.windowMs -
          (nowMs - (config.limit.kept nowMs (entries clientId)).headD 0))),
        Function.update entries clientId (config.limit.enter nowMs (entries clientId)).2) := by
  obtain ⟨hwindow, hmax⟩ : 0 < config.windowMs ∧ 0 < config.maxRequests := by
    simpa [WriteRequestGuardConfig.rateLimitEnabled] using henabled
  have hkept : ((entries clientId).dropWhile fun entry => entry ≤ nowMs - config.windowMs) =
      config.limit.kept nowMs (entries clientId) := (rfl)
  unfold checkAndConsume
  simp only [max_eq_left hwindow.le, max_eq_left hmax.le, hkept]
  rw [if_pos ⟨hwindow, hmax⟩]
  by_cases hfull : config.limit.capacity ≤ (config.limit.kept nowMs (entries clientId)).length
  · have hlength : config.maxRequests ≤ (config.limit.kept nowMs (entries clientId)).length :=
      Int.toNat_le.mp hfull
    rw [Limit.enter_of_full hfull, if_pos hlength]
    rfl
  · have hlength : ¬ config.maxRequests ≤ (config.limit.kept nowMs (entries clientId)).length :=
      fun hle => hfull (Int.toNat_le.mpr hle)
    rw [Limit.enter_of_room hfull, if_neg hlength]
    rfl

/-- A guarded request is rate limited just when the window of its client is full. -/
theorem isRateLimited_doPost (henabled : config.rateLimitEnabled = true)
    (hguarded : isGuardedPostRoute request.path = true) :
    isRateLimited (doPost config request entries).1 =
      !(config.limit.enter request.nowMs (entries request.clientIp)).1 := by
  unfold doPost writeRequestBlockResponse
  rw [if_pos hguarded, checkAndConsume_eq henabled]
  cases hgrant : (config.limit.enter request.nowMs (entries request.clientIp)).1 with
  | true =>
      cases hauth : authenticate config request.authorization with
      | error text => simp [Except.map, isRateLimited]
      | ok authenticated => cases authenticated <;> simp [Except.map, isRateLimited, unauthorized]
  | false => simp [Except.map, isRateLimited, rateLimited]

theorem doPost_snd (henabled : config.rateLimitEnabled = true) :
    (doPost config request entries).2 =
      if isGuardedPostRoute request.path then
        Function.update entries request.clientIp
          (config.limit.enter request.nowMs (entries request.clientIp)).2
      else entries := by
  unfold doPost writeRequestBlockResponse
  split_ifs with hguarded
  · rw [checkAndConsume_eq henabled]
    split_ifs <;> rfl
  · rfl

/-- A request that is not a guarded one of a client leaves the client's entries alone. -/
theorem doPost_snd_of_not_guarded (henabled : config.rateLimitEnabled = true)
    (hother : request.Guarded clientIp = false) :
    (doPost config request entries).2 clientIp = entries clientIp := by
  rw [doPost_snd henabled]
  split_ifs with hguarded
  · have hne : request.clientIp ≠ clientIp := by
      rintro rfl
      simp [PostRequest.Guarded, hguarded] at hother
    exact Function.update_of_ne (Ne.symm hne) _ _
  · rfl

theorem serve_cons (rest : List PostRequest) : serve config entries (request :: rest) =
    (request, (doPost config request entries).1) ::
      serve config (doPost config request entries).2 rest := (rfl)

theorem letThrough_cons (outcome : Except String PostOutcome)
    (rest : List (PostRequest × Except String PostOutcome)) :
    letThrough clientIp ((request, outcome) :: rest) =
      if request.Guarded clientIp && !isRateLimited outcome then
        request :: letThrough clientIp rest
      else letThrough clientIp rest := by
  unfold letThrough
  rw [List.filter_cons]
  split_ifs <;> rfl

/-- In a run, the limiter lets through of each client what a sliding window of its own
would grant. -/
theorem map_letThrough (henabled : config.rateLimitEnabled = true) (entries : Entries)
    (clientIp : String) (requests : List PostRequest) :
    (letThrough clientIp (serve config entries requests)).map PostRequest.request =
      config.limit.granted (entries clientIp)
        ((requests.filter (·.Guarded clientIp)).map PostRequest.request) := by
  induction requests generalizing entries with
  | nil => rfl
  | cons request rest ih =>
      rw [serve_cons, letThrough_cons]
      cases hguarded : request.Guarded clientIp with
      | false =>
          rw [Bool.false_and, if_neg Bool.false_ne_true, ih,
            List.filter_cons_of_neg (by simp [hguarded]),
            doPost_snd_of_not_guarded henabled hguarded]
      | true =>
          obtain ⟨rfl, hpath⟩ : request.clientIp = clientIp ∧
              isGuardedPostRoute request.path = true := by
            simpa [PostRequest.Guarded] using hguarded
          have hentries : (doPost config request entries).2 = Function.update entries
              request.clientIp (config.limit.enter request.nowMs (entries request.clientIp)).2 := by
            rw [doPost_snd henabled, if_pos hpath]
          rw [isRateLimited_doPost henabled hpath, Bool.not_not, Bool.true_and,
            List.filter_cons_of_pos (by simp [hguarded]), List.map_cons, Limit.granted_cons,
            apply_ite (List.map PostRequest.request), List.map_cons, ih, hentries,
            Function.update_self]
          rfl

/-- **The write limit.** However requests of any clients come to the server, in no window of
the configured length, less the longest time that a request takes from the clock to the lock,
does it go on with more than the configured number of requests of one client: all others are
turned away, before their token is looked at. -/
theorem length_letThrough_le (henabled : config.rateLimitEnabled = true)
    {requests : List PostRequest} {delay : ℤ}
    (hordered : (requests.map PostRequest.lockedMs).Pairwise (· ≤ ·))
    (hdelay : ∀ request ∈ requests, request.nowMs ≤ request.lockedMs ∧
      request.lockedMs ≤ request.nowMs + delay) (clientIp : String) (start : ℤ) :
    ((letThrough clientIp (serve config (fun _ => []) requests)).filter fun request =>
      start < request.lockedMs ∧
        request.lockedMs ≤ start + (config.windowMs - delay)).length ≤ config.maxRequests := by
  have hpositive : 0 < config.maxRequests := by
    have hboth : 0 < config.windowMs ∧ 0 < config.maxRequests := by
      simpa [WriteRequestGuardConfig.rateLimitEnabled] using henabled
    exact hboth.2
  have hentered : (((requests.filter (·.Guarded clientIp)).map PostRequest.request).map
      SlidingWindow.Request.entered).Pairwise (· ≤ ·) := by
    rw [List.map_map]
    exact hordered.sublist (List.filter_sublist.map _)
  have hreading : ∀ entering ∈ (requests.filter (·.Guarded clientIp)).map PostRequest.request,
      entering.reading ≤ entering.entered ∧ entering.entered ≤ entering.reading + delay := by
    intro entering hentering
    obtain ⟨request, hmem, rfl⟩ := List.mem_map.mp hentering
    exact hdelay request (List.mem_of_mem_filter hmem)
  have hbound := config.limit.length_entering_granted_le hentered hreading start
  rw [← map_letThrough henabled (fun _ => []) clientIp requests, Limit.entering, List.filter_map,
    List.length_map] at hbound
  exact Int.le_toNat hpositive.le |>.mp hbound

def twoPerWindow : WriteRequestGuardConfig := ⟨some "secret", 100, 2⟩

def orderAt (nowMs : ℤ) : PostRequest :=
  ⟨"10.0.0.7", "/api/v1/orders", some "Bearer secret", nowMs, nowMs + 1⟩

/-- Orders of two clients, one of them impatient. -/
def burst : List PostRequest :=
  [orderAt 0, orderAt 50, ⟨"10.0.0.8", "/api/v1/orders", none, 60, 61⟩, orderAt 90]

theorem length_letThrough_le_burst :
    ((letThrough "10.0.0.7" (serve twoPerWindow (fun _ => []) burst)).filter fun request =>
      -1 < request.lockedMs ∧
        request.lockedMs ≤ -1 + (twoPerWindow.windowMs - 2)).length ≤ twoPerWindow.maxRequests := by
  have hordered : (burst.map PostRequest.lockedMs).Pairwise (· ≤ ·) := by simp [burst, orderAt]
  have hdelay : ∀ request ∈ burst, request.nowMs ≤ request.lockedMs ∧
      request.lockedMs ≤ request.nowMs + 2 := by
    simp [burst, orderAt]
  exact length_letThrough_le rfl hordered hdelay _ _

/-- What the limiter remembers of a client after a run from the start is within the limit. -/
theorem length_entriesAfter_le (henabled : config.rateLimitEnabled = true)
    (hentries : ∀ clientIp, (entries clientIp).length ≤ config.limit.capacity)
    (requests : List PostRequest) (clientIp : String) :
    (entriesAfter config entries requests clientIp).length ≤ config.limit.capacity := by
  induction requests generalizing entries with
  | nil => exact hentries clientIp
  | cons request rest ih =>
      apply ih
      intro other
      rw [doPost_snd henabled]
      split_ifs with hguarded
      · by_cases hother : other = request.clientIp
        · rw [hother, Function.update_self]
          exact Limit.length_enter_le _ (hentries request.clientIp)
        · rw [Function.update_of_ne hother]
          exact hentries other
      · exact hentries other

/-- A client that is turned away has a full window, and is told when it stops being full. -/
theorem exists_of_isRateLimited (henabled : config.rateLimitEnabled = true)
    (hguarded : request.Guarded clientIp = true)
    (hlimited : isRateLimited (doPost config request entries).1 = true) :
    ∃ first rest, (doPost config request entries).2 clientIp = first :: rest ∧
      config.limit.capacity ≤ (first :: rest).length ∧ request.nowMs < first + config.windowMs ∧
      (doPost config request entries).1 =
        .ok (.blocked (rateLimited (first + config.windowMs - request.nowMs))) := by
  obtain ⟨rfl, hpath⟩ : request.clientIp = clientIp ∧ isGuardedPostRoute request.path = true := by
    simpa [PostRequest.Guarded] using hguarded
  have hrefused : (config.limit.enter request.nowMs (entries request.clientIp)).1 = false := by
    rw [isRateLimited_doPost henabled hpath] at hlimited
    simpa using hlimited
  have hfull : config.limit.capacity ≤
      (config.limit.kept request.nowMs (entries request.clientIp)).length := by
    by_contra hroom
    rw [Limit.enter_of_room hroom] at hrefused
    cases hrefused
  have hpositive : 0 < config.limit.capacity := by
    have hboth : 0 < config.windowMs ∧ 0 < config.maxRequests := by
      simpa [WriteRequestGuardConfig.rateLimitEnabled] using henabled
    exact Int.lt_toNat.mpr hboth.2
  cases hkept : config.limit.kept request.nowMs (entries request.clientIp) with
  | nil =>
      rw [hkept, List.length_nil] at hfull
      omega
  | cons first rest =>
      have hfirst : request.nowMs - config.windowMs < first := Limit.lt_of_kept_eq hkept
      have hwait : max 1 (config.windowMs - (request.nowMs - first)) =
          first + config.windowMs - request.nowMs := by omega
      refine ⟨first, rest, ?_, hkept ▸ hfull, by omega, ?_⟩
      · rw [doPost_snd henabled, if_pos hpath, Function.update_self, Limit.enter_of_full hfull,
          hkept]
      · unfold doPost writeRequestBlockResponse
        rw [if_pos hpath, checkAndConsume_eq henabled, hrefused, hkept]
        simp [Except.map, hwait]

/-- A window stays full until what it remembers longest leaves it. -/
theorem entriesAfter_of_lt (henabled : config.rateLimitEnabled = true) {first : ℤ} {rest : List ℤ}
    (hentries : entries clientIp = first :: rest)
    (hfull : config.limit.capacity ≤ (first :: rest).length) {requests : List PostRequest}
    (hbefore : ∀ request ∈ requests, request.Guarded clientIp = true →
      request.nowMs < first + config.windowMs) :
    entriesAfter config entries requests clientIp = first :: rest := by
  induction requests generalizing entries with
  | nil => exact hentries
  | cons request more ih =>
      refine ih ?_ fun other hother => hbefore other (List.mem_cons_of_mem _ hother)
      cases hguarded : request.Guarded clientIp with
      | false => rw [doPost_snd_of_not_guarded henabled hguarded, hentries]
      | true =>
          have hnow := hbefore request List.mem_cons_self hguarded
          obtain ⟨rfl, hpath⟩ : request.clientIp = clientIp ∧
              isGuardedPostRoute request.path = true := by
            simpa [PostRequest.Guarded] using hguarded
          rw [doPost_snd henabled, if_pos hpath, Function.update_self, hentries,
            Limit.enter_of_lt hfull hnow]

end Limits

section Authentication

/-- What a request has to present: the token of the configuration, if there is one, as the
token of the bearer scheme, both of it in ASCII. -/
def Presents (config : WriteRequestGuardConfig) (authorization : Option String) : Prop :=
  config.authEnabled = true → ∃ scheme token adminToken,
    authorization = some (scheme ++ " " ++ token) ∧ ' ' ∉ scheme.toList ∧
      Text.lower (Text.strip scheme) = "bearer" ∧ Text.strip token = adminToken ∧
      config.adminToken = some adminToken ∧ adminToken.toList.all (·.toNat < 128) = true

theorem partition_blank_eq_some_iff {s first rest : String} :
    Text.partition ' ' s = some (first, rest) ↔
      s = first ++ " " ++ rest ∧ ' ' ∉ first.toList := by
  have hblank : String.singleton ' ' = " " := by decide
  rw [← hblank]
  exact PathPatterns.partition_eq_some_iff

/-- A header has a token just when it is the bearer scheme, a blank and more than blanks. -/
theorem parseBearerToken_eq_some_iff {headerValue : Option String} {token : String} :
    parseBearerToken headerValue = some token ↔ token ≠ "" ∧ ∃ scheme rest,
      headerValue = some (scheme ++ " " ++ rest) ∧ ' ' ∉ scheme.toList ∧
        Text.lower (Text.strip scheme) = "bearer" ∧ Text.strip rest = token := by
  cases headerValue with
  | none => simp [parseBearerToken]
  | some header =>
      cases hpartition : Text.partition ' ' header with
      | none =>
          have hnone : ∀ scheme rest, header = scheme ++ " " ++ rest → ' ' ∈ scheme.toList := by
            intro scheme rest hheader
            by_contra hscheme
            rw [partition_blank_eq_some_iff.mpr ⟨hheader, hscheme⟩] at hpartition
            cases hpartition
          have hblank : Text.strip "" = "" := by decide
          simp only [parseBearerToken, hpartition, Option.getD_none, hblank, if_true]
          constructor
          · intro htoken
            split_ifs at htoken
          · rintro ⟨-, scheme, rest, hheader, hscheme, -⟩
            exact absurd (hnone scheme rest (Option.some.inj hheader)) hscheme
      | some pair =>
          obtain ⟨scheme, rest⟩ := pair
          obtain ⟨hheader, hscheme⟩ := partition_blank_eq_some_iff.mp hpartition
          simp only [parseBearerToken, hpartition, Option.getD_some]
          constructor
          · intro htoken
            split_ifs at htoken with hbearer hempty
            obtain rfl := Option.some.inj htoken
            exact ⟨hempty, scheme, rest, congrArg some hheader, hscheme, not_not.mp hbearer, rfl⟩
          · rintro ⟨hne, scheme', rest', hheader', hscheme', hbearer, rfl⟩
            have hsame := partition_blank_eq_some_iff.mpr ⟨Option.some.inj hheader', hscheme'⟩
            obtain ⟨rfl, rfl⟩ := Prod.mk.inj (Option.some.inj (hpartition.symm.trans hsame))
            rw [if_neg (not_not.mpr hbearer), if_neg hne]

theorem authenticate_eq_ok_true_iff {config : WriteRequestGuardConfig}
    {authorization : Option String} :
    authenticate config authorization = .ok true ↔ Presents config authorization := by
  unfold authenticate Presents
  cases henabled : config.authEnabled with
  | false => simp
  | true =>
      simp only [if_true, forall_const]
      constructor
      · intro hauth
        cases hparse : parseBearerToken authorization with
        | none => simp [hparse] at hauth
        | some token =>
            cases hadmin : config.adminToken with
            | none => simp [hparse, hadmin] at hauth
            | some adminToken =>
                obtain ⟨-, scheme, rest, hheader, hscheme, hbearer, htoken⟩ :=
                  parseBearerToken_eq_some_iff.mp hparse
                simp only [hparse, hadmin, compareDigest] at hauth
                split_ifs at hauth with hascii
                have hsame : token = adminToken := by simpa using hauth
                rw [List.all_append, Bool.and_eq_true] at hascii
                exact ⟨scheme, rest, adminToken, hheader, hscheme, hbearer,
                  htoken.trans hsame, rfl, hascii.2⟩
      · rintro ⟨scheme, rest, adminToken, hheader, hscheme, hbearer, htoken, hadmin, hascii⟩
        have hne : adminToken ≠ "" := by
          simpa [WriteRequestGuardConfig.authEnabled, hadmin] using henabled
        have hparse := parseBearerToken_eq_some_iff.mpr
          ⟨hne, scheme, rest, hheader, hscheme, hbearer, htoken⟩
        simp [hparse, hadmin, compareDigest, List.all_append, hascii]

theorem PostRoute.isGuarded_path (route : PostRoute) : isGuardedPostRoute route.path = true := by
  rw [isGuardedPostRoute, Text.startsWith, List.isPrefixOf_iff_prefix]
  cases route with
  | fixed handler => cases handler <;> simp [PostRoute.path, FixedPost.path]
  | named handler id =>
      cases handler <;> simp [PostRoute.path, NamedPost.pattern, PathPatterns.Pattern.path]

/-- A guarded request that is not rate limited is dispatched if it presents the token. -/
theorem dispatched_doPost_iff {config : WriteRequestGuardConfig} {entries : Entries}
    {request : PostRequest} {route : PostRoute} :
    (doPost config request entries).1 = .ok (.dispatched (some route)) ↔
      route.AskedBy request.path ∧ isRateLimited (doPost config request entries).1 = false ∧
        Presents config request.authorization := by
  rw [PostRoute.AskedBy, ← dispatchPost_eq_some_iff, ← authenticate_eq_ok_true_iff]
  unfold doPost writeRequestBlockResponse
  by_cases hguarded : isGuardedPostRoute request.path = true
  · rw [if_pos hguarded]
    obtain ⟨retryAfterMs, after⟩ := checkAndConsume config request.clientIp request.nowMs entries
    cases retryAfterMs with
    | some retryAfterMs => simp [Except.map, isRateLimited, rateLimited]
    | none =>
        cases hauth : authenticate config request.authorization with
        | error text => simp [Except.map]
        | ok authenticated =>
            cases authenticated <;> simp [Except.map, isRateLimited]
  · have hnone : dispatchPost request.path ≠ some route := fun hroute =>
      hguarded ((dispatchPost_eq_some_iff.mp hroute).2 ▸ route.isGuarded_path)
    rw [if_neg hguarded]
    simp [Except.map, hnone]

/-- **What reaches a handler.** In every run, a request is dispatched to a handler exactly when
its path asks for it, the limiter lets it through and it presents the token: nothing that
changes the store is out of the guard's sight. -/
theorem dispatched_iff {config : WriteRequestGuardConfig} {entries : Entries}
    {requests : List PostRequest} {request : PostRequest} {outcome : Except String PostOutcome}
    (hserved : (request, outcome) ∈ serve config entries requests) (route : PostRoute) :
    outcome = .ok (.dispatched (some route)) ↔
      route.AskedBy request.path ∧ isRateLimited outcome = false ∧
        Presents config request.authorization := by
  induction requests generalizing entries with
  | nil => cases hserved
  | cons first rest ih =>
      rw [serve_cons] at hserved
      rcases List.mem_cons.mp hserved with hfirst | hrest
      · obtain ⟨rfl, rfl⟩ := Prod.mk.inj hfirst
        exact dispatched_doPost_iff
      · exact ih hrest

/-- The second order of the impatient client reaches its handler. -/
theorem dispatched_iff_order :
    (doPost twoPerWindow (orderAt 50) (entriesAfter twoPerWindow (fun _ => []) [orderAt 0])).1 =
        .ok (.dispatched (some (.fixed .createOrder))) ↔
      (PostRoute.fixed .createOrder).AskedBy (orderAt 50).path ∧
        isRateLimited (doPost twoPerWindow (orderAt 50)
          (entriesAfter twoPerWindow (fun _ => []) [orderAt 0])).1 = false ∧
          Presents twoPerWindow (orderAt 50).authorization := by
  have hserved : (orderAt 50, (doPost twoPerWindow (orderAt 50)
      (entriesAfter twoPerWindow (fun _ => []) [orderAt 0])).1) ∈
        serve twoPerWindow (fun _ => []) burst :=
    List.mem_cons_of_mem _ List.mem_cons_self
  exact dispatched_iff hserved _

end Authentication

end TradingPlatform.Routes

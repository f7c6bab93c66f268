import TradingPlatform.Foundation.Runs
import TradingPlatform.Foundation.TokenBucket
import Mathlib.Logic.Function.Basic
import Mathlib.Data.NNRat.Defs
import Mathlib.Algebra.Order.Field.Rat
import Mathlib.Data.NNRat.BigOperators

/-! # Market data fetches and their rate limits

A fetch takes a token of its exchange before it sends its request. A request that is
sent again after a failure takes none.
-/

namespace TradingPlatform.MarketData

section Policies

structure RateLimitPolicy where
  name : String
  ratePerSec : ℚ
  burst : Int

def RateLimitPolicy.enabled (policy : RateLimitPolicy) : Bool :=
  0 < policy.ratePerSec && 0 < policy.burst

structure ExponentialBackoffPolicy where
  initialDelayMs : Int
  maxDelayMs : Int

def ExponentialBackoffPolicy.delaySeconds (policy : ExponentialBackoffPolicy) (attempt : Nat) : ℚ :=
  (min (max policy.initialDelayMs 0 * 2 ^ attempt) (max policy.maxDelayMs 0) : Int) / 1000

/-- The limiter of an exchange. -/
structure TokenBucketRateLimiter where
  policy : RateLimitPolicy
  bucket : TokenBucket.Bucket ℚ

namespace TokenBucketRateLimiter

def new (policy : RateLimitPolicy) (now : ℚ) : TokenBucketRateLimiter where
  policy := policy
  bucket := ⟨max policy.burst 0, now⟩

def refill (limiter : TokenBucketRateLimiter) (now : ℚ) : TokenBucketRateLimiter where
  policy := limiter.policy
  bucket := limiter.bucket.refill limiter.policy.ratePerSec limiter.policy.burst now

/-- Wait for a token, the clock being read after each of the pauses. Nothing is granted
when the pauses come to an end before there is a token. -/
def acquire (limiter : TokenBucketRateLimiter) (now : ℚ) :
    List ℚ≥0 → Option ℚ × TokenBucketRateLimiter
  | [] => (none, limiter)
  | pause :: rest =>
      let refilled := limiter.refill (now + pause)
      match refilled.bucket.take? with
      | some left => (some (now + pause), { refilled with bucket := left })
      | none => refilled.acquire (now + pause) rest

section Acquiring

variable {limiter : TokenBucketRateLimiter} {now : ℚ} {pause : ℚ≥0} {rest : List ℚ≥0}

theorem acquire_nil : limiter.acquire now [] = (none, limiter) := (rfl)

theorem acquire_cons : limiter.acquire now (pause :: rest) =
    match (limiter.refill (now + pause)).bucket.take? with
    | some left => (some (now + pause), { limiter.refill (now + pause) with bucket := left })
    | none => (limiter.refill (now + pause)).acquire (now + pause) rest :=
  (rfl)

end Acquiring

end TokenBucketRateLimiter

end Policies

section Fetching

/-- What comes of a request that was sent. -/
inductive HttpAnswer where
  | json
  | notJson
  | httpError (status : Nat)
  | networkError
  | otherException
deriving DecidableEq, Repr

/-- The code of the error a single fetch raises; another exception has none. -/
def HttpAnswer.errorCode : HttpAnswer → Option String
  | .json | .otherException => none
  | .notJson => some "UPSTREAM_INVALID_RESPONSE"
  | .httpError status =>
      if status = 404 then some "MARKET_NOT_FOUND"
      else if status = 429 then some "UPSTREAM_RATE_LIMITED"
      else some "UPSTREAM_HTTP_ERROR"
  | .networkError => some "UPSTREAM_NETWORK_ERROR"

/-- A request, sent some time after it could have been. -/
structure Attempt where
  pause : ℚ≥0
  answer : HttpAnswer

def retriedCodes : List String :=
  ["UPSTREAM_RATE_LIMITED", "UPSTREAM_HTTP_ERROR", "UPSTREAM_NETWORK_ERROR"]

/-- Whether an answer is a reason to send a request again. -/
def HttpAnswer.isRetried (answer : HttpAnswer) : Bool := answer.errorCode.any (· ∈ retriedCodes)

variable (backoff : ExponentialBackoffPolicy) (attempts : Nat → Attempt)

/-- When the requests of a fetch are sent, from an attempt on, of which some may still be
retried. -/
def sendTimes : (remaining attempt : Nat) → (now : ℚ) → List ℚ
  | 0, attempt, now => [now + (attempts attempt).pause]
  | remaining + 1, attempt, now =>
      let sentAt := now + (attempts attempt).pause
      if (attempts attempt).answer.isRetried then
        sentAt :: sendTimes remaining (attempt + 1) (sentAt + backoff.delaySeconds attempt)
      else [sentAt]

/-- A fetch: how long it pauses before each reading of the clock while it waits for a
token, and what comes of its requests. -/
structure Fetch where
  exchange : String
  pauses : List ℚ≥0
  attempts : Nat → Attempt

/-- A request that was sent to an exchange, and when its fetch was allowed to send. -/
structure Sent where
  exchange : String
  event : TokenBucket.Event ℚ

/-- The connector, its clock, and the requests it has sent, latest first. -/
structure ConnectorState where
  now : ℚ
  limiters : String → Option TokenBucketRateLimiter
  sent : List Sent

variable (retryCount : Nat)

/-- The requests of a fetch that may send from an instant on. -/
def ConnectorState.send (s : ConnectorState) (fetch : Fetch) (allowedAt : ℚ) : ConnectorState :=
  let times := sendTimes backoff fetch.attempts retryCount 0 allowedAt
  { s with
    now := times.getLastD allowedAt
    sent := times.reverse.map (fun sentAt => ⟨fetch.exchange, ⟨allowedAt, sentAt⟩⟩) ++ s.sent }

/-- Fetch a document of an exchange. -/
def ConnectorState.fetchJson (s : ConnectorState) (fetch : Fetch) : ConnectorState :=
  match s.limiters fetch.exchange with
  | none => s.send backoff retryCount fetch s.now
  | some limiter =>
      if !limiter.policy.enabled then s.send backoff retryCount fetch s.now
      else
        match limiter.acquire s.now fetch.pauses with
        | (none, waiting) =>
            { s with
              now := s.now + (fetch.pauses.sum : ℚ≥0)
              limiters := Function.update s.limiters fetch.exchange (some waiting) }
        | (some grantedAt, left) =>
            { s with
              limiters := Function.update s.limiters fetch.exchange (some left) }.send backoff
              retryCount fetch grantedAt

/-- A connector with the policies of its exchanges, before it has fetched anything. -/
def ConnectorState.start (policies : String → Option RateLimitPolicy) (now : ℚ) :
    ConnectorState where
  now := now
  limiters := fun exchange => (policies exchange).map (TokenBucketRateLimiter.new · now)
  sent := []

end Fetching

section Windows

/-- The requests that were sent to an exchange, latest first. -/
def ConnectorState.eventsOf (s : ConnectorState) (exchange : String) :
    List (TokenBucket.Event ℚ) :=
  (s.sent.filter (·.exchange = exchange)).map Sent.event

/-- How many requests were sent to an exchange in a window. -/
def ConnectorState.sentWithin (s : ConnectorState) (exchange : String) (start length : ℚ) : Nat :=
  ((s.eventsOf exchange).filter fun event =>
    start ≤ event.happensAt ∧ event.happensAt ≤ start + length).length

/-- A fetch sends a single request, and leaves no sooner after its token than the fetches
of the exchange before it. -/
structure SendsOnce (retryCount : Nat) (exchange : String) (s : ConnectorState) (fetch : Fetch) :
    Prop where
  once : fetch.exchange = exchange → retryCount = 0 ∨ (fetch.attempts 0).answer.isRetried = false
  steady : fetch.exchange = exchange →
    ∀ event ∈ s.eventsOf exchange, event.lag ≤ (fetch.attempts 0).pause

end Windows

section Paying

variable {policy : RateLimitPolicy} {limiter left : TokenBucketRateLimiter} {grants : List ℚ}
  {now : ℚ} {granted : Option ℚ}

theorem RateLimitPolicy.enabled_iff : policy.enabled = true ↔ 0 < policy.ratePerSec ∧
    0 < policy.burst := by
  simp [RateLimitPolicy.enabled]

/-- A limiter of a policy, whose grants so far are paid for. -/
structure Limits (policy : RateLimitPolicy) (limiter : TokenBucketRateLimiter) (grants : List ℚ)
    (now : ℚ) : Prop where
  policy_eq : limiter.policy = policy
  paid : TokenBucket.Paid policy.ratePerSec policy.burst limiter.bucket grants
  updatedAt_le : limiter.bucket.updatedAt ≤ now

theorem limits_new (henabled : policy.enabled = true) :
    Limits policy (.new policy now) [] now := by
  have hburst := (RateLimitPolicy.enabled_iff.mp henabled).2
  refine ⟨rfl, ?_, le_rfl⟩
  have hfull : (TokenBucketRateLimiter.new policy now).bucket = ⟨(policy.burst : ℚ), now⟩ := by
    rw [TokenBucketRateLimiter.new, ← Int.cast_zero, ← Int.cast_max, max_eq_left hburst.le]
  rw [hfull]
  exact TokenBucket.paid_full (by exact_mod_cast hburst.le)

theorem Limits.mono {later : ℚ} (hlimits : Limits policy limiter grants now)
    (hlater : now ≤ later) :
    Limits policy limiter grants later :=
  ⟨hlimits.policy_eq, hlimits.paid, hlimits.updatedAt_le.trans hlater⟩

theorem Limits.refill {later : ℚ} (hlimits : Limits policy limiter grants now)
    (hrate : 0 ≤ policy.ratePerSec) (hlater : now ≤ later) :
    Limits policy (limiter.refill later) grants later := by
  obtain ⟨rfl, hpaid, hupdated⟩ := hlimits
  exact ⟨rfl, hpaid.refill hrate (hupdated.trans hlater), le_rfl⟩

/-- What a limiter grants is paid for, however long it waits. -/
theorem Limits.acquire (hrate : 0 ≤ policy.ratePerSec) {pauses : List ℚ≥0}
    (hlimits : Limits policy limiter grants now)
    (hacquire : limiter.acquire now pauses = (granted, left)) :
    now ≤ granted.getD (now + (pauses.sum : ℚ≥0)) ∧
      Limits policy left (granted.toList ++ grants) (granted.getD (now + (pauses.sum : ℚ≥0))) := by
  induction pauses generalizing limiter now with
  | nil =>
      rw [TokenBucketRateLimiter.acquire_nil, Prod.mk.injEq] at hacquire
      obtain ⟨rfl, rfl⟩ := hacquire
      simpa using hlimits
  | cons pause rest ih =>
      have hpause : now ≤ now + (pause : ℚ) := le_add_of_nonneg_right pause.coe_nonneg
      have hrefilled := hlimits.refill hrate hpause
      rw [TokenBucketRateLimiter.acquire_cons] at hacquire
      split at hacquire
      next bucket htake =>
        rw [Prod.mk.injEq] at hacquire
        obtain ⟨rfl, rfl⟩ := hacquire
        have hupdated : bucket.updatedAt = now + pause := TokenBucket.Bucket.updatedAt_of_take htake
        exact ⟨hpause, hrefilled.policy_eq, hrefilled.paid.take htake, hupdated.le⟩
      next =>
        obtain ⟨hnow, hleft⟩ := ih hrefilled hacquire
        have hsum : now + ((pause :: rest).sum : ℚ≥0) = now + pause + (rest.sum : ℚ≥0) := by
          rw [List.sum_cons, NNRat.cast_add, add_assoc]
        rw [hsum]
        exact ⟨hpause.trans hnow, hleft⟩

/-- The clock does not run backwards while a limiter waits. -/
theorem le_of_acquire {grantedAt : ℚ} {pauses : List ℚ≥0}
    (hacquire : limiter.acquire now pauses = (some grantedAt, left)) : now ≤ grantedAt := by
  induction pauses generalizing limiter now with
  | nil =>
      rw [TokenBucketRateLimiter.acquire_nil] at hacquire
      cases hacquire
  | cons pause rest ih =>
      have hpause : now ≤ now + (pause : ℚ) := le_add_of_nonneg_right pause.coe_nonneg
      rw [TokenBucketRateLimiter.acquire_cons] at hacquire
      split at hacquire
      next =>
        rw [Prod.mk.injEq, Option.some.injEq] at hacquire
        exact hacquire.1 ▸ hpause
      next => exact hpause.trans (ih hacquire)

end Paying

section Sending

variable {backoff : ExponentialBackoffPolicy} {attempts : Nat → Attempt} {retryCount : Nat}
  {s : ConnectorState} {fetch : Fetch} {exchange : String} {allowedAt now : ℚ}

theorem sendTimes_once (honce : retryCount = 0 ∨ (attempts 0).answer.isRetried = false) :
    sendTimes backoff attempts retryCount 0 now = [now + (attempts 0).pause] := by
  cases retryCount with
  | zero => rfl
  | succ remaining =>
      have hnot : (attempts 0).answer.isRetried = false := honce.resolve_left (Nat.succ_ne_zero _)
      rw [sendTimes, hnot]
      rfl

theorem ExponentialBackoffPolicy.delaySeconds_nonneg (backoff : ExponentialBackoffPolicy)
    (attempt : Nat) :
    0 ≤ backoff.delaySeconds attempt := by
  have hms : 0 ≤ min (max backoff.initialDelayMs 0 * 2 ^ attempt) (max backoff.maxDelayMs 0) :=
    le_min (mul_nonneg (le_max_right _ _) (by positivity)) (le_max_right _ _)
  exact div_nonneg (by exact_mod_cast hms) (by norm_num)

theorem le_of_mem_sendTimes {remaining attempt : Nat} {sentAt : ℚ}
    (hsent : sentAt ∈ sendTimes backoff attempts remaining attempt now) : now ≤ sentAt := by
  induction remaining generalizing attempt now with
  | zero =>
      rw [sendTimes, List.mem_singleton] at hsent
      rw [hsent]
      exact le_add_of_nonneg_right (attempts attempt).pause.coe_nonneg
  | succ remaining ih =>
      have hpause := le_add_of_nonneg_right (a := now) (attempts attempt).pause.coe_nonneg
      unfold sendTimes at hsent
      dsimp only at hsent
      split at hsent
      next =>
        rcases List.mem_cons.mp hsent with rfl | hlater
        · exact hpause
        · have hdelay := backoff.delaySeconds_nonneg attempt
          linarith [ih hlater]
      next =>
        rw [List.mem_singleton.mp hsent]
        exact hpause

theorem le_now_send : allowedAt ≤ (s.send backoff retryCount fetch allowedAt).now := by
  unfold ConnectorState.send
  dsimp only
  rw [List.getLastD_eq_getLast?]
  cases hlast : (sendTimes backoff fetch.attempts retryCount 0 allowedAt).getLast? with
  | none => exact le_rfl
  | some sentAt => exact le_of_mem_sendTimes (List.mem_of_getLast? hlast)

theorem eventsOf_send_other (hother : fetch.exchange ≠ exchange) :
    (s.send backoff retryCount fetch allowedAt).eventsOf exchange = s.eventsOf exchange := by
  simp [ConnectorState.send, ConnectorState.eventsOf, List.filter_append, List.filter_map,
    Function.comp_def, hother]

theorem eventsOf_send_once (hsame : fetch.exchange = exchange)
    (honce : retryCount = 0 ∨ (fetch.attempts 0).answer.isRetried = false) :
    (s.send backoff retryCount fetch allowedAt).eventsOf exchange =
      ⟨allowedAt, allowedAt + (fetch.attempts 0).pause⟩ :: s.eventsOf exchange := by
  rw [ConnectorState.send, sendTimes_once honce]
  simp [ConnectorState.eventsOf, hsame]

end Sending

section Runs

variable {policy : RateLimitPolicy} {backoff : ExponentialBackoffPolicy} {retryCount : Nat}
  {s : ConnectorState} {fetch : Fetch} {exchange : String}

/-- The requests to an exchange are paid for, and keep their distances from their tokens. -/
structure PaysFor (policy : RateLimitPolicy) (exchange : String) (s : ConnectorState) : Prop where
  limits : ∃ limiter, s.limiters exchange = some limiter ∧
    Limits policy limiter ((s.eventsOf exchange).map TokenBucket.Event.grantedAt) s.now
  steady : TokenBucket.Steady (s.eventsOf exchange)

theorem paysFor_start {policies : String → Option RateLimitPolicy} (now : ℚ)
    (hpolicy : policies exchange = some policy) (henabled : policy.enabled = true) :
    PaysFor policy exchange (.start policies now) := by
  refine ⟨⟨.new policy now, ?_, limits_new henabled⟩, List.Pairwise.nil⟩
  change (policies exchange).map _ = _
  rw [hpolicy, Option.map_some]

/-- A fetch of another exchange spends nothing. -/
theorem PaysFor.fetchJson_other (hpays : PaysFor policy exchange s)
    (hother : fetch.exchange ≠ exchange) :
    PaysFor policy exchange (s.fetchJson backoff retryCount fetch) := by
  obtain ⟨⟨limiter, hlookup, hlimits⟩, hsteady⟩ := hpays
  have hsent : ∀ (s' : ConnectorState) (allowedAt : ℚ), s'.sent = s.sent →
      s'.limiters exchange = some limiter → s.now ≤ allowedAt →
      PaysFor policy exchange (s'.send backoff retryCount fetch allowedAt) := by
    intro s' allowedAt hsame hlookup' hnow
    have hevents : (s'.send backoff retryCount fetch allowedAt).eventsOf exchange =
        s.eventsOf exchange := by
      rw [eventsOf_send_other hother, ConnectorState.eventsOf, ConnectorState.eventsOf, hsame]
    refine ⟨⟨limiter, hlookup', ?_⟩, by rwa [hevents]⟩
    rw [hevents]
    exact hlimits.mono (hnow.trans le_now_send)
  unfold ConnectorState.fetchJson
  split
  next => exact hsent s s.now rfl hlookup le_rfl
  next used hused =>
    split
    next => exact hsent s s.now rfl hlookup le_rfl
    next =>
      have hkeep : ∀ left, Function.update s.limiters fetch.exchange left exchange =
          some limiter := fun left => by rwa [Function.update_of_ne hother.symm]
      split
      next waiting _ =>
        refine ⟨⟨limiter, hkeep waiting, hlimits.mono ?_⟩, hsteady⟩
        exact le_add_of_nonneg_right (NNRat.coe_nonneg _)
      next grantedAt left hacquire =>
        exact hsent _ grantedAt rfl (hkeep left) (le_of_acquire hacquire)

/-- A fetch that sends a single request spends the token it was granted. -/
theorem PaysFor.fetchJson_once (henabled : policy.enabled = true)
    (hpays : PaysFor policy exchange s) (hsame : fetch.exchange = exchange)
    (honce : SendsOnce retryCount exchange s fetch) :
    PaysFor policy exchange (s.fetchJson backoff retryCount fetch) := by
  obtain ⟨⟨limiter, hlookup, hlimits⟩, hsteady⟩ := hpays
  have hrate := (RateLimitPolicy.enabled_iff.mp henabled).1
  unfold ConnectorState.fetchJson
  rw [hsame, hlookup]
  dsimp only
  rw [hlimits.policy_eq, henabled, Bool.not_true, if_neg Bool.false_ne_true]
  split
  next waiting hacquire =>
    obtain ⟨-, hwaiting⟩ := hlimits.acquire hrate.le hacquire
    exact ⟨⟨waiting, Function.update_self .., hwaiting⟩, hsteady⟩
  next grantedAt left hacquire =>
    obtain ⟨-, hleft⟩ := hlimits.acquire hrate.le hacquire
    have hevents : (({ s with limiters := Function.update s.limiters exchange (some left) }).send
        backoff retryCount fetch grantedAt).eventsOf exchange =
          ⟨grantedAt, grantedAt + (fetch.attempts 0).pause⟩ :: s.eventsOf exchange :=
      eventsOf_send_once hsame (honce.once hsame)
    refine ⟨⟨left, Function.update_self .., ?_⟩, ?_⟩
    · rw [hevents]
      exact hleft.mono le_now_send
    · rw [hevents]
      refine List.pairwise_cons.mpr ⟨fun event hevent => ?_, hsteady⟩
      have hlag := honce.steady hsame event hevent
      rwa [TokenBucket.Event.lag, TokenBucket.Event.lag, add_sub_cancel_left]

theorem PaysFor.sentWithin_le (henabled : policy.enabled = true)
    (hpays : PaysFor policy exchange s) (start length : ℚ) (hlength : 0 ≤ length) :
    (s.sentWithin exchange start length : ℚ) ≤ policy.burst + policy.ratePerSec * length := by
  obtain ⟨hrate, hburst⟩ := RateLimitPolicy.enabled_iff.mp henabled
  obtain ⟨⟨limiter, -, hlimits⟩, hsteady⟩ := hpays
  exact TokenBucket.length_window_le hrate.le (by exact_mod_cast hburst) hlimits.paid.spaced
    hsteady start length hlength

end Runs

/-- In a run of fetches that send single requests, those of an exchange whose policy is
enabled stay within the policy in every window. -/
theorem sentWithin_le_of_sendsOnce (backoff : ExponentialBackoffPolicy) (retryCount : Nat)
    (policies : String → Option RateLimitPolicy) (exchange : String) (policy : RateLimitPolicy)
    (now : ℚ) (fetches : List Fetch)
    (hpolicy : policies exchange = some policy) (henabled : policy.enabled = true)
    (hfetches : Runs.Along (ConnectorState.fetchJson backoff retryCount)
      (SendsOnce retryCount exchange) (.start policies now) fetches) :
    Runs.Throughout (ConnectorState.fetchJson backoff retryCount)
      (fun s => ∀ start length : ℚ, 0 ≤ length →
        (s.sentWithin exchange start length : ℚ) ≤ policy.burst + policy.ratePerSec * length)
      (.start policies now) fetches := by
  have hpays := hfetches.throughout (paysFor_start now hpolicy henabled)
    fun s fetch hpays honce => by
      by_cases hsame : fetch.exchange = exchange
      · exact hpays.fetchJson_once henabled hsame honce
      · exact hpays.fetchJson_other hsame
  exact hpays.mono fun s hs start length => hs.sentWithin_le henabled start length

/-- One request a second, none of them in advance. -/
def onePerSecond : RateLimitPolicy where
  name := "upbit"
  ratePerSec := 1
  burst := 1

/-- A fetch that gets its token at once and whose first request has this answer. -/
def promptFetch (first : HttpAnswer) : Fetch where
  exchange := "upbit"
  pauses := [0]
  attempts attempt := ⟨0, if attempt = 0 then first else .json⟩

def halfSecond : ExponentialBackoffPolicy where
  initialDelayMs := 500
  maxDelayMs := 2000

theorem sentWithin_le_of_sendsOnce_json :
    Runs.Throughout (ConnectorState.fetchJson halfSecond 1)
      (fun s => ∀ start length : ℚ, 0 ≤ length →
        (s.sentWithin "upbit" start length : ℚ) ≤ (1 : Int) + 1 * length)
      (.start (fun _ => some onePerSecond) 0) [promptFetch .json] := by
  refine sentWithin_le_of_sendsOnce halfSecond 1 (fun _ => some onePerSecond) "upbit" onePerSecond 0
    [promptFetch .json] rfl (by decide +kernel) ⟨⟨fun _ => Or.inr ?_, fun _ event hevent => ?_⟩, ?_⟩
  · decide +kernel
  · exact absurd hevent List.not_mem_nil
  · trivial

/-- A request that fails is sent again half a second later, without a token. -/
theorem not_sentWithin_le :
    ¬ ∀ (backoff : ExponentialBackoffPolicy) (retryCount : Nat)
      (policies : String → Option RateLimitPolicy) (exchange : String) (policy : RateLimitPolicy)
      (now : ℚ) (fetches : List Fetch),
      policies exchange = some policy → policy.enabled = true →
      Runs.Throughout (ConnectorState.fetchJson backoff retryCount)
        (fun s => ∀ start length : ℚ, 0 ≤ length →
          (s.sentWithin exchange start length : ℚ) ≤ policy.burst + policy.ratePerSec * length)
        (.start policies now) fetches := by
  intro hall
  have hrun := hall halfSecond 1 (fun _ => some onePerSecond) "upbit" onePerSecond 0
    [promptFetch .networkError] rfl (by decide +kernel)
  have htwo := hrun.last 0 (1 / 2) (by norm_num)
  revert htwo
  decide +kernel

end TradingPlatform.MarketData

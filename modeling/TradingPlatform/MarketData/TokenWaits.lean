import TradingPlatform.MarketData.RateLimits

/-! # Waiting for a token

The loop of `acquire`, with the sleeps it asks for. Before each reading of the clock
any time may pass beyond what was slept, so the clock is monotone and a sleep takes at
least as long as it was asked to.
-/

namespace TradingPlatform.MarketData

section Waits

/-- An `acquire` on its way, with the token counts it has left so far, latest first. -/
structure Wait where
  limiter : TokenBucketRateLimiter
  now : ℚ
  waited : ℚ := 0
  sleeps : Nat := 0
  counts : List ℚ := []

/-- One pass through the loop, and whether it took a token. -/
def Wait.pass (wait : Wait) (delay : ℚ≥0) : Wait × Bool :=
  let readAt := wait.now + delay
  let refilled := wait.limiter.refill readAt
  let counts := refilled.bucket.tokens :: wait.counts
  match refilled.bucket.take? with
  | some left =>
      ({ wait with
          limiter := { refilled with bucket := left }
          now := readAt
          counts := left.tokens :: counts }, true)
  | none =>
      let missingTokens := 1 - refilled.bucket.tokens
      let sleepSeconds := missingTokens / refilled.policy.ratePerSec
      if 0 < sleepSeconds then
        ({ limiter := refilled
           now := readAt + sleepSeconds
           waited := wait.waited + sleepSeconds
           sleeps := wait.sleeps + 1
           counts := counts }, false)
      else ({ wait with limiter := refilled, now := readAt, counts := counts }, false)

/-- The passes of the loop up to the one that takes a token, out of `fuel` at most. -/
def Wait.loop (delays : Nat → ℚ≥0) : (fuel pass : Nat) → Wait → Option Wait
  | 0, _, _ => none
  | fuel + 1, pass, wait =>
      let (after, taken) := wait.pass (delays pass)
      if taken then some after else Wait.loop delays fuel (pass + 1) after

theorem Wait.loop_succ (delays : Nat → ℚ≥0) (fuel pass : Nat) (wait : Wait) :
    Wait.loop delays (fuel + 1) pass wait =
      if (wait.pass (delays pass)).2 then some (wait.pass (delays pass)).1
      else Wait.loop delays fuel (pass + 1) (wait.pass (delays pass)).1 :=
  (rfl)

/-- The whole of an `acquire`; a policy that is not enabled grants without a token. -/
def TokenBucketRateLimiter.waitForToken (limiter : TokenBucketRateLimiter) (fuel : Nat)
    (delays : Nat → ℚ≥0) (now : ℚ) : Option Wait :=
  if !limiter.policy.enabled then some { limiter := limiter, now := now }
  else Wait.loop delays fuel 0 { limiter := limiter, now := now }

/-- A limiter with its clock, the instants it has granted a token at, the token counts it
has had and how often each `acquire` has slept, all latest first. An `acquire` that has
not come to an end has slept any number of times. -/
structure LimiterHistory where
  limiter : TokenBucketRateLimiter
  now : ℚ
  grants : List ℚ
  counts : List ℚ
  sleeps : List (Option Nat)

def LimiterHistory.start (policy : RateLimitPolicy) (now : ℚ) : LimiterHistory where
  limiter := .new policy now
  now := now
  grants := []
  counts := [(TokenBucketRateLimiter.new policy now).bucket.tokens]
  sleeps := []

/-- One call of `acquire`. -/
def LimiterHistory.acquire (fuel : Nat) (s : LimiterHistory) (delays : Nat → ℚ≥0) :
    LimiterHistory :=
  match s.limiter.waitForToken fuel delays s.now with
  | none => { s with sleeps := none :: s.sleeps }
  | some wait =>
      { limiter := wait.limiter
        now := wait.now
        grants := wait.now :: s.grants
        counts := wait.counts ++ s.counts
        sleeps := some wait.sleeps :: s.sleeps }

/-- The loop is the wait of a fetch, whose pauses are the sleeps with what passes beyond. -/
theorem exists_pauses_of_loop {delays : Nat → ℚ≥0} {fuel pass : Nat} {wait after : Wait}
    (hloop : Wait.loop delays fuel pass wait = some after) :
    ∃ pause rest, wait.limiter.acquire wait.now (pause :: rest) =
      (some after.now, after.limiter) := by
  induction fuel generalizing pass wait with
  | zero => cases hloop
  | succ fuel ih =>
      rw [Wait.loop_succ, Wait.pass] at hloop
      dsimp only at hloop
      cases htake : (wait.limiter.refill (wait.now + delays pass)).bucket.take? with
      | some left =>
          rw [htake] at hloop
          refine ⟨delays pass, [], ?_⟩
          simp only [if_true, Option.some.injEq] at hloop
          rw [TokenBucketRateLimiter.acquire_cons, htake, ← hloop]
      | none =>
          rw [htake] at hloop
          dsimp only at hloop
          split at hloop
          next hsleep =>
            rw [if_neg (by simp)] at hloop
            obtain ⟨pause, rest, hacquire⟩ := ih hloop
            dsimp only at hacquire
            refine ⟨delays pass, (⟨_, hsleep.le⟩ + pause) :: rest, ?_⟩
            rw [TokenBucketRateLimiter.acquire_cons, htake, ← hacquire]
            simp only [TokenBucketRateLimiter.acquire_cons, add_assoc]
            rfl
          next =>
            rw [if_neg (by simp)] at hloop
            obtain ⟨pause, rest, hacquire⟩ := ih hloop
            refine ⟨delays pass, pause :: rest, ?_⟩
            rw [TokenBucketRateLimiter.acquire_cons, htake]
            exact hacquire

end Waits

section Passes

variable {policy : RateLimitPolicy} {wait : Wait} {delay : ℚ≥0} {grants : List ℚ}

/-- A token count within the burst. -/
def Holds (policy : RateLimitPolicy) (count : ℚ) : Prop := 0 ≤ count ∧ count ≤ policy.burst

/-- A wait whose limiter keeps to its policy. -/
structure Wait.Limited (policy : RateLimitPolicy) (grants : List ℚ) (wait : Wait) : Prop where
  limits : Limits policy wait.limiter grants wait.now
  counts : ∀ count ∈ wait.counts, Holds policy count

theorem Limits.holds {limiter : TokenBucketRateLimiter} {now : ℚ}
    (hlimits : Limits policy limiter grants now) : Holds policy limiter.bucket.tokens :=
  ⟨hlimits.paid.nonneg, hlimits.paid.bounded⟩

/-- The next pass takes a token. -/
def Wait.Ripe (wait : Wait) : Prop :=
  1 ≤ wait.limiter.bucket.tokens +
    (wait.now - wait.limiter.bucket.updatedAt) * wait.limiter.policy.ratePerSec

/-- A pass that takes a token spends it; one that does not sleeps until there is one. -/
theorem Wait.Limited.pass (henabled : policy.enabled = true)
    (hlimited : wait.Limited policy grants) :
    ((wait.pass delay).2 = true → (wait.pass delay).1.sleeps = wait.sleeps ∧
      (wait.pass delay).1.Limited policy ((wait.pass delay).1.now :: grants)) ∧
    ((wait.pass delay).2 = false → (wait.pass delay).1.sleeps = wait.sleeps + 1 ∧
      (wait.pass delay).1.Ripe ∧ (wait.pass delay).1.Limited policy grants) := by
  obtain ⟨hrate, hburst⟩ := RateLimitPolicy.enabled_iff.mp henabled
  have hlater : wait.now ≤ wait.now + (delay : ℚ) := le_add_of_nonneg_right delay.coe_nonneg
  have hrefilled := hlimited.limits.refill hrate.le hlater
  have hcounts : ∀ count ∈ (wait.limiter.refill (wait.now + delay)).bucket.tokens :: wait.counts,
      Holds policy count := by
    intro count hcount
    rcases List.mem_cons.mp hcount with rfl | hold
    · exact hrefilled.holds
    · exact hlimited.counts count hold
  unfold Wait.pass
  dsimp only
  split
  next left htake =>
    refine ⟨fun _ => ⟨rfl, ?_⟩, fun h => absurd h (by simp)⟩
    have hpaid := hrefilled.paid.take htake
    have hupdated : left.updatedAt = wait.now + delay :=
      TokenBucket.Bucket.updatedAt_of_take htake
    refine ⟨⟨hrefilled.policy_eq, hpaid, hupdated.le⟩, fun count hcount => ?_⟩
    rcases List.mem_cons.mp hcount with rfl | hold
    · exact ⟨hpaid.nonneg, hpaid.bounded⟩
    · exact hcounts count hold
  next hnone =>
    have hmissing := sub_pos.mpr (TokenBucket.Bucket.take?_eq_none.mp hnone)
    have hrefilledRate : 0 < (wait.limiter.refill (wait.now + delay)).policy.ratePerSec :=
      hrefilled.policy_eq.symm ▸ hrate
    have hsleep := div_pos hmissing hrefilledRate
    rw [if_pos hsleep]
    refine ⟨fun h => absurd h (by simp), fun _ => ⟨rfl, ?_, hrefilled.mono ?_, hcounts⟩⟩
    · -- What is slept lets in what was missing.
      have hflow := div_mul_cancel₀ (1 - (wait.limiter.refill (wait.now + delay)).bucket.tokens)
        hrefilledRate.ne'
      change 1 ≤ (wait.limiter.refill (wait.now + delay)).bucket.tokens +
        (wait.now + delay + _ - (wait.now + delay)) * _
      rw [add_sub_cancel_left, hflow]
      linarith
    · exact le_add_of_nonneg_right hsleep.le

theorem Wait.Ripe.pass (henabled : policy.enabled = true) (hripe : wait.Ripe)
    (hlimited : wait.Limited policy grants) : (wait.pass delay).2 = true := by
  obtain ⟨hrate, hburst⟩ := RateLimitPolicy.enabled_iff.mp henabled
  have hpolicy := hlimited.limits.policy_eq
  have helapsed : wait.now - wait.limiter.bucket.updatedAt ≤
      max (wait.now + delay - wait.limiter.bucket.updatedAt) 0 :=
    le_max_of_le_left (sub_le_sub_right (le_add_of_nonneg_right delay.coe_nonneg) _)
  have hwhole : 1 ≤ (wait.limiter.refill (wait.now + delay)).bucket.tokens := by
    have hflow := mul_le_mul_of_nonneg_right helapsed hrate.le
    rw [Wait.Ripe, hpolicy] at hripe
    refine le_min ?_ ?_
    · rw [hpolicy]
      exact_mod_cast hburst
    · rw [hpolicy]
      linarith
  unfold Wait.pass
  dsimp only
  rw [TokenBucket.Bucket.take?_of_le hwhole]

/-- With two passes allowed the loop comes to an end, after one sleep at most. -/
theorem Wait.Limited.loop (henabled : policy.enabled = true)
    (hlimited : wait.Limited policy grants) (delays : Nat → ℚ≥0) (fuel pass : Nat) :
    ∃ after, Wait.loop delays (fuel + 2) pass wait = some after ∧
      after.sleeps ≤ wait.sleeps + 1 ∧ after.Limited policy (after.now :: grants) := by
  obtain ⟨htaken, hslept⟩ := @Wait.Limited.pass policy wait (delays pass) grants henabled hlimited
  rw [Wait.loop_succ]
  cases hfirst : (wait.pass (delays pass)).2 with
  | true =>
      obtain ⟨hsleeps, hafter⟩ := htaken hfirst
      exact ⟨_, if_pos rfl, by omega, hafter⟩
  | false =>
      obtain ⟨hsleeps, hripe, hafter⟩ := hslept hfirst
      have hsecond := @Wait.Ripe.pass policy _ (delays (pass + 1)) grants henabled hripe hafter
      obtain ⟨hsame, hgranted⟩ :=
        (@Wait.Limited.pass policy _ (delays (pass + 1)) grants henabled hafter).1 hsecond
      rw [if_neg (by simp), Wait.loop_succ, if_pos hsecond]
      exact ⟨_, rfl, by omega, hgranted⟩

end Passes

section Histories

variable {policy : RateLimitPolicy}

/-- A history within a policy: every token count within the burst, in every window as many
grants as the burst and the rate allow, and no `acquire` that slept more than once. -/
structure WithinPolicy (policy : RateLimitPolicy) (s : LimiterHistory) : Prop where
  counts : ∀ count ∈ s.limiter.bucket.tokens :: s.counts, 0 ≤ count ∧ count ≤ policy.burst
  grants : ∀ start length : ℚ, 0 ≤ length →
    ((s.grants.filter fun grantedAt => start ≤ grantedAt ∧ grantedAt ≤ start + length).length : ℚ) ≤
      policy.burst + policy.ratePerSec * length
  sleeps : ∀ slept ∈ s.sleeps, slept = some 0 ∨ slept = some 1

/-- What the calls of `acquire` keep. -/
structure LimiterHistory.Limited (policy : RateLimitPolicy) (s : LimiterHistory) : Prop where
  limits : Limits policy s.limiter s.grants s.now
  counts : ∀ count ∈ s.counts, Holds policy count
  sleeps : ∀ slept ∈ s.sleeps, slept = some 0 ∨ slept = some 1

theorem limited_start (henabled : policy.enabled = true) (now : ℚ) :
    (LimiterHistory.start policy now).Limited policy := by
  have hlimits := @limits_new policy now henabled
  refine ⟨hlimits, fun count hcount => ?_, fun slept hslept => absurd hslept List.not_mem_nil⟩
  rw [List.mem_singleton.mp hcount]
  exact hlimits.holds

theorem LimiterHistory.Limited.acquire (henabled : policy.enabled = true) {s : LimiterHistory}
    (hlimited : s.Limited policy) (fuel : Nat) (delays : Nat → ℚ≥0) :
    (s.acquire (fuel + 2) delays).Limited policy := by
  have hwait : (⟨s.limiter, s.now, 0, 0, []⟩ : Wait).Limited policy s.grants :=
    ⟨hlimited.limits, fun count hcount => absurd hcount List.not_mem_nil⟩
  obtain ⟨after, hloop, hsleeps, hafter⟩ := hwait.loop henabled delays fuel 0
  have hresult : s.limiter.waitForToken (fuel + 2) delays s.now = some after := by
    rw [TokenBucketRateLimiter.waitForToken, hlimited.limits.policy_eq, henabled]
    exact hloop
  rw [LimiterHistory.acquire, hresult]
  refine ⟨hafter.limits, fun count hcount => ?_, fun slept hslept => ?_⟩
  · rcases List.mem_append.mp hcount with hnew | hold
    · exact hafter.counts count hnew
    · exact hlimited.counts count hold
  · rcases List.mem_cons.mp hslept with rfl | hold
    · have hfew : after.sleeps = 0 ∨ after.sleeps = 1 := by
        dsimp only at hsleeps
        omega
      exact hfew.imp (congrArg some) (congrArg some)
    · exact hlimited.sleeps slept hold

theorem LimiterHistory.Limited.withinPolicy (henabled : policy.enabled = true)
    {s : LimiterHistory} (hlimited : s.Limited policy) : WithinPolicy policy s := by
  obtain ⟨hrate, hburst⟩ := RateLimitPolicy.enabled_iff.mp henabled
  refine ⟨fun count hcount => ?_, ?_, hlimited.sleeps⟩
  · rcases List.mem_cons.mp hcount with rfl | hold
    · exact hlimited.limits.holds
    · exact hlimited.counts count hold
  · intro start length hlength
    exact hlimited.limits.paid.spaced.length_window_le hrate.le (by exact_mod_cast hburst)
      start length hlength

/-- However the calls of `acquire` are spread in time, whatever passes between the readings
of the clock and however many passes are allowed from two on. -/
theorem acquires_withinPolicy (henabled : policy.enabled = true) (now : ℚ) (fuel : Nat)
    (calls : List (Nat → ℚ≥0)) :
    Runs.Throughout (LimiterHistory.acquire (fuel + 2)) (WithinPolicy policy)
      (.start policy now) calls := by
  have hlimited := Runs.throughout_of_step (limited_start henabled now)
    (fun s delays hs => LimiterHistory.Limited.acquire henabled hs fuel delays) calls
  exact hlimited.mono fun s hs => hs.withinPolicy henabled

/-- Two calls at once: the second sleeps for a second. -/
theorem acquires_withinPolicy_twice :
    (Runs.after (LimiterHistory.acquire 2) (.start onePerSecond 0)
      [fun _ => 0, fun _ => 0]).grants = [1, 0] ∧
    Runs.Throughout (LimiterHistory.acquire 2) (WithinPolicy onePerSecond)
      (.start onePerSecond 0) [fun _ => 0, fun _ => 0] :=
  ⟨by decide +kernel, acquires_withinPolicy (by decide +kernel) 0 0 [fun _ => 0, fun _ => 0]⟩

end Histories

end TradingPlatform.MarketData

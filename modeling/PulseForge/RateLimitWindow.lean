-- The limiter keeps a sliding window: a check is accepted exactly when fewer
-- than the limit of the earlier accepted checks of its key are in its window.
-- When buckets are swept away, and what other keys do, makes no difference.
import PulseForge.RateLimit

open sliding

namespace pulseforge

/-! ## The window, and the limiter with other sweeps -/

/-- The times of the calls of a key. -/
def timesOf (key : Text) (calls : List (Text × ℚ)) : List ℚ :=
  (calls.filter fun c => c.1 = key).map Prod.snd

/-- How many of the calls are of the key, and later than the cutoff. -/
def countSince (key : Text) (cutoff : ℚ) (calls : List (Text × ℚ)) : Nat :=
  (since cutoff (timesOf key calls)).length

/-- The calls that a sliding window accepts, since the last reset. -/
def slidingWindow : List LimiterCall → List (Text × ℚ)
  | [] => []
  | .reset :: _ => []
  | .check key policy now :: past =>
    if (countSince key (now - policy.window_seconds) (slidingWindow past) : Int) < policy.limit then
      slidingWindow past ++ [(key, now)]
    else slidingWindow past

/-- The count of a check, where `sweeps` says after which counts there is a sweep. -/
def countWith (sweeps : Nat → Bool) (now : ℚ) (limiter : InMemoryRateLimiter) :
    InMemoryRateLimiter :=
  let counted := { limiter with checks := limiter.checks + 1 }
  if sweeps counted.checks then remove_idle_buckets (now - MAX_RATE_LIMIT_WINDOW_SECONDS) counted
  else counted

def callWith (sweeps : Nat → Bool) (limiter : InMemoryRateLimiter) : LimiterCall → InMemoryRateLimiter
  | .check key policy now => (decideBucket key policy now (countWith sweeps now limiter)).2
  | .reset => limiter.reset

def limiterWith (sweeps : Nat → Bool) : List LimiterCall → InMemoryRateLimiter :=
  run.after (callWith sweeps) InMemoryRateLimiter.new

def acceptsWith (sweeps : Nat → Bool) (past : List LimiterCall) (key : Text)
    (policy : RateLimitPolicy) (now : ℚ) : Bool :=
  (decideBucket key policy now (countWith sweeps now (limiterWith sweeps past))).1.isOk

/-- The sweeps of the code: with every thousandth check. -/
def everyThousandth (checks : Nat) : Bool := checks % 1000 = 0

theorem countCheck_eq (now : ℚ) (limiter : InMemoryRateLimiter) :
    countCheck now limiter = countWith everyThousandth now limiter := by
  simp [countCheck, countWith, everyThousandth]

theorem limiterAfter_eq (past : List LimiterCall) :
    limiterAfter past = limiterWith everyThousandth past := by
  induction past with
  | nil => rfl
  | cons call past ih =>
    cases call with
    | check key policy now =>
      show (check_locked key policy now (limiterAfter past)).2 = _
      rw [check_locked, countCheck_eq, ih]
      rfl
    | reset => rfl

theorem accepts_eq (past : List LimiterCall) (key : Text) (policy : RateLimitPolicy) (now : ℚ) :
    accepts past key policy now = acceptsWith everyThousandth past key policy now := by
  unfold accepts acceptsWith check_locked
  rw [countCheck_eq, limiterAfter_eq]

/-! ## The buckets -/

section
variable {limiter : InMemoryRateLimiter} {key : Text} {cutoff now : ℚ} {times : List ℚ}

theorem bucket_setBucket : (limiter.setBucket key times).bucket key = times := by
  simp [InMemoryRateLimiter.setBucket, InMemoryRateLimiter.bucket]

theorem bucket_setBucket_other {other : Text} (h : other ≠ key) :
    (limiter.setBucket key times).bucket other = limiter.bucket other := by
  simp [InMemoryRateLimiter.setBucket, InMemoryRateLimiter.bucket, h]

theorem getD_filter (idle : List ℚ → Bool) (found : Option (List ℚ)) :
    (found.filter fun times => !idle times).getD [] =
      if idle (found.getD []) then [] else found.getD [] := by
  cases found with
  | none => simp
  | some times => by_cases h : idle times = true <;> simp [Option.filter, h]

/-- A swept bucket is as it was, or it was idle and is empty. -/
theorem bucket_sweep (cutoff : ℚ) (limiter : InMemoryRateLimiter) (key : Text) :
    (remove_idle_buckets cutoff limiter).bucket key =
      if isIdle cutoff (limiter.bucket key) then [] else limiter.bucket key :=
  getD_filter (isIdle cutoff) (limiter.buckets key)

theorem since_of_idle (h : times.Pairwise (· ≤ ·)) (hidle : isIdle cutoff times = true) :
    since cutoff times = [] := by
  unfold isIdle at hidle
  split at hidle
  · rename_i hnone
    rw [List.getLast?_eq_none_iff.mp hnone]
    rfl
  · rename_i last hlast
    exact since_eq_nil h hlast (by simpa using hidle)

/-- The sweep of a check keeps a bucket, or it takes what no window reaches. -/
theorem bucket_countWith (sweeps : Nat → Bool) (now : ℚ) (limiter : InMemoryRateLimiter) (key : Text) :
    (countWith sweeps now limiter).bucket key = limiter.bucket key ∨
      (countWith sweeps now limiter).bucket key = [] ∧
        isIdle (now - MAX_RATE_LIMIT_WINDOW_SECONDS) (limiter.bucket key) = true := by
  unfold countWith
  simp only
  split
  · rw [bucket_sweep]
    split
    · rename_i hidle
      exact Or.inr ⟨rfl, hidle⟩
    · exact Or.inl rfl
  · exact Or.inl rfl

end

/-! ## What a limiter holds -/

/-- The bucket of the key holds, in their order, the accepted calls that a
window of this width can reach from the time `now` on. -/
structure Represents (limiter : InMemoryRateLimiter) (accepted : List (Text × ℚ)) (key : Text)
    (width now : ℚ) : Prop where
  ordered : (limiter.bucket key).Pairwise (· ≤ ·)
  bounded : ∀ t ∈ limiter.bucket key, t ≤ now
  recent : ∀ later, now ≤ later →
    since (later - width) (limiter.bucket key) = since (later - width) (timesOf key accepted)

section
variable {limiter : InMemoryRateLimiter} {accepted : List (Text × ℚ)} {key : Text} {now : ℚ}
  {policy : RateLimitPolicy} {sweeps : Nat → Bool}

theorem timesOf_append (key : Text) (accepted later : List (Text × ℚ)) :
    timesOf key (accepted ++ later) = timesOf key accepted ++ timesOf key later := by
  simp [timesOf]

theorem timesOf_self (key : Text) (now : ℚ) : timesOf key [(key, now)] = [now] := by
  simp [timesOf]

theorem timesOf_other {other : Text} (h : other ≠ key) : timesOf key [(other, now)] = [] := by
  simp [timesOf, h]

theorem represents_new (key : Text) (width now : ℚ) :
    Represents InMemoryRateLimiter.new [] key width now where
  ordered := List.Pairwise.nil
  bounded := nofun
  recent _ _ := rfl

/-- A sweep takes nothing that the window of a key reaches. -/
theorem Represents.counted (h : Represents limiter accepted key policy.window_seconds now)
    (hmax : policy.window_seconds ≤ MAX_RATE_LIMIT_WINDOW_SECONDS) :
    Represents (countWith sweeps now limiter) accepted key policy.window_seconds now := by
  rcases bucket_countWith sweeps now limiter key with heq | ⟨hnil, hidle⟩
  · constructor
    · rw [heq]
      exact h.ordered
    · rw [heq]
      exact h.bounded
    · rw [heq]
      exact h.recent
  · have hwidth : (policy.window_seconds : ℚ) ≤ MAX_RATE_LIMIT_WINDOW_SECONDS := by exact_mod_cast hmax
    constructor
    · rw [hnil]
      exact List.Pairwise.nil
    · rw [hnil]
      intro t ht
      cases ht
    · intro later hlater
      have hcut : now - MAX_RATE_LIMIT_WINDOW_SECONDS ≤ later - policy.window_seconds := by linarith
      rw [hnil, ← h.recent later hlater, ← since_since hcut (limiter.bucket key),
        since_of_idle h.ordered hidle]

theorem Represents.current (h : Represents limiter accepted key policy.window_seconds now) :
    currentTimes key policy now limiter =
      since (now - policy.window_seconds) (timesOf key accepted) := by
  unfold currentTimes
  rw [dropWhile_eq_since h.ordered, h.recent now (le_refl now)]

/-- The decision is the one of the window. -/
theorem Represents.decides (h : Represents limiter accepted key policy.window_seconds now) :
    (decideBucket key policy now limiter).1.isOk = true ↔
      (countSince key (now - policy.window_seconds) accepted : Int) < policy.limit := by
  unfold decideBucket countSince
  simp only [h.current]
  split
  · rename_i hfull
    exact iff_of_false nofun (not_lt.mpr hfull)
  · rename_i hroom
    exact iff_of_true rfl (not_le.mp hroom)

/-- After a decision at the time `now`, for the key of the check. -/
theorem Represents.decided (h : Represents limiter accepted key policy.window_seconds now) :
    Represents (decideBucket key policy now limiter).2
      (if (countSince key (now - policy.window_seconds) accepted : Int) < policy.limit then
        accepted ++ [(key, now)] else accepted) key policy.window_seconds now := by
  have hkept : ∀ later, now ≤ later →
      since (later - policy.window_seconds) (currentTimes key policy now limiter) =
        since (later - policy.window_seconds) (timesOf key accepted) := by
    intro later hlater
    rw [h.current]
    exact since_since (by linarith) _
  have hordered : (currentTimes key policy now limiter).Pairwise (· ≤ ·) :=
    h.ordered.sublist (List.dropWhile_sublist _)
  have hbounded : ∀ t ∈ currentTimes key policy now limiter, t ≤ now := by
    intro t ht
    exact h.bounded t ((List.dropWhile_sublist _).subset ht)
  by_cases hroom : (countSince key (now - policy.window_seconds) accepted : Int) < policy.limit
  · have hnot : ¬ policy.limit ≤ (currentTimes key policy now limiter).length := by
      rw [h.current]
      exact not_le.mpr hroom
    rw [if_pos hroom, decideBucket]
    simp only [if_neg hnot]
    constructor
    · rw [bucket_setBucket]
      exact pairwise_snoc hordered hbounded
    · rw [bucket_setBucket]
      intro t ht
      rcases List.mem_append.mp ht with ht | ht
      · exact hbounded t ht
      · exact le_of_eq (List.mem_singleton.mp ht)
    · intro later hlater
      rw [bucket_setBucket, timesOf_append, timesOf_self, since_append, since_append,
        hkept later hlater]
  · have hfull : policy.limit ≤ (currentTimes key policy now limiter).length := by
      rw [h.current]
      exact not_lt.mp hroom
    rw [if_neg hroom, decideBucket]
    simp only [if_pos hfull]
    constructor
    · rw [bucket_setBucket]
      exact hordered
    · rw [bucket_setBucket]
      exact hbounded
    · intro later hlater
      rw [bucket_setBucket, hkept later hlater]

/-- A decision on another key changes nothing of the key. -/
theorem Represents.decided_other {other : Text} (hother : other ≠ key) {width : ℚ}
    {policy' : RateLimitPolicy} (h : Represents limiter accepted key width now) :
    Represents (decideBucket other policy' now limiter).2
      (if (countSince other (now - policy'.window_seconds) accepted : Int) < policy'.limit then
        accepted ++ [(other, now)] else accepted) key width now := by
  have hbucket : (decideBucket other policy' now limiter).2.bucket key = limiter.bucket key := by
    unfold decideBucket
    simp only
    split <;> exact bucket_setBucket_other hother.symm
  have htimes : timesOf key (if (countSince other (now - policy'.window_seconds) accepted : Int) <
      policy'.limit then accepted ++ [(other, now)] else accepted) = timesOf key accepted := by
    split
    · rw [timesOf_append, timesOf_other hother, List.append_nil]
    · rfl
  constructor
  · rw [hbucket]
    exact h.ordered
  · rw [hbucket]
    exact h.bounded
  · intro later hlater
    rw [hbucket, htimes]
    exact h.recent later hlater

theorem Represents.later {width later : ℚ} (hlater : now ≤ later)
    (h : Represents limiter accepted key width now) : Represents limiter accepted key width later where
  ordered := h.ordered
  bounded t ht := (h.bounded t ht).trans hlater
  recent t ht := h.recent t (hlater.trans ht)

end

/-! ## Runs -/

/-- The clock does not go back, each key has one policy, and every policy has a
limit and a window that no other exceeds. -/
structure WellUsed (calls : List LimiterCall) : Prop where
  clock : calls.Pairwise fun late early => ∀ t ∈ late.now?, ∀ u ∈ early.now?, u ≤ t
  one_policy : ∀ key policy now policy' now', .check key policy now ∈ calls →
    .check key policy' now' ∈ calls → policy = policy'
  limits : ∀ key policy now, .check key policy now ∈ calls → 1 ≤ policy.limit
  windows : ∀ key policy now, .check key policy now ∈ calls →
    0 < policy.window_seconds ∧ policy.window_seconds ≤ MAX_RATE_LIMIT_WINDOW_SECONDS

theorem WellUsed.past {call : LimiterCall} {past : List LimiterCall} (h : WellUsed (call :: past)) :
    WellUsed past where
  clock := (List.pairwise_cons.mp h.clock).2
  one_policy key policy now policy' now' hc hc' :=
    h.one_policy key policy now policy' now' (List.mem_cons_of_mem _ hc) (List.mem_cons_of_mem _ hc')
  limits key policy now hc := h.limits key policy now (List.mem_cons_of_mem _ hc)
  windows key policy now hc := h.windows key policy now (List.mem_cons_of_mem _ hc)

/-- No reading of the past is later. -/
def ReadBy (now : ℚ) (past : List LimiterCall) : Prop := ∀ call ∈ past, ∀ t ∈ call.now?, t ≤ now

theorem WellUsed.readBy {key : Text} {policy : RateLimitPolicy} {now : ℚ} {past : List LimiterCall}
    (h : WellUsed (.check key policy now :: past)) : ReadBy now past := by
  intro call hcall t ht
  exact (List.pairwise_cons.mp h.clock).1 call hcall now rfl t ht

/-- After every well-used past the limiter holds what the window accepted, for
each key with the window of its policy. -/
theorem represents_window (sweeps : Nat → Bool) {past : List LimiterCall} (h : WellUsed past)
    {key : Text} {policy : RateLimitPolicy} (hmax : policy.window_seconds ≤ MAX_RATE_LIMIT_WINDOW_SECONDS)
    (huse : ∀ policy' now, .check key policy' now ∈ past → policy' = policy) :
    ∀ now, ReadBy now past →
      Represents (limiterWith sweeps past) (slidingWindow past) key policy.window_seconds now := by
  induction past with
  | nil => exact fun now _ => represents_new key _ now
  | cons call past ih =>
    have ih := ih h.past fun policy' now hc => huse policy' now (List.mem_cons_of_mem _ hc)
    cases call with
    | reset => exact fun now _ => represents_new key _ now
    | check key' policy' now' =>
      intro now hread
      have hnow : now' ≤ now := hread _ List.mem_cons_self now' rfl
      have hbefore : Represents (countWith sweeps now' (limiterWith sweeps past)) (slidingWindow past)
          key policy.window_seconds now' := (ih now' h.readBy).counted hmax
      refine Represents.later hnow ?_
      by_cases hkey : key' = key
      · obtain rfl := hkey
        obtain rfl := huse policy' now' List.mem_cons_self
        exact hbefore.decided
      · exact hbefore.decided_other hkey

/-- Whenever a limiter sweeps, it decides like the window. -/
theorem acceptsWith_iff (sweeps : Nat → Bool) {past : List LimiterCall} {key : Text}
    {policy : RateLimitPolicy} {now : ℚ} (h : WellUsed (.check key policy now :: past)) :
    acceptsWith sweeps past key policy now = true ↔
      (countSince key (now - policy.window_seconds) (slidingWindow past) : Int) < policy.limit := by
  have hmax := (h.windows key policy now List.mem_cons_self).2
  have huse : ∀ policy' now', .check key policy' now' ∈ past → policy' = policy := fun policy' now' hc =>
    h.one_policy key policy' now' policy now (List.mem_cons_of_mem _ hc) List.mem_cons_self
  exact ((represents_window sweeps h.past hmax huse now h.readBy).counted hmax).decides

/-- What the code accepts is what the window accepts. -/
theorem acceptedCalls_eq {past : List LimiterCall} (h : WellUsed past) :
    acceptedCalls past = slidingWindow past := by
  induction past with
  | nil => rfl
  | cons call past ih =>
    cases call with
    | reset => rfl
    | check key policy now =>
      have hiff := acceptsWith_iff everyThousandth h
      rw [← accepts_eq] at hiff
      simp only [acceptedCalls, slidingWindow, ih h.past, hiff]

/-- A check is accepted when its window has room. -/
theorem accepts_iff {past : List LimiterCall} {key : Text} {policy : RateLimitPolicy} {now : ℚ}
    (h : WellUsed (.check key policy now :: past)) :
    accepts past key policy now = true ↔
      (countSince key (now - policy.window_seconds) (acceptedCalls past) : Int) < policy.limit := by
  rw [acceptedCalls_eq h.past, accepts_eq]
  exact acceptsWith_iff everyThousandth h

/-! ## Other keys -/

/-- The checks of a key, and the resets. -/
def ownCalls (key : Text) (past : List LimiterCall) : List LimiterCall :=
  past.filter fun call => call.key?.all fun other => other = key

theorem timesOf_ownCalls (key : Text) (past : List LimiterCall) :
    timesOf key (slidingWindow (ownCalls key past)) = timesOf key (slidingWindow past) := by
  induction past with
  | nil => rfl
  | cons call past ih =>
    cases call with
    | reset => rfl
    | check other policy now =>
      by_cases hother : other = key
      · obtain rfl := hother
        have hown : ownCalls other (.check other policy now :: past) =
            .check other policy now :: ownCalls other past :=
          List.filter_cons_of_pos (by simp [LimiterCall.key?])
        have hcount : countSince other (now - policy.window_seconds) (slidingWindow (ownCalls other past)) =
            countSince other (now - policy.window_seconds) (slidingWindow past) := by
          rw [countSince, ih, countSince]
        rw [hown]
        simp only [slidingWindow, hcount]
        split
        · rw [timesOf_append, timesOf_append, ih]
        · exact ih
      · have hown : ownCalls key (.check other policy now :: past) = ownCalls key past :=
          List.filter_cons_of_neg (by simp [LimiterCall.key?, hother])
        rw [hown, ih]
        simp only [slidingWindow]
        split
        · rw [timesOf_append, timesOf_other hother, List.append_nil]
        · rfl

theorem WellUsed.filter {calls : List LimiterCall} (h : WellUsed calls) (p : LimiterCall → Bool) :
    WellUsed (calls.filter p) where
  clock := h.clock.filter p
  one_policy key policy now policy' now' hc hc' :=
    h.one_policy key policy now policy' now' (List.mem_of_mem_filter hc) (List.mem_of_mem_filter hc')
  limits key policy now hc := h.limits key policy now (List.mem_of_mem_filter hc)
  windows key policy now hc := h.windows key policy now (List.mem_of_mem_filter hc)

theorem WellUsed.own {key : Text} {policy : RateLimitPolicy} {now : ℚ} {past : List LimiterCall}
    (h : WellUsed (.check key policy now :: past)) :
    WellUsed (.check key policy now :: ownCalls key past) := by
  have hfilter := h.filter fun call => call.key?.all fun other => other = key
  rwa [List.filter_cons_of_pos (by simp [LimiterCall.key?])] at hfilter

/-- A check is accepted exactly when fewer than the limit of the accepted checks
of its key are later than the start of its window. It would be decided alike
without the checks of other keys, and with the sweeps at any other checks. -/
theorem a_check_counts_its_window (past : List LimiterCall) (key : Text) (policy : RateLimitPolicy)
    (now : ℚ) (h : WellUsed (.check key policy now :: past)) :
    (accepts past key policy now = true ↔
      (countSince key (now - policy.window_seconds) (acceptedCalls past) : Int) < policy.limit) ∧
    accepts (ownCalls key past) key policy now = accepts past key policy now ∧
    ∀ sweeps, acceptsWith sweeps past key policy now = accepts past key policy now := by
  have hall : ∀ sweeps, acceptsWith sweeps past key policy now = true ↔
      (countSince key (now - policy.window_seconds) (slidingWindow past) : Int) < policy.limit :=
    fun sweeps => acceptsWith_iff sweeps h
  refine ⟨?_, ?_, ?_⟩
  · rw [acceptedCalls_eq h.past, accepts_eq]
    exact hall everyThousandth
  · have hown := acceptsWith_iff everyThousandth h.own
    rw [countSince, timesOf_ownCalls] at hown
    rw [accepts_eq, accepts_eq, Bool.eq_iff_iff]
    exact hown.trans (hall everyThousandth).symm
  · intro sweeps
    rw [accepts_eq, Bool.eq_iff_iff]
    exact (hall sweeps).trans (hall everyThousandth).symm

/-- Five sign-ins of one client, and a registration in between. -/
def sampleCalls : List LimiterCall :=
  [.check "login:a".toList LOGIN_RATE_LIMIT 40, .check "login:a".toList LOGIN_RATE_LIMIT 30,
   .check "register:a".toList REGISTER_RATE_LIMIT 25, .check "login:a".toList LOGIN_RATE_LIMIT 20,
   .check "login:a".toList LOGIN_RATE_LIMIT 10, .check "login:a".toList LOGIN_RATE_LIMIT 0]

/-- Calls in the order of the clock, each with the policy of its key. -/
theorem wellUsed_of_policies {calls : List LimiterCall} (policyOf : Text → RateLimitPolicy)
    (hclock : calls.Pairwise fun late early => ∀ t ∈ late.now?, ∀ u ∈ early.now?, u ≤ t)
    (huse : ∀ key policy now, .check key policy now ∈ calls → policy = policyOf key)
    (hpolicy : ∀ key, 1 ≤ (policyOf key).limit ∧ 0 < (policyOf key).window_seconds ∧
      (policyOf key).window_seconds ≤ MAX_RATE_LIMIT_WINDOW_SECONDS) : WellUsed calls := by
  refine ⟨hclock, ?_, ?_, ?_⟩
  · intro key policy now policy' now' hc hc'
    rw [huse key policy now hc, huse key policy' now' hc']
  · intro key policy now hc
    rw [huse key policy now hc]
    exact (hpolicy key).1
  · intro key policy now hc
    rw [huse key policy now hc]
    exact (hpolicy key).2

/-- The policy of a sign-in, and the one of a registration. -/
def samplePolicy (key : Text) : RateLimitPolicy :=
  if key = "login:a".toList then LOGIN_RATE_LIMIT else REGISTER_RATE_LIMIT

theorem samplePolicy_allowed (key : Text) : 1 ≤ (samplePolicy key).limit ∧
    0 < (samplePolicy key).window_seconds ∧
      (samplePolicy key).window_seconds ≤ MAX_RATE_LIMIT_WINDOW_SECONDS := by
  unfold samplePolicy
  split <;> decide

theorem a_sign_in_after_a_minute_is_accepted :
    accepts sampleCalls "login:a".toList LOGIN_RATE_LIMIT 59 = false ∧
      accepts sampleCalls "login:a".toList LOGIN_RATE_LIMIT 60 = true := by
  have h : WellUsed (.check "login:a".toList LOGIN_RATE_LIMIT 60 :: sampleCalls) := by
    refine wellUsed_of_policies samplePolicy ?_ ?_ samplePolicy_allowed
    · simp [sampleCalls, LimiterCall.now?]
      norm_num
    · intro key policy now hc
      simp only [sampleCalls, List.mem_cons, LimiterCall.check.injEq, List.not_mem_nil, or_false] at hc
      rcases hc with ⟨rfl, rfl, _⟩ | ⟨rfl, rfl, _⟩ | ⟨rfl, rfl, _⟩ | ⟨rfl, rfl, _⟩ | ⟨rfl, rfl, _⟩ |
        ⟨rfl, rfl, _⟩ | ⟨rfl, rfl, _⟩ <;> rfl
  exact ⟨by decide +kernel, (a_check_counts_its_window _ _ _ _ h).1.mpr (by decide +kernel)⟩

end pulseforge

-- The rate limiter of a process: for each key the times of the calls that it
-- accepted. What is out of the window is dropped when the next call of the key
-- comes, and whole buckets of idle keys are swept away now and then.
import Mathlib.Algebra.Order.Floor.Ring
import Mathlib.Data.Rat.Floor
import PulseForge.Lib.Run
import PulseForge.Lib.Sliding
import PulseForge.Types

open sliding

namespace pulseforge

/-! ## The limiter -/

structure RateLimitPolicy where
  limit : Int
  window_seconds : Int
  deriving DecidableEq

def LOGIN_RATE_LIMIT : RateLimitPolicy := ⟨5, 60⟩
def REGISTER_RATE_LIMIT : RateLimitPolicy := ⟨3, 60 * 60⟩
def REFRESH_RATE_LIMIT : RateLimitPolicy := ⟨20, 60⟩
def EVENT_INGESTION_RATE_LIMIT : RateLimitPolicy := ⟨100, 60⟩

def MAX_RATE_LIMIT_WINDOW_SECONDS : Int :=
  max LOGIN_RATE_LIMIT.window_seconds (max REGISTER_RATE_LIMIT.window_seconds
    (max REFRESH_RATE_LIMIT.window_seconds EVENT_INGESTION_RATE_LIMIT.window_seconds))

/-- The buckets by their keys, each with its times in the order of the deque,
and the number of checks. Clock readings are seconds, exact. -/
structure InMemoryRateLimiter where
  buckets : Text → Option (List ℚ)
  checks : Nat

def InMemoryRateLimiter.new : InMemoryRateLimiter := ⟨fun _ => none, 0⟩

namespace InMemoryRateLimiter

/-- The bucket of a key; a key without one is like a key with an empty one. -/
def bucket (limiter : InMemoryRateLimiter) (key : Text) : List ℚ := (limiter.buckets key).getD []

def setBucket (key : Text) (times : List ℚ) (limiter : InMemoryRateLimiter) : InMemoryRateLimiter :=
  { limiter with buckets := Function.update limiter.buckets key (some times) }

def reset (_ : InMemoryRateLimiter) : InMemoryRateLimiter := ⟨fun _ => none, 0⟩

end InMemoryRateLimiter

/-- `not bucket or bucket[-1] <= cutoff`. -/
def isIdle (cutoff : ℚ) (times : List ℚ) : Bool :=
  match times.getLast? with
  | none => true
  | some last => last ≤ cutoff

def remove_idle_buckets (cutoff : ℚ) (limiter : InMemoryRateLimiter) : InMemoryRateLimiter :=
  { limiter with buckets := fun key => (limiter.buckets key).filter fun times => !isIdle cutoff times }

/-- What a check raises: `RateLimitError`, or the `IndexError` of `bucket[0]`
where the limit is not positive. -/
inductive CheckError
  | RateLimitError (retry_after : Int)
  | IndexError
  deriving DecidableEq

/-- The count of the check, and the sweep that comes with every thousandth. -/
def countCheck (now : ℚ) (limiter : InMemoryRateLimiter) : InMemoryRateLimiter :=
  let counted := { limiter with checks := limiter.checks + 1 }
  if counted.checks % 1000 = 0 then
    remove_idle_buckets (now - MAX_RATE_LIMIT_WINDOW_SECONDS) counted
  else counted

/-- The times of the bucket that are in the window: the others go from its front. -/
def currentTimes (key : Text) (policy : RateLimitPolicy) (now : ℚ) (limiter : InMemoryRateLimiter) :
    List ℚ :=
  (limiter.bucket key).dropWhile fun t => t ≤ now - policy.window_seconds

/-- `max(1, ceil(bucket[0] + policy.window_seconds - now))`. -/
def retryAfter (policy : RateLimitPolicy) (now : ℚ) : List ℚ → CheckError
  | [] => .IndexError
  | oldest :: _ => .RateLimitError (max 1 ⌈oldest + policy.window_seconds - now⌉)

/-- The decision on the bucket of the key. -/
def decideBucket (key : Text) (policy : RateLimitPolicy) (now : ℚ) (limiter : InMemoryRateLimiter) :
    Except CheckError Unit × InMemoryRateLimiter :=
  let times := currentTimes key policy now limiter
  if policy.limit ≤ times.length then
    (.error (retryAfter policy now times), limiter.setBucket key times)
  else (.ok (), limiter.setBucket key (times ++ [now]))

/-- `check` under its lock, with the clock reading that it took before. -/
def check_locked (key : Text) (policy : RateLimitPolicy) (now : ℚ) (limiter : InMemoryRateLimiter) :
    Except CheckError Unit × InMemoryRateLimiter :=
  decideBucket key policy now (countCheck now limiter)

/-! ## Calls one at a time -/

/-- A use of the limiter, with the clock reading of a check. -/
inductive LimiterCall
  | check (key : Text) (policy : RateLimitPolicy) (now : ℚ)
  | reset

def LimiterCall.now? : LimiterCall → Option ℚ
  | .check _ _ now => some now
  | .reset => none

def LimiterCall.key? : LimiterCall → Option Text
  | .check key _ _ => some key
  | .reset => none

def callLimiter (limiter : InMemoryRateLimiter) : LimiterCall → InMemoryRateLimiter
  | .check key policy now => (check_locked key policy now limiter).2
  | .reset => limiter.reset

/-- The limiter after a past of calls, the newest first. -/
def limiterAfter : List LimiterCall → InMemoryRateLimiter :=
  run.after callLimiter InMemoryRateLimiter.new

/-- A check at this point of the past is accepted. -/
def accepts (past : List LimiterCall) (key : Text) (policy : RateLimitPolicy) (now : ℚ) : Bool :=
  (check_locked key policy now (limiterAfter past)).1.isOk

/-- The accepted checks since the last reset, with their times, oldest first. -/
def acceptedCalls : List LimiterCall → List (Text × ℚ)
  | [] => []
  | .reset :: _ => []
  | .check key policy now :: past =>
    if accepts past key policy now then acceptedCalls past ++ [(key, now)] else acceptedCalls past

end pulseforge

import Gatehouse.Http.Status
import Gatehouse.Json.Basic
import Gatehouse.Span

/-!
# Retries

An attempt that fails is tried again while attempts are left and the failure may pass. The pause
before a retry grows with its number.
-/
namespace Gatehouse

/-- How an attempt failed: without a response, with a response of a bad status, or for a reason
that no retry changes. A body without a status may be reported too, but nothing reads it. -/
inductive AttemptFailure
  | unanswered (message : String) (body : Option Json := none)
  | refused (status : Nat) (body : Option Json) (message : String)
  | unusable (message : String)

namespace AttemptFailure

def status? : AttemptFailure → Option Nat
  | .unanswered .. => none
  | .refused status _ _ => some status
  | .unusable _ => none

def message : AttemptFailure → String
  | .unanswered message _ => message
  | .refused _ _ message => message
  | .unusable message => message

def isRetryable : AttemptFailure → Bool
  | .unanswered .. => true
  | .refused status _ _ => Status.isRetryable status
  | .unusable _ => false

end AttemptFailure

structure RetryPolicy where
  retries : Nat
  baseDelay : Span

namespace RetryPolicy

/-- Three retries, a second before the first. -/
def usual : RetryPolicy := ⟨3, .ofMillis 1000⟩

/-- The first attempt and the retries, as far as 32 bits count. -/
def maxAttempts (policy : RetryPolicy) : Nat := min (policy.retries + 1) 0xFFFFFFFF

/-- The pause before a retry, counted from one. -/
def delay (policy : RetryPolicy) (retry : Nat) : Span := policy.baseDelay.times retry

end RetryPolicy

/-- Whether a failed attempt is followed by another, counted from one. -/
def shouldRetry (failure : AttemptFailure) (attempt maxAttempts : Nat) : Bool :=
  decide (attempt < maxAttempts) && failure.isRetryable

def RetryPolicy.shouldRetry (policy : RetryPolicy) (failure : AttemptFailure) (attempt : Nat) :
    Bool :=
  Gatehouse.shouldRetry failure attempt policy.maxAttempts

end Gatehouse

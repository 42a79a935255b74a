import EventFlow.Double.Basic
import EventFlow.Service

/-!
# Retrying

An operation that fails is tried again after a wait that grows by a factor from
one failure to the next, until it succeeds, its attempts are used up or the wait
is interrupted.
-/

namespace EventFlow

/-- How an operation is retried. -/
structure RetryConfig where
  maxAttempts : Nat
  initialDelay : Duration
  maxDelay : Duration
  multiplier : Double
  deriving DecidableEq, Repr

/-- Why a retried operation did not succeed. -/
inductive RetryError (ε : Type) where
  | cancelled
  | maxAttemptsReached (attempts : Nat) (lastError : ε)
  deriving DecidableEq, Repr

/-- The error in words. -/
def RetryError.message {ε : Type} (text : ε → String) : RetryError ε → String
  | .cancelled => "retry cancelled"
  | .maxAttemptsReached _ lastError => "max retry attempts reached: " ++ text lastError

namespace RetryConfig

/-- Three attempts, with a wait of a second that doubles up to a minute. -/
def default : RetryConfig := ⟨3, .ofSeconds 1, .ofSeconds 60, .finite false 4503599627370496 (-51)⟩

/-- A duration as a number of seconds: the whole seconds and the rest of a
nanosecond count are each rounded, and so is their sum. -/
def secondsOf (d : Duration) : Double :=
  (Double.ofInt (d.nanoseconds / 1000000000)).add
    ((Double.ofInt (d.nanoseconds % 1000000000)).div (Double.ofInt 1000000000))

/-- The duration of a number of seconds, to the nearest nanosecond, a half to
the even one; there is none for negative and not finite numbers and from two to
the power of 64 seconds on. -/
def durationOf? : Double → Option Duration
  | .finite negative m e =>
    if negative ∧ m ≠ 0 then none
    else
      let (num, den) := Double.scaleByPowerOfTwo (m * 1000000000) 1 e
      let nanoseconds := Double.roundHalfEven num den
      if nanoseconds < Text.wordLimit * 1000000000 then some ⟨nanoseconds⟩ else none
  | _ => none

/-- The wait after a wait. -/
def nextDelay (config : RetryConfig) (delay : Duration) : Duration :=
  (((durationOf? ((secondsOf delay).mul config.multiplier)).getD config.maxDelay)).min
    config.maxDelay

/-- The number of attempts, at least one. -/
def attempts (config : RetryConfig) : Nat :=
  max config.maxAttempts 1

end RetryConfig

/-- Tries an operation, with so many attempts left behind this one. -/
def retryFrom {α ε : Type} (config : RetryConfig) (interrupt : Signal)
    (operation : Routine (Except ε α)) :
    (left : Nat) → (attempt : Nat) → (delay : Duration) → Routine (Except (RetryError ε) α)
  | left, attempt, delay => do
    match ← operation with
    | .ok a => return .ok a
    | .error e =>
      match left with
      | 0 => return .error (.maxAttemptsReached attempt e)
      | left + 1 =>
        if ← Service.sleep delay (some interrupt) then return .error .cancelled
        else retryFrom config interrupt operation left (attempt + 1) (config.nextDelay delay)

/-- Retries an operation until it succeeds, its attempts are used up or the
signal interrupts a wait. -/
def retry {α ε : Type} (config : RetryConfig) (interrupt : Signal)
    (operation : Routine (Except ε α)) : Routine (Except (RetryError ε) α) :=
  retryFrom config interrupt operation (config.attempts - 1) 1 config.initialDelay

end EventFlow

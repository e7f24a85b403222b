import Dispatch.Outcome
import Dispatch.Program

/-!
# Repeated attempts

Attempts follow one another until one succeeds, fails for good, or was the last one allowed.
Between two attempts lies one sleep of at least a second.
-/

set_option autoImplicit false

namespace Dispatch

inductive Backoff where
  | exponential (first : Duration)
  | fixed (d : Duration)
deriving DecidableEq

namespace Backoff

def standard : Backoff := .exponential (.ofSeconds 1)

/-- The factor after the `attempt`-th failure: a power of two within 32 bits, else the greatest
number of 32 bits. -/
def factor (attempt : UInt32) : Nat :=
  if attempt.toNat - 1 < 32 then Nat.pow 2 (attempt.toNat - 1) else UInt32.size - 1

def delay (b : Backoff) (attempt : UInt32) : Duration :=
  let d := match b with
    | .exponential first => first.times (factor attempt)
    | .fixed d => d
  d.longer (.ofSeconds 1)

end Backoff

structure RetryPolicy where
  /-- All attempts, the first one included. -/
  attempts : UInt32
  backoff : Backoff

def RetryPolicy.standard : RetryPolicy := ⟨3, .standard⟩

namespace Retry

variable {I : Interface} {σ : Type}

def loop (backoff : Backoff) (attempt : StateT σ (Program I) (Except Failure Outcome)) :
    Nat → UInt32 → StateT σ (Program I) (Except Failure Outcome)
  | 0, _ => return .error (.invalidArgument .noAttempts)
  | rest + 1, k => do
    match ← attempt with
    | .ok outcome => return .ok { outcome with attempts := k }
    | .error failure =>
      if failure.isRetryable = false ∨ rest = 0 then return .error failure
      else
        Program.pause (I := I) (backoff.delay k)
        loop backoff attempt rest (k + 1)

end Retry

def retry {I : Interface} {σ : Type} (policy : RetryPolicy)
    (attempt : StateT σ (Program I) (Except Failure Outcome)) :
    StateT σ (Program I) (Except Failure Outcome) :=
  Retry.loop policy.backoff attempt policy.attempts.toNat 1

end Dispatch

import Dispatch.Text.Decimal

/-!
# Lengths of time

A duration counts nanoseconds below `2 ^ 64` seconds. Sums, products and differences stay within
that range.
-/

set_option autoImplicit false

namespace Dispatch

def Duration.bound : Nat := 18446744073709551616000000000

structure Duration where
  nanos : Nat
  bounded : nanos < Duration.bound
deriving DecidableEq

namespace Duration

/-- The given number of nanoseconds, or the greatest duration if that is less. -/
def ofNanos (n : Nat) : Duration := ⟨min n (bound - 1), by unfold bound; omega⟩

def ofMillis (n : Nat) : Duration := ofNanos (n * 1000000)

def ofSeconds (n : Nat) : Duration := ofNanos (n * 1000000000)

def zero : Duration := ⟨0, by decide⟩

instance : Inhabited Duration := ⟨zero⟩

instance : LE Duration := ⟨fun a b => a.nanos ≤ b.nanos⟩

instance : LT Duration := ⟨fun a b => a.nanos < b.nanos⟩

instance (a b : Duration) : Decidable (a ≤ b) := inferInstanceAs (Decidable (a.nanos ≤ b.nanos))

instance (a b : Duration) : Decidable (a < b) := inferInstanceAs (Decidable (a.nanos < b.nanos))

def minus (a b : Duration) : Duration := ⟨a.nanos - b.nanos, by have := a.bounded; omega⟩

/-- The `n`-fold duration, or the greatest one if that is less. -/
def times (a : Duration) (n : Nat) : Duration := ofNanos (a.nanos * n)

def shorter (a b : Duration) : Duration := if a ≤ b then a else b

def longer (a b : Duration) : Duration := if a ≤ b then b else a

def withFraction (whole fraction places : Nat) : List Char :=
  let padded := (Text.digits (Nat.pow 10 places + fraction)).drop 1
  let kept := (padded.reverse.dropWhile (· = '0')).reverse
  Text.digits whole ++ (if kept.isEmpty then [] else '.' :: kept)

/-- The duration in the largest of seconds, milliseconds, microseconds and nanoseconds that it
reaches. -/
def display (a : Duration) : String :=
  let n := a.nanos
  if 1000000000 ≤ n then String.ofList (withFraction (n / 1000000000) (n % 1000000000) 9) ++ "s"
  else if 1000000 ≤ n then String.ofList (withFraction (n / 1000000) (n % 1000000) 6) ++ "ms"
  else if 1000 ≤ n then String.ofList (withFraction (n / 1000) (n % 1000) 3) ++ "µs"
  else String.ofList (Text.digits n) ++ "ns"

end Duration

end Dispatch

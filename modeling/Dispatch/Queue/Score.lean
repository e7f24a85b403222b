import Dispatch.Text.Decimal

/-!
# The order of queued transactions
-/

set_option autoImplicit false

namespace Dispatch.Queue

def standardPriority : UInt32 := 1

/-- The number of decimal digits; zero has one. -/
def digitCount (n : Nat) : Nat := (Text.digits n).length

/-- The priority in front of the digits of the time. Each operation stays within 64 bits, so a score
beyond them is the greatest one. -/
def score (priority : UInt32) (timestamp : UInt64) : UInt64 :=
  let limit := UInt64.size - 1
  let power := min (Nat.pow 10 (digitCount timestamp.toNat)) limit
  .ofNat (min (min (priority.toNat * power) limit + timestamp.toNat) limit)

end Dispatch.Queue

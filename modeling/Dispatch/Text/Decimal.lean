import Dispatch.Binary64

/-!
# Whole numbers in decimal text
-/

set_option autoImplicit false

namespace Dispatch.Text

/-- Reads one or more digits after an optional plus sign, as a number below `bound`. -/
def readNat? (bound : Nat) (cs : List Char) : Option Nat :=
  let body := match cs with
    | '+' :: rest => rest
    | cs => cs
  if body.isEmpty then none
  else (Binary64.digits? body).bind fun n => if n < bound then some n else none

def digits (n : Nat) : List Char := Nat.toDigits 10 n

end Dispatch.Text

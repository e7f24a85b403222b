import Dispatch.Bytes

/-!
# Hexadecimal text

Bytes are written as two lower-case digits each. Reading takes digits of either case; the forms
differ in which marker may or must stand in front.
-/

set_option autoImplicit false

namespace Dispatch.Hex

def digit (n : Nat) : Char :=
  if n < 10 then Char.ofNat (48 + n) else Char.ofNat (87 + n)

def digitValue? (c : Char) : Option Nat :=
  if '0' ≤ c ∧ c ≤ '9' then some (c.toNat - 48)
  else if 'a' ≤ c ∧ c ≤ 'f' then some (c.toNat - 87)
  else if 'A' ≤ c ∧ c ≤ 'F' then some (c.toNat - 55)
  else none

def pair (b : UInt8) : List Char := [digit (b.toNat / 16), digit (b.toNat % 16)]

def bare (b : Bytes) : String := String.ofList (b.flatMap pair)

def marked (b : Bytes) : String := "0x" ++ bare b

/-- Reads two digits per byte and nothing else. -/
def readBare? : List Char → Option Bytes
  | [] => some []
  | [_] => none
  | hi :: lo :: rest =>
    match digitValue? hi, digitValue? lo with
    | some h, some l => (readBare? rest).map (UInt8.ofNat (16 * h + l) :: ·)
    | _, _ => none

def dropMarker : List Char → List Char
  | '0' :: 'x' :: rest => rest
  | '0' :: 'X' :: rest => rest
  | cs => cs

def read? (cs : List Char) : Option Bytes := readBare? (dropMarker cs)

def readFixed? (n : Nat) (cs : List Char) : Option (FixedBytes n) :=
  (read? cs).bind FixedBytes.ofBytes?

def quantityDigits (n : Nat) : List Char :=
  if n < 16 then [digit n] else quantityDigits (n / 16) ++ [digit (n % 16)]

def quantity (n : Nat) : String := "0x" ++ String.ofList (quantityDigits n)

end Dispatch.Hex

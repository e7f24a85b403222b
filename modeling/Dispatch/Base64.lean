import Dispatch.Bytes

/-!
# Base64

Four characters stand for three bytes. The last group may be filled up with equals signs, and then
its unused bits are zero, so each byte string has one written form.
-/

set_option autoImplicit false

namespace Dispatch.Base64

def digit (n : Nat) : Char :=
  if n < 26 then Char.ofNat (65 + n)
  else if n < 52 then Char.ofNat (71 + n)
  else if n < 62 then Char.ofNat (n - 4)
  else if n = 62 then '+'
  else '/'

def digitValue? (c : Char) : Option Nat :=
  if 'A' ≤ c ∧ c ≤ 'Z' then some (c.toNat - 65)
  else if 'a' ≤ c ∧ c ≤ 'z' then some (c.toNat - 71)
  else if '0' ≤ c ∧ c ≤ '9' then some (c.toNat + 4)
  else if c = '+' then some 62
  else if c = '/' then some 63
  else none

def encodeChars : Bytes → List Char
  | [] => []
  | [a] => [digit (a.toNat / 4), digit (a.toNat % 4 * 16), '=', '=']
  | [a, b] =>
    [digit (a.toNat / 4), digit (a.toNat % 4 * 16 + b.toNat / 16), digit (b.toNat % 16 * 4), '=']
  | a :: b :: c :: rest =>
    [digit (a.toNat / 4), digit (a.toNat % 4 * 16 + b.toNat / 16),
      digit (b.toNat % 16 * 4 + c.toNat / 64), digit (c.toNat % 64)] ++ encodeChars rest

def encode (b : Bytes) : String := String.ofList (encodeChars b)

def group (a b c d : Nat) : Bytes :=
  [UInt8.ofNat (a * 4 + b / 16), UInt8.ofNat (b % 16 * 16 + c / 4), UInt8.ofNat (c % 4 * 64 + d)]

def decode? : List Char → Option Bytes
  | [] => some []
  | a :: b :: c :: d :: rest =>
    match digitValue? a, digitValue? b with
    | some x, some y =>
      if c = '=' then
        if d = '=' ∧ rest = [] ∧ y % 16 = 0 then some [UInt8.ofNat (x * 4 + y / 16)] else none
      else
        match digitValue? c with
        | none => none
        | some z =>
          if d = '=' then
            if rest = [] ∧ z % 4 = 0 then
              some [UInt8.ofNat (x * 4 + y / 16), UInt8.ofNat (y % 16 * 16 + z / 4)]
            else none
          else
            match digitValue? d with
            | none => none
            | some w => (decode? rest).map (group x y z w ++ ·)
    | _, _ => none
  | _ => none

end Dispatch.Base64

import Dispatch.Bytes

/-!
# Text from bytes that may be none

Each longest start of a character that the bytes break off is replaced by one mark.
-/

set_option autoImplicit false

namespace Dispatch.Text

def replacement : Char := '\uFFFD'

def isContinuation (b : UInt8) : Bool := 0x80 ≤ b && b ≤ 0xbf

/-- Whether two bytes start a character of three bytes. Surrogates and numbers that need fewer bytes
are none. -/
def startsThree (a b : UInt8) : Bool :=
  (a = 0xe0 && 0xa0 ≤ b && b ≤ 0xbf) || (0xe1 ≤ a && a ≤ 0xec && isContinuation b) ||
    (a = 0xed && 0x80 ≤ b && b ≤ 0x9f) || (0xee ≤ a && a ≤ 0xef && isContinuation b)

def startsFour (a b : UInt8) : Bool :=
  (a = 0xf0 && 0x90 ≤ b && b ≤ 0xbf) || (0xf1 ≤ a && a ≤ 0xf3 && isContinuation b) ||
    (a = 0xf4 && 0x80 ≤ b && b ≤ 0x8f)

def assemble (k : Nat) (a : UInt8) (rest : Bytes) : Char :=
  Char.ofNat (rest.foldl (fun n b => 64 * n + b.toNat % 64) (a.toNat % Nat.pow 2 k))

/-- The first character of a non-empty byte string, or the mark, and how many bytes it takes. -/
def firstBy (mark : Char) (a : UInt8) (rest : Bytes) : Char × Nat :=
  if a < 0x80 then (Char.ofNat a.toNat, 1)
  else
    match rest with
    | [] => (mark, 1)
    | b :: rest =>
      if 0xc2 ≤ a ∧ a ≤ 0xdf ∧ isContinuation b then (assemble 5 a [b], 2)
      else if startsThree a b then
        match rest with
        | c :: _ => if isContinuation c then (assemble 4 a [b, c], 3) else (mark, 2)
        | [] => (mark, 2)
      else if startsFour a b then
        match rest with
        | c :: d :: _ =>
          if isContinuation c then
            if isContinuation d then (assemble 3 a [b, c, d], 4) else (mark, 3)
          else (mark, 2)
        | [c] => (mark, if isContinuation c then 3 else 2)
        | [] => (mark, 2)
      else (mark, 1)

def charsBy (mark : Char) : Bytes → List Char
  | [] => []
  | a :: rest =>
    let (c, width) := firstBy mark a rest
    c :: charsBy mark (rest.drop (width - 1))
termination_by b => b.length
decreasing_by simp only [List.length_drop, List.length_cons]; omega

def lossy (b : Bytes) : List Char := charsBy replacement b

/-! ## Marks of byte order -/

def units (unit : UInt8 → UInt8 → Nat) : Bytes → List (Option Nat)
  | [] => []
  | [_] => [none]
  | a :: b :: rest => some (unit a b) :: units unit rest

def ofUnits : List (Option Nat) → List Char
  | [] => []
  | none :: _ => [replacement]
  | some n :: rest =>
    if 0xd800 ≤ n ∧ n < 0xdc00 then
      match rest with
      | some m :: rest =>
        if 0xdc00 ≤ m ∧ m < 0xe000 then
          Char.ofNat (0x10000 + (n - 0xd800) * 0x400 + (m - 0xdc00)) :: ofUnits rest
        else replacement :: ofUnits (some m :: rest)
      | _ => [replacement]
    else if 0xdc00 ≤ n ∧ n < 0xe000 then replacement :: ofUnits rest
    else Char.ofNat n :: ofUnits rest

/-- The text of bytes whose encoding is not named: a mark of byte order tells it, and is no part of
the text. -/
def unmarked (b : Bytes) : List Char :=
  if b.take 3 = [0xef, 0xbb, 0xbf] then lossy (b.drop 3)
  else if b.take 2 = [0xff, 0xfe] then
    ofUnits (units (fun low high => 256 * high.toNat + low.toNat) (b.drop 2))
  else if b.take 2 = [0xfe, 0xff] then
    ofUnits (units (fun high low => 256 * high.toNat + low.toNat) (b.drop 2))
  else lossy b

end Dispatch.Text

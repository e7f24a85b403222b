import Dispatch.Abi
import Dispatch.Json.Value
import Dispatch.Text.Blank
import Dispatch.Text.Lossy

/-!
# Why a contract reverted

A node's error may carry the bytes with which a contract refused: a text, the number of a panic, or
bytes of the contract's own.
-/

set_option autoImplicit false

namespace Dispatch.Revert

def argument? (signature : String) (b : Bytes) : Option Bytes :=
  if b.take 4 = Abi.selector signature then some (b.drop 4) else none

def wordAt? (b : Bytes) (offset : Nat) : Option Nat :=
  if offset + 32 ≤ b.length then some (Bytes.toNat ((b.drop offset).take 32)) else none

/-- The bytes of an argument of any length, whose head is the first word. -/
def dynamic? (b : Bytes) : Option Bytes := do
  let offset ← wordAt? b 0
  let length ← wordAt? b offset
  if offset + 32 + length ≤ b.length then some ((b.drop (offset + 32)).take length) else none

def panicNames : List (Nat × String) :=
  [(0x00, "generic/unspecified error"), (0x01, "assertion failed"),
   (0x11, "arithmetic underflow or overflow"), (0x12, "division or modulo by zero"),
   (0x21, "failed to convert value into enum type"),
   (0x22, "storage byte array incorrectly encoded"),
   (0x31, "called \x60.pop()\x60 on an empty array"), (0x32, "array out-of-bounds access"),
   (0x41, "memory allocation error"), (0x51, "called an invalid internal function")]

def hexNumber (n : Nat) : String :=
  String.ofList (if n < 16 then ['0', Hex.digit n] else Hex.quantityDigits n)

def panicText (code : Nat) : String :=
  "panic: " ++ (panicNames.lookup code).getD "unknown code" ++ " (0x" ++ hexNumber code ++ ")"

def errorText (b : Bytes) : String :=
  "revert: " ++ if b.isEmpty then "<empty>" else String.ofList (Text.lossy b)

/-- The reason that the bytes of a revert give. -/
def reason? (b : Bytes) : Option String :=
  match (argument? "Error(string)" b).bind dynamic? with
  | some text => some (errorText text)
  | none =>
    match (argument? "Panic(uint256)" b).bind (wordAt? · 0) with
    | some code => some (panicText code)
    | none => b.toText?

def markedBytes? (s : String) : Option Bytes := (Text.strip? ['0', 'x'] s.toList).bind Hex.readBare?

mutual

def bytes? : Json → Option Bytes
  | .string s => markedBytes? s
  | .object members => memberBytes? members
  | _ => none

def memberBytes? : List (String × Json) → Option Bytes
  | [] => none
  | (_, v) :: rest => (bytes? v).or (memberBytes? rest)

end

end Dispatch.Revert

import Dispatch.Json.Value

/-!
# Typed readings of JSON

A whole number is one written without point and exponent. A byte string is hexadecimal text or an
array of bytes. A record is an object, whose unknown members are passed over and whose known ones
stand once, or an array of its fields in order.
-/

set_option autoImplicit false

namespace Dispatch.Json

def natBelow? (bound : Nat) : Tree → Option Nat
  | .number (.whole false n) => if n < bound then some n else none
  | _ => none

def word32? (t : Tree) : Option UInt32 := (natBelow? UInt32.size t).map UInt32.ofNat

def word64? (t : Tree) : Option UInt64 := (natBelow? UInt64.size t).map UInt64.ofNat

def word128? (t : Tree) : Option (BitVec 128) := (natBelow? (Nat.pow 2 128) t).map (.ofNat 128)

/-- A number of 64 bits with a sign; zero has no minus in front. -/
def signed64? : Tree → Option Int
  | .number (.whole false n) => if n < 0x8000000000000000 then some n else none
  | .number (.whole true n) => if 0 < n ∧ n ≤ 0x8000000000000000 then some (-n) else none
  | _ => none

def text? : Tree → Option String
  | .string s => s
  | _ => none

def flag? : Tree → Option Bool
  | .bool b => some b
  | _ => none

def bytes? : Tree → Option Bytes
  | .string (some s) => Hex.read? s.toList
  | .array items => items.mapM fun t => (natBelow? 256 t).map UInt8.ofNat
  | _ => none

def fixed? (n : Nat) (t : Tree) : Option (FixedBytes n) := (bytes? t).bind FixedBytes.ofBytes?

def address? (t : Tree) : Option Address := fixed? 20 t

def hash? (t : Tree) : Option Hash := fixed? 32 t

def digitValue? (c : Char) : Option Nat :=
  if '0' ≤ c ∧ c ≤ '9' then some (c.toNat - 48)
  else if 'a' ≤ c ∧ c ≤ 'z' then some (c.toNat - 87)
  else if 'A' ≤ c ∧ c ≤ 'Z' then some (c.toNat - 55)
  else none

/-- Reads digits of a radix; underscores are passed over, and no digits are zero. -/
def readRadix? (radix : Nat) (cs : List Char) : Option Nat :=
  (cs.filter (· != '_')).foldlM (fun n c =>
    (digitValue? c).bind fun d => if d < radix then some (n * radix + d) else none) 0

def splitRadix : List Char → Nat × List Char
  | '0' :: m :: rest =>
    if m = 'x' ∨ m = 'X' then (16, rest)
    else if m = 'o' ∨ m = 'O' then (8, rest)
    else if m = 'b' ∨ m = 'B' then (2, rest)
    else (10, '0' :: m :: rest)
  | cs => (10, cs)

def scalar? (radix : Nat) (cs : List Char) : Option (BitVec 256) :=
  (readRadix? radix cs).bind fun n => if n < Nat.pow 2 256 then some (.ofNat 256 n) else none

/-- A number of at most 64 bits, or the text of one of 256 bits with an optional radix. -/
def word256? : Tree → Option (BitVec 256)
  | .number (.whole false n) => if n < UInt64.size then some (.ofNat 256 n) else none
  | .string (some s) =>
    let (radix, body) := splitRadix s.toList
    scalar? radix body
  | _ => none

/-! ## Records -/

/-- The member of a name among the members of an object; `none` if it stands twice. -/
def single? (name : String) (members : List (Literal × Tree)) : Option (Option Tree) :=
  match members.filter (fun m => m.1 == some name) with
  | [] => some none
  | [m] => some (some m.2)
  | _ => none

def fields? (names : List String) : Tree → Option (List (Option Tree))
  | .object members =>
    if members.all (fun m => m.1.isSome) then names.mapM fun name => single? name members else none
  | .array items =>
    if items.length ≤ names.length then
      some (items.map some ++ List.replicate (names.length - items.length) none)
    else none
  | _ => none

def required? {α : Type} (read : Tree → Option α) (field : Option Tree) : Option α :=
  field.bind read

def optional? {α : Type} (read : Tree → Option α) : Option Tree → Option (Option α)
  | none => some none
  | some .null => some none
  | some t => (read t).map some

def defaulted? {α : Type} (value : α) (read : Tree → Option α) : Option Tree → Option α
  | none => some value
  | some t => read t

end Dispatch.Json

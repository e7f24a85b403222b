import Dispatch.Bytes

/-!
# Recursive length prefixes

An item is a byte string or a list of items. Reading accepts the shortest form only, so an item has
one written form, and it leaves what follows the item.
-/

set_option autoImplicit false

namespace Dispatch.Rlp

inductive Item where
  | bytes (b : Bytes)
  | list (items : List Item)

/-! ## Writing -/

/-- The marker of a content of `n` bytes: short contents are counted in the first byte, long ones in
as many bytes as their length needs. -/
def header (base : Nat) (n : Nat) : Bytes :=
  if n ≤ 55 then [UInt8.ofNat (base + n)]
  else
    let size := Bytes.ofNatMinimal n
    UInt8.ofNat (base + 55 + size.length) :: size

def encodeBytes : Bytes → Bytes
  | [d] => if d < 0x80 then [d] else [0x81, d]
  | b => header 0x80 b.length ++ b

mutual

def encode : Item → Bytes
  | .bytes b => encodeBytes b
  | .list items =>
    let content := encodeAll items
    header 0xc0 content.length ++ content

def encodeAll : List Item → Bytes
  | [] => []
  | item :: rest => encode item ++ encodeAll rest

end

def ofNat (n : Nat) : Item := .bytes (Bytes.ofNatMinimal n)

/-! ## Reading -/

def take? (n : Nat) (b : Bytes) : Option (Bytes × Bytes) :=
  if n ≤ b.length then some (b.take n, b.drop n) else none

/-- The content whose length stands in the next `k` bytes; it must need them. -/
def longContent? (k : Nat) (b : Bytes) : Option (Bytes × Bytes) := do
  let (size, rest) ← take? k b
  let n := Bytes.toNat size
  if size.head? = some 0 ∨ n ≤ 55 then none else take? n rest

mutual

def decode? : Nat → Bytes → Option (Item × Bytes)
  | 0, _ => none
  | _ + 1, [] => none
  | fuel + 1, d :: rest =>
    let n := d.toNat
    if n < 0x80 then some (.bytes [d], rest)
    else if n ≤ 0xb7 then
      match take? (n - 0x80) rest with
      | some ([e], rest) => if e < 0x80 then none else some (.bytes [e], rest)
      | some (b, rest) => some (.bytes b, rest)
      | none => none
    else if n ≤ 0xbf then (longContent? (n - 0xb7) rest).map fun (b, rest) => (.bytes b, rest)
    else
      match (if n ≤ 0xf7 then take? (n - 0xc0) rest else longContent? (n - 0xf7) rest) with
      | some (content, rest) => (decodeAll? fuel content).map fun items => (.list items, rest)
      | none => none

def decodeAll? : Nat → Bytes → Option (List Item)
  | _, [] => some []
  | 0, _ :: _ => none
  | fuel + 1, d :: b =>
    match decode? fuel (d :: b) with
    | some (item, rest) => (decodeAll? fuel rest).map (item :: ·)
    | none => none

end

def read? (b : Bytes) : Option (Item × Bytes) := decode? (2 * b.length + 2) b

def Item.nat? (width : Nat) : Item → Option Nat
  | .bytes b => if b.length ≤ width ∧ b.head? ≠ some 0 then some (Bytes.toNat b) else none
  | .list _ => none

def Item.bytes? : Item → Option Bytes
  | .bytes b => some b
  | .list _ => none

def Item.fixed? (n : Nat) (item : Item) : Option (FixedBytes n) :=
  item.bytes?.bind FixedBytes.ofBytes?

def Item.list? : Item → Option (List Item)
  | .list items => some items
  | .bytes _ => none

end Dispatch.Rlp

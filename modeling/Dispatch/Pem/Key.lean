import Dispatch.Curve.Ecdsa
import Dispatch.Pem.Armor

/-!
# Request-signing keys

A key of the P-256 curve is read from its own structure or from one that names the algorithm around
it. It signs requests so that the receiver knows who asked.
-/

set_option autoImplicit false

namespace Dispatch.Pem

/-! ## Tagged values -/

/-- The length at the head of the bytes, in the shortest form. -/
def length? : Bytes → Option (Nat × Bytes)
  | [] => none
  | d :: rest =>
    if d < 0x80 then some (d.toNat, rest)
    else
      let k := d.toNat - 0x80
      let n := Bytes.toNat (rest.take k)
      if k = 0 ∨ 4 < k ∨ rest.length < k ∨ rest.head? = some 0 ∨ n < 0x80 then none
      else some (n, rest.drop k)

def tagged? : Bytes → Option (UInt8 × Bytes × Bytes)
  | [] => none
  | tag :: rest => do
    let (n, rest) ← length? rest
    if rest.length < n then none else some (tag, rest.take n, rest.drop n)

def expect? (tag : UInt8) (b : Bytes) : Option (Bytes × Bytes) := do
  let (found, content, rest) ← tagged? b
  if found = tag then some (content, rest) else none

def only? (tag : UInt8) (b : Bytes) : Option Bytes := do
  let (content, rest) ← expect? tag b
  if rest = [] then some content else none

/-- An optional field of the context's tag `number`; fields of lower numbers are passed over. -/
def field? (number : UInt8) : Nat → Bytes → Option (Option Bytes × Bytes)
  | 0, _ => none
  | _ + 1, [] => some (none, [])
  | fuel + 1, d :: rest =>
    if d &&& 0xc0 = 0x80 ∧ d &&& 0x1f ≤ number then do
      let (_, content, after) ← tagged? (d :: rest)
      if d &&& 0x1f = number then some (some content, after) else field? number fuel after
    else some (none, d :: rest)

def algorithmName : Bytes := [0x2a, 0x86, 0x48, 0xce, 0x3d, 0x02, 0x01]

def curveName : Bytes := [0x2a, 0x86, 0x48, 0xce, 0x3d, 0x03, 0x01, 0x07]

/-! ## Keys -/

structure RequestKey where
  scalar : Nat

/-- A nonzero scalar below the order, in 24 to 32 bytes. -/
def scalar? (b : Bytes) : Option Nat :=
  let d := Bytes.toNat b
  if 24 ≤ b.length ∧ b.length ≤ 32 ∧ 0 < d ∧ d < Curve.p256.n then some d else none

def pointForms (d : Nat) : List Bytes :=
  match Curve.p256.generate d with
  | none => []
  | some (x, y) =>
    [[0x04] ++ Bytes.ofNat 32 x ++ Bytes.ofNat 32 y,
      [if y % 2 = 0 then 0x02 else 0x03] ++ Bytes.ofNat 32 x]

def matchesPoint (d : Nat) : Option Bytes → Bool
  | none => true
  | some b =>
    match only? 0x03 b with
    | some (0 :: point) => (pointForms d).contains point
    | _ => false

def matchesCurve : Option Bytes → Bool
  | none => true
  | some b => only? 0x06 b == some curveName

/-- Reads the curve's own structure: a version, the scalar, and optionally curve and point. -/
def ownKey? (b : Bytes) : Option RequestKey := do
  let body ← only? 0x30 b
  let (version, rest) ← expect? 0x02 body
  let (secret, rest) ← expect? 0x04 rest
  let (curve, rest) ← field? 0 8 rest
  let (point, rest) ← field? 1 8 rest
  let d ← scalar? secret
  if version = [1] ∧ rest = [] ∧ matchesCurve curve ∧ matchesPoint d point then some ⟨d⟩ else none

/-- Reads the structure that names the algorithm around the curve's own one. -/
def wrappedKey? (b : Bytes) : Option RequestKey := do
  let body ← only? 0x30 b
  let (version, rest) ← expect? 0x02 body
  let (algorithm, rest) ← expect? 0x30 rest
  let (secret, rest) ← expect? 0x04 rest
  let (_, rest) ← field? 0 8 rest
  let (point, rest) ← field? 1 8 rest
  let (name, parameters) ← expect? 0x06 algorithm
  let curve ← only? 0x06 parameters
  if version = (if point.isSome then [1] else [0]) ∧ rest = [] ∧ name = algorithmName
      ∧ curve = curveName then ownKey? secret
  else none

def RequestKey.ofText? (text : List Char) : Option RequestKey := do
  let (label, bytes) ← decode? (normalize text)
  if label = "PRIVATE KEY" then wrappedKey? bytes
  else if label = "EC PRIVATE KEY" then ownKey? bytes
  else none

/-! ## Signatures -/

def integer (n : Nat) : Bytes :=
  let digits := Bytes.ofNatMinimal n
  let content := match digits with
    | [] => [0]
    | d :: _ => if d < 0x80 then digits else 0 :: digits
  [0x02, UInt8.ofNat content.length] ++ content

def pair (r s : Nat) : Bytes :=
  let content := integer r ++ integer s
  [0x30, UInt8.ofNat content.length] ++ content

def RequestKey.sign? (key : RequestKey) (message : Bytes) : Option Bytes :=
  (Ecdsa.sign? .p256 key.scalar (Sha256.hash message)).map fun (r, s, _) => pair r s

end Dispatch.Pem

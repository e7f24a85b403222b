import Dispatch.Curve.Basic
import Dispatch.Digest.Keccak
import Dispatch.Digest.Sha256

/-!
# Signatures over a curve with a 256-bit order

The nonce is derived from the key and the digest, so signing is a function. A recoverable
signature carries the parity of the nonce point, from which the signer's point is rebuilt.
-/

set_option autoImplicit false

namespace Dispatch

/-- Two scalars and the parity of the nonce point's second coordinate. -/
structure Signature where
  r : BitVec 256
  s : BitVec 256
  odd : Bool
deriving DecidableEq

namespace Ecdsa

structure Drbg where
  key : Bytes
  value : Bytes

def Drbg.stir (g : Drbg) (tag : UInt8) (seed : Bytes) : Drbg :=
  let key := (Sha256.keyed g.key (g.value ++ [tag] ++ seed)).toList
  ⟨key, (Sha256.keyed key g.value).toList⟩

/-- The first of at most `fuel` generated values that is a nonzero scalar. -/
def Drbg.scalar? (order : Nat) (g : Drbg) : Nat → Option Nat
  | 0 => none
  | fuel + 1 =>
    let value := (Sha256.keyed g.key g.value).toList
    let k := Bytes.toNat value
    if 0 < k ∧ k < order then some k
    else Drbg.scalar? order (Drbg.stir ⟨g.key, value⟩ 0 []) fuel

/-- The nonce for a key and a digest. A single try fails with probability below `2 ^ -31`. -/
def nonce? (c : Curve) (key : Nat) (digest : Hash) : Option Nat :=
  let seed := Bytes.ofNat 32 key ++ Bytes.ofNat 32 (digest.toNat % c.n)
  let g : Drbg := ⟨List.replicate 32 0, List.replicate 32 1⟩
  ((g.stir 0 seed).stir 1 seed).scalar? c.n 64

def sign? (c : Curve) (key : Nat) (digest : Hash) : Option (Nat × Nat × Bool) := do
  let k ← nonce? c key digest
  let (x, y) ← c.generate k
  let r := x % c.n
  let s := Curve.inverse c.n k * ((digest.toNat + r * key) % c.n) % c.n
  if r = 0 ∨ s = 0 then none else some (r, s, y % 2 == 1)

def normalize (c : Curve) : Nat × Nat × Bool → Nat × Nat × Bool
  | (r, s, odd) => if c.n / 2 < s then (r, c.n - s, !odd) else (r, s, odd)

def verify (c : Curve) (q : Nat × Nat) (digest : Hash) (r s : Nat) : Bool :=
  if 0 < r ∧ r < c.n ∧ 0 < s ∧ s < c.n then
    let w := Curve.inverse c.n s
    match c.combine (digest.toNat * w % c.n) (r * w % c.n) (some q) with
    | some (x, _) => x % c.n == r
    | none => false
  else false

/-- The point under which the signature verifies, rebuilt from the nonce point. -/
def recover? (c : Curve) (digest : Hash) (r s : Nat) (odd : Bool) : Option (Nat × Nat) :=
  if 0 < r ∧ r < c.n ∧ 0 < s ∧ s < c.n then do
    let point ← c.lift? r odd
    let i := Curve.inverse c.n r
    c.combine ((c.n - digest.toNat % c.n) % c.n * i % c.n) (s * i % c.n) (some point)
  else none

end Ecdsa

namespace PublicKey

def ofPoint (q : Nat × Nat) : PublicKey :=
  ⟨Bytes.ofNat 32 q.1 ++ Bytes.ofNat 32 q.2, by simp⟩

def address (key : PublicKey) : Address :=
  (Keccak.hash key.toList).suffix 20 (by decide)

end PublicKey

namespace Signature

def recover? (sig : Signature) (digest : Hash) : Option Address :=
  (Ecdsa.recover? .secp256k1 digest sig.r.toNat sig.s.toNat sig.odd).map
    fun q => PublicKey.address (.ofPoint q)

def IsLow (sig : Signature) : Prop := sig.s.toNat ≤ Curve.secp256k1.n / 2

instance (sig : Signature) : Decidable sig.IsLow := by
  unfold IsLow
  infer_instance

/-- Both scalars, then 27 or 28 for the parity. -/
def toBytes (sig : Signature) : Bytes :=
  Bytes.ofNat 32 sig.r.toNat ++ Bytes.ofNat 32 sig.s.toNat ++ [if sig.odd then 28 else 27]

/-- The parity that a recovery byte stands for: plain, offset by 27, or bound to a chain. -/
def parity? (v : Nat) : Option Bool :=
  if v = 0 ∨ v = 27 then some false
  else if v = 1 ∨ v = 28 then some true
  else if 35 ≤ v then some ((v - 35) % 2 == 1)
  else none

def ofBytes? (b : Bytes) : Option Signature :=
  if b.length = 65 then
    (parity? (Bytes.toNat (b.drop 64))).map fun odd =>
      ⟨.ofNat 256 (Bytes.toNat (b.take 32)), .ofNat 256 (Bytes.toNat ((b.drop 32).take 32)), odd⟩
  else none

end Signature

/-- The digest under which a message of 32 bytes is signed as a personal message. -/
def personalDigest (h : Hash) : Hash :=
  Keccak.hash ([0x19] ++ Bytes.ofText "Ethereum Signed Message:\n32" ++ h.toList)

/-- A secret scalar of the account curve, as the two functions that it gives. -/
structure SoftwareKey where
  publicKey : PublicKey
  signDigest : Hash → Option Signature

namespace SoftwareKey

def ofScalar? (d : Nat) : Option SoftwareKey :=
  if 0 < d ∧ d < Curve.secp256k1.n then
    (Curve.secp256k1.generate d).map fun q =>
      { publicKey := .ofPoint q
        signDigest := fun digest =>
          (Ecdsa.sign? .secp256k1 d digest).map fun raw =>
            let (r, s, odd) := Ecdsa.normalize .secp256k1 raw
            ⟨.ofNat 256 r, .ofNat 256 s, odd⟩ }
  else none

def address (key : SoftwareKey) : Address := key.publicKey.address

end SoftwareKey

end Dispatch

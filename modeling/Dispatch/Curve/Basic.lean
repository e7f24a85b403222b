/-!
# Points of a short Weierstrass curve over a prime field

A point is the neutral element or a pair of coordinates. Multiplication works on projective
triples, where a point is `(x / z², y / z³)`, and divides once at the end.
-/

set_option autoImplicit false

namespace Dispatch

def powMod (m base exponent : Nat) : Nat :=
  if exponent = 0 then 1 % m
  else
    let half := powMod m (base * base % m) (exponent / 2)
    if exponent % 2 = 1 then base * half % m else half
termination_by exponent

/-- The curve `y² = x³ + a x + b` modulo the prime `p`, with a generator of prime order `n`. -/
structure Curve where
  p : Nat
  a : Nat
  b : Nat
  n : Nat
  gx : Nat
  gy : Nat

namespace Curve

/-- Coordinates of a point; the neutral element has none. -/
abbrev Point := Option (Nat × Nat)

structure Projective where
  x : Nat
  y : Nat
  z : Nat

variable (c : Curve)

def sub (x y : Nat) : Nat := (x + c.p - y % c.p) % c.p

def inverse (m x : Nat) : Nat := powMod m (x % m) (m - 2)

def double (q : Projective) : Projective :=
  if q.z = 0 ∨ q.y = 0 then ⟨1, 1, 0⟩
  else
    let yy := q.y * q.y % c.p
    let s := 4 * q.x * yy % c.p
    let zz := q.z * q.z % c.p
    let m := (3 * q.x * q.x + c.a * (zz * zz % c.p)) % c.p
    let x := c.sub (m * m) (2 * s)
    ⟨x, c.sub (m * c.sub s x) (8 * yy * yy), 2 * q.y * q.z % c.p⟩

def add (q r : Projective) : Projective :=
  if q.z = 0 then r
  else if r.z = 0 then q
  else
    let qzz := q.z * q.z % c.p
    let rzz := r.z * r.z % c.p
    let u := q.x * rzz % c.p
    let v := r.x * qzz % c.p
    let s := q.y * (rzz * r.z % c.p) % c.p
    let t := r.y * (qzz * q.z % c.p) % c.p
    if u = v then
      if s = t then c.double q else ⟨1, 1, 0⟩
    else
      let h := c.sub v u
      let w := c.sub t s
      let hh := h * h % c.p
      let hhh := hh * h % c.p
      let uhh := u * hh % c.p
      let x := c.sub (c.sub (w * w) hhh) (2 * uhh)
      ⟨x, c.sub (w * c.sub uhh x) (s * hhh), h * q.z % c.p * r.z % c.p⟩

def scale (k : Nat) (q : Projective) : Projective :=
  if k = 0 then ⟨1, 1, 0⟩
  else
    let rest := scale (k / 2) (c.double q)
    if k % 2 = 1 then c.add q rest else rest
termination_by k

def toPoint (q : Projective) : Point :=
  if q.z = 0 then none
  else
    let i := inverse c.p q.z
    let ii := i * i % c.p
    some (q.x * ii % c.p, q.y * (ii * i % c.p) % c.p)

def ofPoint : Point → Projective
  | none => ⟨1, 1, 0⟩
  | some (x, y) => ⟨x, y, 1⟩

def generate (k : Nat) : Point := c.toPoint (c.scale k ⟨c.gx, c.gy, 1⟩)

def combine (k l : Nat) (q : Point) : Point :=
  c.toPoint (c.add (c.scale k ⟨c.gx, c.gy, 1⟩) (c.scale l (ofPoint q)))

def cubic (x : Nat) : Nat := (x * x % c.p * x + c.a * x + c.b) % c.p

def Contains (x y : Nat) : Prop := x < c.p ∧ y < c.p ∧ y * y % c.p = c.cubic x

instance (x y : Nat) : Decidable (c.Contains x y) := by
  unfold Contains
  infer_instance

/-- The point with this first coordinate and this parity of the second; the field prime must be
three modulo four. -/
def lift? (x : Nat) (odd : Bool) : Point :=
  let y := powMod c.p (c.cubic x) ((c.p + 1) / 4)
  if c.Contains x y then
    some (x, if decide (y % 2 = 1) = odd then y else (c.p - y) % c.p)
  else none

def secp256k1 : Curve where
  p := 0xfffffffffffffffffffffffffffffffffffffffffffffffffffffffefffffc2f
  a := 0
  b := 7
  n := 0xfffffffffffffffffffffffffffffffebaaedce6af48a03bbfd25e8cd0364141
  gx := 0x79be667ef9dcbbac55a06295ce870b07029bfcdb2dce28d959f2815b16f81798
  gy := 0x483ada7726a3c4655da4fbfc0e1108a8fd17b448a68554199c47d08ffb10d4b8

def p256 : Curve where
  p := 0xffffffff00000001000000000000000000000000ffffffffffffffffffffffff
  a := 0xffffffff00000001000000000000000000000000fffffffffffffffffffffffc
  b := 0x5ac635d8aa3a93e7b3ebbd55769886bc651d06b0cc53b0f63bce3c3e27d2604b
  n := 0xffffffff00000000ffffffffffffffffbce6faada7179e84f3b9cac2fc632551
  gx := 0x6b17d1f2e12c4247f8bce6e563a440f277037d812deb33a0f4a13945d898c296
  gy := 0x4fe342e2fe1a7f9b8ee7eb4a7c0f9e162bce33576b315ececbb6406837bf51f5

end Curve

end Dispatch

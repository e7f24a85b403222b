/-!
# Binary floating-point numbers of 64 bits

A finite number is a sign, a significand below `2 ^ 53` and a power of two from `-1074` to `971`.
Every operation is done exactly and rounded once, to nearest with ties to even.
-/

set_option autoImplicit false

namespace Dispatch

inductive Binary64 where
  | nan
  | infinite (negative : Bool)
  | finite (negative : Bool) (significand : Nat) (exponent : Int)
deriving DecidableEq

namespace Binary64

/-- The highest of the 53 bits of a significand, which is not written. -/
def hidden : Nat := 0x10000000000000

def zero (negative : Bool) : Binary64 := .finite negative 0 (-1074)

/-- `num / den` scaled by `2 ^ -e`, as a fraction. -/
def scaled (num den : Nat) (e : Int) : Nat × Nat :=
  if 0 ≤ e then (num, den * Nat.pow 2 e.toNat) else (num * Nat.pow 2 (-e).toNat, den)

/-- The quotient rounded to nearest, a tie to the even neighbour. -/
def divEven (num den : Nat) : Nat :=
  let q := num / den
  let twice := 2 * (num % den)
  if twice < den then q else if den < twice then q + 1 else q + q % 2

/-- The power of two whose multiples `num / den` is rounded to. -/
def gridExponent (num den : Nat) : Int :=
  let e : Int := (num.log2 : Int) - den.log2 - 52
  let (a, b) := scaled num den e
  let e := if a / b < hidden then e - 1 else e
  if e < -1074 then -1074 else e

def ofRatio (negative : Bool) (num den : Nat) : Binary64 :=
  if num = 0 then zero negative
  else
    let e := gridExponent num den
    let (a, b) := scaled num den e
    let q := divEven a b
    let (q, e) := if q = 2 * hidden then (hidden, e + 1) else (q, e)
    if 971 < e then .infinite negative else .finite negative q e

def ofNat (n : Nat) : Binary64 := ofRatio false n 1

def isNegative : Binary64 → Bool
  | .nan => false
  | .infinite negative => negative
  | .finite negative _ _ => negative

def ratio (significand : Nat) (exponent : Int) : Nat × Nat :=
  if 0 ≤ exponent then (significand * Nat.pow 2 exponent.toNat, 1)
  else (significand, Nat.pow 2 (-exponent).toNat)

def mul : Binary64 → Binary64 → Binary64
  | .nan, _ => .nan
  | _, .nan => .nan
  | .infinite s, .infinite t => .infinite (s != t)
  | .infinite s, .finite t m _ => if m = 0 then .nan else .infinite (s != t)
  | .finite s m _, .infinite t => if m = 0 then .nan else .infinite (s != t)
  | .finite s m e, .finite t n f =>
    let (num, den) := ratio (m * n) (e + f)
    ofRatio (s != t) num den

def IsPositive : Binary64 → Prop
  | .finite negative significand _ => negative = false ∧ 0 < significand
  | _ => False

instance (x : Binary64) : Decidable x.IsPositive := by
  cases x <;> simp only [IsPositive] <;> infer_instance

/-- The nearest natural number, a half upwards, kept within `limit`; negative numbers and numbers
that are none give zero. -/
def toNatWithin (limit : Nat) : Binary64 → Nat
  | .nan => 0
  | .infinite negative => if negative then 0 else limit
  | .finite true _ _ => 0
  | .finite false m e =>
    let (num, den) := ratio m e
    min limit ((2 * num + den) / (2 * den))

def toBits : Binary64 → BitVec 64
  | .nan => 0x7ff8000000000000
  | .infinite negative => (if negative then 0xfff0000000000000 else 0x7ff0000000000000)
  | .finite negative m e =>
    let body := if m < hidden then m else m - hidden + (e + 1075).toNat * hidden
    .ofNat 64 (if negative then 2048 * hidden + body else body)

/-! ## Reading decimal text -/

def digits? (cs : List Char) : Option Nat :=
  if cs.all Char.isDigit then some (cs.foldl (fun n c => 10 * n + (c.toNat - 48)) 0) else none

def ofDecimal (negative : Bool) (mantissa : Nat) (exponent : Int) : Binary64 :=
  if mantissa = 0 then zero negative
  else
    let magnitude : Int := (mantissa.log2 : Int) / 4 + exponent
    if 400 < magnitude then .infinite negative
    else if (mantissa.log2 : Int) + exponent < -400 then zero negative
    else if 0 ≤ exponent then ofRatio negative (mantissa * Nat.pow 10 exponent.toNat) 1
    else ofRatio negative mantissa (Nat.pow 10 (-exponent).toNat)

def splitSign : List Char → Bool × List Char
  | '-' :: rest => (true, rest)
  | '+' :: rest => (false, rest)
  | cs => (false, cs)

def exponent? (cs : List Char) : Option Int :=
  let (negative, body) := splitSign cs
  if body.isEmpty then none
  else (digits? body).map fun n => if negative then -(n : Int) else n

def readUnsigned? (negative : Bool) (cs : List Char) : Option Binary64 :=
  let lower := cs.map Char.toLower
  if lower = ['n', 'a', 'n'] then some .nan
  else if lower = ['i', 'n', 'f'] ∨ lower = ['i', 'n', 'f', 'i', 'n', 'i', 't', 'y'] then
    some (.infinite negative)
  else
    let (body, tail) := lower.span (· != 'e')
    let (whole, fraction) := body.span (· != '.')
    let fraction := fraction.drop 1
    if whole.isEmpty ∧ fraction.isEmpty then none
    else
      match digits? (whole ++ fraction),
        (if tail.isEmpty then some 0 else exponent? (tail.drop 1)) with
      | some m, some e => some (ofDecimal negative m (e - fraction.length))
      | _, _ => none

def read? (cs : List Char) : Option Binary64 :=
  let (negative, body) := splitSign cs
  readUnsigned? negative body

/-! ## Writing decimal text -/

/-- The bounds of what rounds to a positive number, in quarters of its grid step. -/
def roundingBounds (m : Nat) (e : Int) : Nat × Nat :=
  (if m = hidden ∧ -1074 < e then 4 * m - 1 else 4 * m - 2, 4 * m + 2)

/-- The multiple of `10 ^ k` nearest to `m · 2 ^ e` among those that read back as it. -/
def nearestMultiple? (m : Nat) (e k : Int) : Option Nat :=
  let unit := ratio 1 (e - 2)
  let ten := if 0 ≤ k then (Nat.pow 10 k.toNat, 1) else (1, Nat.pow 10 (-k).toNat)
  -- `x` quarters of the step compare with `c` powers of ten as `x * step` with `c * grid`
  let step := unit.1 * ten.2
  let grid := ten.1 * unit.2
  let (low, high) := roundingBounds m e
  let inside := fun c =>
    let v := c * grid
    if m % 2 = 0 then decide (low * step ≤ v ∧ v ≤ high * step)
    else decide (low * step < v ∧ v < high * step)
  let c := 4 * m * step / grid
  let rest := 4 * m * step % grid
  let first := if 2 * rest < grid ∨ (2 * rest = grid ∧ c % 2 = 0) then [c, c + 1] else [c + 1, c]
  (first.filter (fun c => 0 < c)).find? inside

/-- The shortest digits that read back as a positive number, tried from the coarsest power of ten,
with that power. -/
def shortest (m : Nat) (e k : Int) : Nat → Nat × Int
  | 0 => (m, e)
  | fuel + 1 =>
    match nearestMultiple? m e k with
    | some c => (c, k)
    | none => shortest m e (k - 1) fuel

def shortestDigits (m : Nat) (e : Int) : List Char × Int :=
  let (c, k) := shortest m e 309 660
  (Nat.toDigits 10 c, k)

def zeros (n : Nat) : List Char := List.replicate n '0'

def positional (digits : List Char) (k : Int) : List Char :=
  let point : Int := digits.length + k
  if 0 ≤ k then digits ++ zeros k.toNat
  else if 0 < point then digits.take point.toNat ++ ['.'] ++ digits.drop point.toNat
  else ['0', '.'] ++ zeros (-point).toNat ++ digits

def signText (negative : Bool) : List Char := if negative then ['-'] else []

def display : Binary64 → String
  | .nan => "NaN"
  | .infinite negative => String.ofList (signText negative ++ ['i', 'n', 'f'])
  | .finite negative m e =>
    if m = 0 then String.ofList (signText negative ++ ['0'])
    else
      let (digits, k) := shortestDigits m e
      String.ofList (signText negative ++ positional digits k)

/-- The number as JSON text, where a point or an exponent always stands: positional from `10 ^ -5`
up to sixteen digits in front of the point. Infinities and what is no number have no such text. -/
def json? : Binary64 → Option String
  | .nan => none
  | .infinite _ => none
  | .finite negative m e =>
    if m = 0 then some (String.ofList (signText negative ++ ['0', '.', '0']))
    else
      let (digits, k) := shortestDigits m e
      let point : Int := digits.length + k
      let exponent := (toString (point - 1)).toList
      let body :=
        if 0 ≤ k ∧ point ≤ 16 then digits ++ zeros k.toNat ++ ['.', '0']
        else if -5 < point ∧ point ≤ 16 then positional digits k
        else if digits.length = 1 then digits ++ ['e'] ++ exponent
        else digits.take 1 ++ ['.'] ++ digits.drop 1 ++ ['e'] ++ exponent
      some (String.ofList (signText negative ++ body))

end Binary64

/-- An amount times a multiplier, both taken as 64-bit floating-point numbers, rounded to the
nearest whole amount and kept within 128 bits. -/
def applyMultiplier (value : BitVec 128) (multiplier : Binary64) : BitVec 128 :=
  .ofNat 128 (((Binary64.ofNat value.toNat).mul multiplier).toNatWithin (Nat.pow 2 128 - 1))

end Dispatch

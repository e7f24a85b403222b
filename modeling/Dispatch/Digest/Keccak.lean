import Dispatch.Bytes

/-!
# Keccak-256

The sponge over twenty-five 64-bit lanes with a rate of 136 bytes and the padding `0x01 … 0x80`.
-/

set_option autoImplicit false

namespace Dispatch.Keccak

abbrev Lanes := Vector UInt64 25

def rotate (x : UInt64) (k : UInt64) : UInt64 := (x <<< k) ||| (x >>> (64 - k))

def offsets : Lanes :=
  #v[0, 1, 62, 28, 27, 36, 44, 6, 55, 20, 3, 10, 43, 25, 39, 41, 45, 15, 21, 8, 18, 2, 61, 56, 14]

def roundConstants : List UInt64 :=
  [0x0000000000000001, 0x0000000000008082, 0x800000000000808A, 0x8000000080008000,
   0x000000000000808B, 0x0000000080000001, 0x8000000080008081, 0x8000000000008009,
   0x000000000000008A, 0x0000000000000088, 0x0000000080008009, 0x000000008000000A,
   0x000000008000808B, 0x800000000000008B, 0x8000000000008089, 0x8000000000008003,
   0x8000000000008002, 0x8000000000000080, 0x000000000000800A, 0x800000008000000A,
   0x8000000080008081, 0x8000000000008080, 0x0000000080000001, 0x8000000080008008]

def lane (a : Lanes) (x y : Nat) : UInt64 := a[x % 5 + 5 * (y % 5)]

def column (a : Lanes) (x : Nat) : UInt64 :=
  lane a x 0 ^^^ lane a x 1 ^^^ lane a x 2 ^^^ lane a x 3 ^^^ lane a x 4

def columns (a : Lanes) : Vector UInt64 5 := Vector.ofFn fun x => column a x

def theta (a : Lanes) : Lanes :=
  let sums := columns a
  Vector.ofFn fun i =>
    a[i] ^^^ sums[(i.val + 4) % 5] ^^^ rotate sums[(i.val + 1) % 5] 1

def rhoPi (a : Lanes) : Lanes :=
  Vector.ofFn fun i =>
    let x := i.val % 5
    let y := i.val / 5
    rotate (lane a (x + 3 * y) x) (lane offsets (x + 3 * y) x)

def chi (a : Lanes) : Lanes :=
  Vector.ofFn fun i =>
    let x := i.val % 5
    let y := i.val / 5
    a[i] ^^^ (~~~ lane a (x + 1) y &&& lane a (x + 2) y)

def round (a : Lanes) (constant : UInt64) : Lanes :=
  let b := chi (rhoPi (theta a))
  b.set 0 (b[0] ^^^ constant)

def permute (a : Lanes) : Lanes := roundConstants.foldl round a

def rate : Nat := 136

def pad (last : Bytes) : Bytes :=
  if last.length + 1 = rate then last ++ [0x81]
  else last ++ [0x01] ++ List.replicate (rate - 2 - last.length) 0 ++ [0x80]

def loadLane (b : Bytes) : UInt64 :=
  (b.take 8).foldr (fun d n => n <<< 8 ||| d.toUInt64) 0

def absorb (a : Lanes) (block : Bytes) : Lanes :=
  let lanes := ((Bytes.chunks 8 block).map loadLane).toArray
  permute (Vector.ofFn fun i => a[i] ^^^ (lanes[i.val]?).getD 0)

def blocks (m : Bytes) : List Bytes :=
  let whole := m.length / rate * rate
  Bytes.chunks rate (m.take whole) ++ [pad (m.drop whole)]

def squeeze (a : Lanes) : Hash :=
  ⟨List.ofFn fun i : Fin 32 => (a[i.val / 8] >>> (8 * (i.val % 8)).toUInt64).toUInt8,
    List.length_ofFn⟩

def hash (m : Bytes) : Hash :=
  squeeze ((blocks m).foldl absorb (Vector.replicate 25 0))

end Dispatch.Keccak

import Dispatch.Bytes

/-!
# SHA-256 and the keyed digest over it
-/

set_option autoImplicit false

namespace Dispatch.Sha256

abbrev Words := Vector UInt32 8

def constants : List UInt32 :=
  [0x428a2f98, 0x71374491, 0xb5c0fbcf, 0xe9b5dba5, 0x3956c25b, 0x59f111f1, 0x923f82a4, 0xab1c5ed5,
   0xd807aa98, 0x12835b01, 0x243185be, 0x550c7dc3, 0x72be5d74, 0x80deb1fe, 0x9bdc06a7, 0xc19bf174,
   0xe49b69c1, 0xefbe4786, 0x0fc19dc6, 0x240ca1cc, 0x2de92c6f, 0x4a7484aa, 0x5cb0a9dc, 0x76f988da,
   0x983e5152, 0xa831c66d, 0xb00327c8, 0xbf597fc7, 0xc6e00bf3, 0xd5a79147, 0x06ca6351, 0x14292967,
   0x27b70a85, 0x2e1b2138, 0x4d2c6dfc, 0x53380d13, 0x650a7354, 0x766a0abb, 0x81c2c92e, 0x92722c85,
   0xa2bfe8a1, 0xa81a664b, 0xc24b8b70, 0xc76c51a3, 0xd192e819, 0xd6990624, 0xf40e3585, 0x106aa070,
   0x19a4c116, 0x1e376c08, 0x2748774c, 0x34b0bcb5, 0x391c0cb3, 0x4ed8aa4a, 0x5b9cca4f, 0x682e6ff3,
   0x748f82ee, 0x78a5636f, 0x84c87814, 0x8cc70208, 0x90befffa, 0xa4506ceb, 0xbef9a3f7, 0xc67178f2]

def initial : Words :=
  #v[0x6a09e667, 0xbb67ae85, 0x3c6ef372, 0xa54ff53a, 0x510e527f, 0x9b05688c, 0x1f83d9ab, 0x5be0cd19]

def rotate (x : UInt32) (k : UInt32) : UInt32 := (x >>> k) ||| (x <<< (32 - k))

def loadWord (b : Bytes) : UInt32 :=
  b.foldl (fun n d => n <<< 8 ||| d.toUInt32) 0

def extend (w : Array UInt32) : Nat → Array UInt32
  | 0 => w
  | n + 1 =>
    let at_ := fun back => (w[w.size - back]?).getD 0
    let a := at_ 15
    let b := at_ 2
    let s0 := rotate a 7 ^^^ rotate a 18 ^^^ (a >>> 3)
    let s1 := rotate b 17 ^^^ rotate b 19 ^^^ (b >>> 10)
    extend (w.push (at_ 16 + s0 + at_ 7 + s1)) n

def step (v : Words) (kw : UInt32 × UInt32) : Words :=
  let s1 := rotate v[4] 6 ^^^ rotate v[4] 11 ^^^ rotate v[4] 25
  let choice := (v[4] &&& v[5]) ^^^ (~~~ v[4] &&& v[6])
  let t1 := v[7] + s1 + choice + kw.1 + kw.2
  let s0 := rotate v[0] 2 ^^^ rotate v[0] 13 ^^^ rotate v[0] 22
  let majority := (v[0] &&& v[1]) ^^^ (v[0] &&& v[2]) ^^^ (v[1] &&& v[2])
  #v[t1 + (s0 + majority), v[0], v[1], v[2], v[3] + t1, v[4], v[5], v[6]]

def compress (v : Words) (block : Bytes) : Words :=
  let schedule := extend ((Bytes.chunks 4 block).map loadWord).toArray 48
  let mixed := (constants.zip schedule.toList).foldl step v
  Vector.ofFn fun i => v[i] + mixed[i]

def pad (m : Bytes) : Bytes :=
  m ++ [0x80] ++ List.replicate ((119 - m.length % 64) % 64) 0 ++ Bytes.ofNat 8 (8 * m.length)

def hash (m : Bytes) : Hash :=
  let v := (Bytes.chunks 64 (pad m)).foldl compress initial
  ⟨List.ofFn fun i : Fin 32 => (v[i.val / 4] >>> (24 - 8 * (i.val % 4)).toUInt32).toUInt8,
    List.length_ofFn⟩

def keyed (key m : Bytes) : Hash :=
  let short := if 64 < key.length then (hash key).toList else key
  let full := short ++ List.replicate (64 - short.length) 0
  hash (full.map (· ^^^ 0x5c) ++ (hash (full.map (· ^^^ 0x36) ++ m)).toList)

end Dispatch.Sha256

/-!
# Byte strings

A byte string is a list of bytes; its number is read most significant byte first. Addresses,
hashes and public keys are byte strings of a known length.
-/

set_option autoImplicit false

namespace Dispatch

abbrev Bytes := List UInt8

namespace Bytes

def toNat (b : Bytes) : Nat := b.foldl (fun n d => 256 * n + d.toNat) 0

/-- The lowest `width` base-256 digits of a number, most significant first. -/
def ofNat : Nat → Nat → Bytes
  | 0, _ => []
  | width + 1, n => ofNat width (n / 256) ++ [UInt8.ofNat n]

/-- The base-256 digits of a number without leading zeros. -/
def ofNatMinimal (n : Nat) : Bytes :=
  if n = 0 then [] else ofNatMinimal (n / 256) ++ [UInt8.ofNat n]

@[simp] theorem length_ofNat (width n : Nat) : (ofNat width n).length = width := by
  induction width generalizing n with
  | zero => rfl
  | succ width ih => simp [ofNat, ih]

def ofText (s : String) : Bytes := s.toUTF8.toList

def toText? (b : Bytes) : Option String := String.fromUTF8? ⟨b.toArray⟩

def chunks (size : Nat) : Bytes → List Bytes
  | [] => []
  | d :: rest => (d :: rest.take (size - 1)) :: chunks size (rest.drop (size - 1))
termination_by b => b.length
decreasing_by simp only [List.length_drop, List.length_cons]; omega

end Bytes

/-- A byte string of exactly `n` bytes. -/
structure FixedBytes (n : Nat) where
  toList : Bytes
  length_eq : toList.length = n
deriving DecidableEq

abbrev Address := FixedBytes 20
abbrev Hash := FixedBytes 32
abbrev PublicKey := FixedBytes 64

namespace FixedBytes

variable {n : Nat}

def ofBytes? (b : Bytes) : Option (FixedBytes n) :=
  if h : b.length = n then some ⟨b, h⟩ else none

def ofNat (value : Nat) : FixedBytes n := ⟨Bytes.ofNat n value, Bytes.length_ofNat n value⟩

def zero : FixedBytes n := ofNat 0

def toNat (b : FixedBytes n) : Nat := b.toList.toNat

instance : Inhabited (FixedBytes n) := ⟨zero⟩

def suffix (b : FixedBytes n) (k : Nat) (h : k ≤ n) : FixedBytes k :=
  ⟨b.toList.drop (n - k), by have := b.length_eq; simp only [List.length_drop]; omega⟩

theorem ofBytes?_toList (b : FixedBytes n) : ofBytes? b.toList = some b := by
  simp [ofBytes?, b.length_eq]

theorem ofBytes?_eq_some_iff {b : Bytes} {x : FixedBytes n} :
    ofBytes? b = some x ↔ x.toList = b := by
  constructor
  · intro h
    unfold ofBytes? at h
    split at h
    · cases h; rfl
    · cases h
  · rintro rfl
    exact ofBytes?_toList x

end FixedBytes

end Dispatch

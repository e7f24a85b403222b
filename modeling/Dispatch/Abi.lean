import Dispatch.Digest.Keccak

/-!
# Contract calls as bytes

A call starts with four bytes of the digest of the function's signature. Each argument has a head of
one word; an argument of any length stands behind the heads, where its head points.
-/

set_option autoImplicit false

namespace Dispatch.Abi

def selector (signature : String) : Bytes := (Keccak.hash (Bytes.ofText signature)).toList.take 4

def word (n : Nat) : Bytes := Bytes.ofNat 32 n

inductive Argument where
  | address (a : Address)
  | uint (n : BitVec 256)
  | bytes (b : Bytes)

def padded (b : Bytes) : Bytes := b ++ List.replicate ((32 - b.length % 32) % 32) 0

def Argument.tail : Argument → Bytes
  | .bytes b => word b.length ++ padded b
  | _ => []

def Argument.head (offset : Nat) : Argument → Bytes
  | .address a => word a.toNat
  | .uint n => word n.toNat
  | .bytes _ => word offset

def heads (offset : Nat) : List Argument → Bytes
  | [] => []
  | a :: rest => a.head offset ++ heads (offset + a.tail.length) rest

def arguments (args : List Argument) : Bytes :=
  heads (32 * args.length) args ++ args.flatMap Argument.tail

def call (signature : String) (args : List Argument) : Bytes := selector signature ++ arguments args

def firstWord? (b : Bytes) : Option (BitVec 256) :=
  if 32 ≤ b.length then some (.ofNat 256 (Bytes.toNat (b.take 32))) else none

end Dispatch.Abi

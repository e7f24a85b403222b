import Dispatch.Hex
import Dispatch.Digest.Keccak

/-!
# Accounts in text

An address is written with the case of its letters as a checksum: a letter is a capital if the
digit at its place in the digest of the lower-case text is eight or more.
-/

set_option autoImplicit false

namespace Dispatch

def Address.capitalize (c : Char) (nibble : Nat) : Char := if 8 ≤ nibble then c.toUpper else c

def Address.checksummed (a : Address) : String :=
  let digits := (Hex.bare a.toList).toList
  let digest := (Keccak.hash (Bytes.ofText (String.ofList digits))).toList
  let nibbles := digest.flatMap fun b => [b.toNat / 16, b.toNat % 16]
  "0x" ++ String.ofList (List.zipWith capitalize digits nibbles)

end Dispatch

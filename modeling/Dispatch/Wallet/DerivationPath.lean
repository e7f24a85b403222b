import Dispatch.Failure
import Dispatch.Text.Blank

/-!
# Account paths of hardware devices

A path is a list of numbers below `2 ^ 31`, each of which may be hardened. In text a hardened one
has an apostrophe behind it, and on the wire its highest bit set.
-/

set_option autoImplicit false

namespace Dispatch.DerivationPath

/-- The path of an account by its number, in the current or the legacy layout. -/
def account (index : UInt32) (legacy : Bool) : List Char :=
  if legacy then "44'/60'/0'/".toList ++ Text.digits index.toNat
  else "44'/60'/".toList ++ Text.digits index.toNat ++ "'/0/0".toList

def dropRoot : List Char → List Char
  | 'm' :: '/' :: rest => dropRoot rest
  | cs => cs

def splitHardened (part : List Char) : List Char × Bool :=
  if part.getLast? = some '\'' then (part.dropLast, true) else (part, false)

def hardenedBit : Nat := 0x80000000

def readPart (part : List Char) : Except DeviceFault Nat :=
  let (digits, hardened) := splitHardened part
  match Text.readNat? UInt32.size digits with
  | none => .error (.pathComponent part)
  | some n =>
    if hardenedBit ≤ n then .error (.pathRange part)
    else .ok (if hardened then n + hardenedBit else n)

def encode (path : List Char) : Except DeviceFault Bytes := do
  let parts ← (Text.splitAt '/' (dropRoot path)).mapM readPart
  if 256 ≤ parts.length then throw .pathDepth
  return UInt8.ofNat parts.length :: parts.flatMap (Bytes.ofNat 4)

end Dispatch.DerivationPath

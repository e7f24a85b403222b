import Dispatch.Json.Tree
import Dispatch.Text.Lossy

/-!
# JSON from bytes

Bytes that are no text may stand in a literal for which nobody asks. Such a literal reads in two
ways if two marks are put in their place, and is taken to have no text.
-/

set_option autoImplicit false

namespace Dispatch.Json

mutual

/-- The first of two trees that differ in their literals only, without the literals that differ. -/
def common : Tree → Tree → Tree
  | .string s, .string t => .string (if s = t then s else none)
  | .array ts, .array us => .array (commonItems ts us)
  | .object ms, .object ns => .object (commonMembers ms ns)
  | t, _ => t

def commonItems : List Tree → List Tree → List Tree
  | t :: ts, u :: us => common t u :: commonItems ts us
  | ts, _ => ts

def commonMembers :
    List (Literal × Tree) → List (Literal × Tree) → List (Literal × Tree)
  | (s, t) :: ms, (s', u) :: ns =>
    (if s = s' then s else none, common t u) :: commonMembers ms ns
  | ms, _ => ms

end

def readBytes? (b : Bytes) : Option Tree := do
  let t ← read? (Text.charsBy Text.replacement b)
  let u ← read? (Text.charsBy '\uFFFE' b)
  some (common t u)

end Dispatch.Json

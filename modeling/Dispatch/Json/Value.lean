import Dispatch.Binary64
import Dispatch.Json.Tree

/-!
# JSON values and their text

A value is written without spaces. Free-form values read from text are ordered: their members
stand in the order of their names, and of two with one name the later counts.
-/

set_option autoImplicit false

namespace Dispatch

inductive Json where
  | null
  | bool (b : Bool)
  | integer (n : Int)
  | float (x : Binary64)
  | string (s : String)
  | array (items : List Json)
  | object (members : List (String × Json))

namespace Json

/-! ## Writing -/

def escaped (c : Char) : List Char :=
  if c = '"' then ['\\', '"']
  else if c = '\\' then ['\\', '\\']
  else if c = '\x08' then ['\\', 'b']
  else if c = '\x0c' then ['\\', 'f']
  else if c = '\n' then ['\\', 'n']
  else if c = '\r' then ['\\', 'r']
  else if c = '\t' then ['\\', 't']
  else if c.toNat < 0x20 then
    ['\\', 'u', '0', '0', Hex.digit (c.toNat / 16), Hex.digit (c.toNat % 16)]
  else [c]

def literal (s : String) : List Char := ['"'] ++ s.toList.flatMap escaped ++ ['"']

def integerText (n : Int) : List Char :=
  if n < 0 then '-' :: Nat.toDigits 10 n.natAbs else Nat.toDigits 10 n.natAbs

/-- Writes a number that is none as null. -/
def floatText (x : Binary64) : List Char := (x.json?.getD "null").toList

mutual

def chars : Json → List Char
  | .null => ['n', 'u', 'l', 'l']
  | .bool true => ['t', 'r', 'u', 'e']
  | .bool false => ['f', 'a', 'l', 's', 'e']
  | .integer n => integerText n
  | .float x => floatText x
  | .string s => literal s
  | .array items => '[' :: itemChars items ++ [']']
  | .object members => '\x7b' :: memberChars members ++ ['\x7d']

def itemChars : List Json → List Char
  | [] => []
  | [v] => chars v
  | v :: rest => chars v ++ ',' :: itemChars rest

def memberChars : List (String × Json) → List Char
  | [] => []
  | [(name, v)] => literal name ++ ':' :: chars v
  | (name, v) :: rest => literal name ++ ':' :: chars v ++ ',' :: memberChars rest

end

def render (v : Json) : String := String.ofList (chars v)

/-! ## Members by name -/

def insert (name : String) (v : Json) : List (String × Json) → List (String × Json)
  | [] => [(name, v)]
  | (k, w) :: rest =>
    if name < k then (name, v) :: (k, w) :: rest
    else if name = k then (name, v) :: rest
    else (k, w) :: insert name v rest

/-- The same members in the order of their names, the last of each name. -/
def ordered (members : List (String × Json)) : List (String × Json) :=
  members.foldl (fun ms (name, v) => insert name v ms) []

def member? (name : String) : Json → Option Json
  | .object members => members.lookup name
  | _ => none

/-! ## From text -/

def ofNumeral? : Numeral → Option Json
  | .whole false n => some (if n < UInt64.size then .integer n else .float (.ofNat n))
  | .whole true n =>
    some (if 0 < n ∧ n ≤ 0x8000000000000000 then .integer (-n) else .float (.ofRatio true n 1))
  | .real negative m e =>
    match Binary64.ofDecimal negative m e with
    | .infinite _ => none
    | x => some (.float x)

mutual

/-- The free-form value that a text denotes. Nothing does that is nested in `depth` levels or more,
holds a number out of range, or has a literal without a text. -/
def ofTree? (depth : Nat) : Tree → Option Json
  | .null => some .null
  | .bool b => some (.bool b)
  | .number n => ofNumeral? n
  | .string s => s.map .string
  | .array items =>
    if depth ≤ 1 then none else (ofItems? (depth - 1) items).map .array
  | .object members =>
    if depth ≤ 1 then none
    else (ofMembers? (depth - 1) members).map fun ms => .object (ordered ms)

def ofItems? (depth : Nat) : List Tree → Option (List Json)
  | [] => some []
  | t :: rest =>
    match ofTree? depth t, ofItems? depth rest with
    | some v, some vs => some (v :: vs)
    | _, _ => none

def ofMembers? (depth : Nat) : List (Literal × Tree) → Option (List (String × Json))
  | [] => some []
  | (name, t) :: rest =>
    match name, ofTree? depth t, ofMembers? depth rest with
    | some name, some v, some vs => some ((name, v) :: vs)
    | _, _, _ => none

end

mutual

def toTree : Json → Tree
  | .null => .null
  | .bool b => .bool b
  | .integer n => .number (.whole (decide (n < 0)) n.natAbs)
  | .float _ => .number (.real false 0 0)
  | .string s => .string (some s)
  | .array items => .array (itemTrees items)
  | .object members => .object (memberTrees members)

def itemTrees : List Json → List Tree
  | [] => []
  | v :: rest => toTree v :: itemTrees rest

def memberTrees : List (String × Json) → List (Literal × Tree)
  | [] => []
  | (name, v) :: rest => (some name, toTree v) :: memberTrees rest

end

/-- The levels of nesting that free-form values stay below. -/
def depthLimit : Nat := 128

end Json

end Dispatch

import Dispatch.Hex

/-!
# Reading JSON text

The reader keeps all that a text says: members in order with repeated names, whole numbers of any
size, and string literals that denote no text because an escape names half of a surrogate pair.
What of this is acceptable depends on who asks, and is decided after reading.
-/

set_option autoImplicit false

namespace Dispatch.Json

inductive Numeral where
  | whole (negative : Bool) (value : Nat)
  /-- The value `mantissa · 10 ^ exponent`, written with a point or an exponent. -/
  | real (negative : Bool) (mantissa : Nat) (exponent : Int)
deriving DecidableEq

abbrev Literal := Option String

inductive Tree where
  | null
  | bool (b : Bool)
  | number (n : Numeral)
  | string (s : Literal)
  | array (items : List Tree)
  | object (members : List (Literal × Tree))

namespace Reader

def isSpace (c : Char) : Bool := c = ' ' || c = '\n' || c = '\t' || c = '\r'

def skip (cs : List Char) : List Char := cs.dropWhile isSpace

/-! ## String literals -/

/-- A character of a literal, or a 16-bit unit given by its number. -/
inductive Piece where
  | char (c : Char)
  | unit (n : Nat)

def hex4? : List Char → Option (Nat × List Char)
  | a :: b :: c :: d :: rest =>
    match Hex.digitValue? a, Hex.digitValue? b, Hex.digitValue? c, Hex.digitValue? d with
    | some a, some b, some c, some d => some (((a * 16 + b) * 16 + c) * 16 + d, rest)
    | _, _, _, _ => none
  | _ => none

def escape? : Char → Option Char
  | '"' => some '"'
  | '\\' => some '\\'
  | '/' => some '/'
  | 'b' => some '\x08'
  | 'f' => some '\x0c'
  | 'n' => some '\n'
  | 'r' => some '\r'
  | 't' => some '\t'
  | _ => none

/-- The pieces up to the closing quote, and what follows it. -/
def pieces? : Nat → List Char → Option (List Piece × List Char)
  | 0, _ => none
  | _ + 1, [] => none
  | _ + 1, '"' :: rest => some ([], rest)
  | fuel + 1, '\\' :: 'u' :: rest =>
    match hex4? rest with
    | some (n, rest) => (pieces? fuel rest).map fun (ps, rest) => (.unit n :: ps, rest)
    | none => none
  | fuel + 1, '\\' :: c :: rest =>
    match escape? c with
    | some c => (pieces? fuel rest).map fun (ps, rest) => (.char c :: ps, rest)
    | none => none
  | fuel + 1, c :: rest =>
    if c.toNat < 0x20 ∨ c = '\\' then none
    else (pieces? fuel rest).map fun (ps, rest) => (.char c :: ps, rest)

def isHigh (n : Nat) : Bool := 0xd800 ≤ n && n < 0xdc00

def isLow (n : Nat) : Bool := 0xdc00 ≤ n && n < 0xe000

/-- Joins pairs of surrogates; a half without its partner denotes nothing. -/
def assemble? : List Piece → Option (List Char)
  | [] => some []
  | .char c :: rest => (assemble? rest).map (c :: ·)
  | .unit n :: .unit m :: rest =>
    if isHigh n ∧ isLow m then
      (assemble? rest).map (Char.ofNat (0x10000 + (n - 0xd800) * 0x400 + (m - 0xdc00)) :: ·)
    else if isHigh n ∨ isLow n then none
    else (assemble? (.unit m :: rest)).map (Char.ofNat n :: ·)
  | .unit n :: rest =>
    if isHigh n ∨ isLow n then none else (assemble? rest).map (Char.ofNat n :: ·)

def literal? (cs : List Char) : Option (Literal × List Char) :=
  (pieces? (cs.length + 1) cs).map fun (ps, rest) => ((assemble? ps).map String.ofList, rest)

/-! ## Numbers -/

def value (cs : List Char) : Nat := cs.foldl (fun n c => 10 * n + (c.toNat - 48)) 0

def whole? (cs : List Char) : Option (List Char × List Char) :=
  match cs.span Char.isDigit with
  | ([], _) => none
  | ('0' :: _ :: _, _) => none
  | (ds, rest) => some (ds, rest)

def fraction? : List Char → Option (Option (List Char) × List Char)
  | '.' :: cs =>
    match cs.span Char.isDigit with
    | ([], _) => none
    | (ds, rest) => some (some ds, rest)
  | cs => some (none, cs)

def exponentDigits? (negative : Bool) (cs : List Char) : Option (Option Int × List Char) :=
  match cs.span Char.isDigit with
  | ([], _) => none
  | (ds, rest) => some (some (if negative then -(value ds : Int) else value ds), rest)

def exponent? : List Char → Option (Option Int × List Char)
  | e :: cs =>
    if e = 'e' ∨ e = 'E' then
      match cs with
      | '-' :: cs => exponentDigits? true cs
      | '+' :: cs => exponentDigits? false cs
      | cs => exponentDigits? false cs
    else some (none, e :: cs)
  | [] => some (none, [])

def unsigned? (negative : Bool) (cs : List Char) : Option (Numeral × List Char) := do
  let (ds, rest) ← whole? cs
  let (fraction, rest) ← fraction? rest
  let (exponent, rest) ← exponent? rest
  match fraction, exponent with
  | none, none => some (.whole negative (value ds), rest)
  | fraction, exponent =>
    let fs := fraction.getD []
    some (.real negative (value (ds ++ fs)) (exponent.getD 0 - fs.length), rest)

def numeral? : List Char → Option (Numeral × List Char)
  | '-' :: cs => unsigned? true cs
  | cs => unsigned? false cs

/-! ## Values -/

def word? : List Char → List Char → Option (List Char)
  | [], cs => some cs
  | _ :: _, [] => none
  | w :: ws, c :: cs => if w = c then word? ws cs else none

mutual

def value? : Nat → List Char → Option (Tree × List Char)
  | 0, _ => none
  | _ + 1, [] => none
  | fuel + 1, c :: cs =>
    if c = 'n' then (word? ['u', 'l', 'l'] cs).map fun rest => (.null, rest)
    else if c = 't' then (word? ['r', 'u', 'e'] cs).map fun rest => (.bool true, rest)
    else if c = 'f' then (word? ['a', 'l', 's', 'e'] cs).map fun rest => (.bool false, rest)
    else if c = '"' then (literal? cs).map fun (s, rest) => (.string s, rest)
    else if c = '[' then
      match skip cs with
      | ']' :: rest => some (.array [], rest)
      | rest => (items? fuel rest).map fun (ts, rest) => (.array ts, rest)
    else if c = '\x7b' then
      match skip cs with
      | '\x7d' :: rest => some (.object [], rest)
      | rest => (members? fuel rest).map fun (ms, rest) => (.object ms, rest)
    else (numeral? (c :: cs)).map fun (n, rest) => (.number n, rest)

def items? : Nat → List Char → Option (List Tree × List Char)
  | 0, _ => none
  | fuel + 1, cs =>
    match value? fuel cs with
    | none => none
    | some (t, rest) =>
      match skip rest with
      | ']' :: rest => some ([t], rest)
      | ',' :: rest => (items? fuel (skip rest)).map fun (ts, rest) => (t :: ts, rest)
      | _ => none

def members? : Nat → List Char → Option (List (Literal × Tree) × List Char)
  | 0, _ => none
  | fuel + 1, '"' :: cs =>
    match literal? cs with
    | none => none
    | some (name, rest) =>
      match skip rest with
      | ':' :: rest =>
        match value? fuel (skip rest) with
        | none => none
        | some (t, rest) =>
          match skip rest with
          | '\x7d' :: rest => some ([(name, t)], rest)
          | ',' :: rest => (members? fuel (skip rest)).map fun (ms, rest) => ((name, t) :: ms, rest)
          | _ => none
      | _ => none
  | _ + 1, _ => none

end

end Reader

def readPrefix? (cs : List Char) : Option (Tree × List Char) :=
  Reader.value? (cs.length + 1) (Reader.skip cs)

def isBlankRest (cs : List Char) : Bool := (Reader.skip cs).isEmpty

def read? (cs : List Char) : Option Tree :=
  match readPrefix? cs with
  | some (t, rest) => if isBlankRest rest then some t else none
  | none => none

end Dispatch.Json

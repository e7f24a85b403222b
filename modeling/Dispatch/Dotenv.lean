import Dispatch.Text.Alphanumeric
import Dispatch.Text.Blank

/-!
# Files of variables

Each line assigns a variable. A value may be quoted, may go on over several lines inside quotes, and
may name earlier variables. What is set already is never changed, and loading stops at the first
line that cannot be read.
-/

set_option autoImplicit false

namespace Dispatch

/-- Variables with their values; of two with one name the first counts. -/
abbrev Variables := List (String × String)

namespace Dotenv

/-! ## Lines -/

/-- Where in a logical line the end of a physical one falls. -/
inductive Place where
  | plain
  | space
  | escape
  | weak
  | weakEscape
  | strong
  | strongEscape
deriving DecidableEq

def opened (c : Char) : Place :=
  if c = '\\' then .escape else if c = '"' then .weak else if c = '\'' then .strong else .plain

def Place.next (c : Char) : Place → Place
  | .plain => if Text.isBlank c ∧ c ≠ '\n' ∧ c ≠ '\r' then .space else opened c
  | .space => opened c
  | .escape => .plain
  | .weak => if c = '\\' then .weakEscape else if c = '"' then .plain else .weak
  | .weakEscape => .weak
  | .strong => if c = '\\' then .strongEscape else if c = '\'' then .plain else .strong
  | .strongEscape => .strong

/-- The place after a physical line, or what stands in front of its comment. -/
def scan (kept : List Char) : Place → List Char → Place ⊕ List Char
  | place, [] => .inl place
  | place, c :: cs =>
    if place = .space ∧ c = '#' then .inr kept.reverse
    else scan (c :: kept) (place.next c) cs

def physicalLines : List Char → List (List Char)
  | [] => []
  | c :: cs =>
    if c = '\n' then ['\n'] :: physicalLines cs
    else
      match physicalLines cs, cs with
      | line :: rest, _ :: _ => (c :: line) :: rest
      | rest, _ => [c] :: rest

def dropLineEnd (cs : List Char) : List Char :=
  if cs.getLast? = some '\n' then Text.dropReturn cs.dropLast else cs

/-- The logical lines. One that is still open at the end of the text is none. -/
def logicalLines (read : List Char) (place : Place) : List (List Char) → List (List Char)
  | [] => []
  | line :: rest =>
    let whole := read ++ line
    if (Text.trimStart whole).head? = some '#' then [] :: logicalLines [] .plain rest
    else
      match scan [] place line with
      | .inr kept => (read ++ kept) :: logicalLines [] .plain rest
      | .inl .plain => dropLineEnd whole :: logicalLines [] .plain rest
      | .inl place => logicalLines whole place rest

/-! ## Assignments -/

/-- What a name stands for: a set variable, else an earlier assignment, else nothing. -/
def lookup (vars earlier : Variables) (name : List Char) : List Char :=
  let name := String.ofList name
  match vars.lookup name with
  | some value => value.toList
  | none => ((earlier.lookup name).getD "").toList

inductive Substitution where
  | none
  | bare
  | braced
deriving DecidableEq

structure ValueState where
  strong : Bool
  weak : Bool
  escaped : Bool
  ending : Bool
  mode : Substitution
  name : List Char
  output : List Char

def ValueState.start : ValueState :=
  { strong := false, weak := false, escaped := false, ending := false, mode := .none
    name := [], output := [] }

def ValueState.push (s : ValueState) (c : Char) : ValueState := { s with output := s.output ++ [c] }

def ValueState.substitute (vars earlier : Variables) (s : ValueState) : ValueState :=
  { s with output := s.output ++ lookup vars earlier s.name, name := [] }

def ValueState.inName (vars earlier : Variables) (s : ValueState) (c : Char) : ValueState :=
  if Text.isAlphanumeric c then { s with name := s.name ++ [c] }
  else if s.mode = .braced then
    if c = '\x7d' then { s.substitute vars earlier with mode := .none }
    else { s with name := s.name ++ [c] }
  else if c = '\x7b' ∧ s.name = [] then { s with mode := .braced }
  else
    let s := s.substitute vars earlier
    if c = '$' then s else { s.push c with mode := .none }

def unescape? (c : Char) : Option Char :=
  if c = '\\' ∨ c = '\'' ∨ c = '"' ∨ c = '$' ∨ c = ' ' then some c
  else if c = 'n' then some '\n'
  else none

def valueLoop? (vars earlier : Variables) (s : ValueState) : List Char → Option ValueState
  | [] => some s
  | c :: cs =>
    if s.ending then
      if c = ' ' ∨ c = '\t' then valueLoop? vars earlier s cs
      else if c = '#' then some s
      else none
    else if s.escaped then
      match unescape? c with
      | some d => valueLoop? vars earlier { s.push d with escaped := false } cs
      | none => none
    else if s.strong then
      valueLoop? vars earlier (if c = '\'' then { s with strong := false } else s.push c) cs
    else if s.mode ≠ .none then valueLoop? vars earlier (s.inName vars earlier c) cs
    else if c = '$' then valueLoop? vars earlier { s with mode := .bare } cs
    else if s.weak then
      valueLoop? vars earlier
        (if c = '"' then { s with weak := false }
          else if c = '\\' then { s with escaped := true }
          else s.push c) cs
    else
      valueLoop? vars earlier
        (if c = '\'' then { s with strong := true }
          else if c = '"' then { s with weak := true }
          else if c = '\\' then { s with escaped := true }
          else if c = ' ' ∨ c = '\t' then { s with ending := true }
          else s.push c) cs

def value? (vars earlier : Variables) (cs : List Char) : Option (List Char) := do
  let s ← valueLoop? vars earlier .start cs
  if s.mode = .braced ∨ s.strong ∨ s.weak then none else some (s.substitute vars earlier).output

def isKeyStart (c : Char) : Bool := c.isAlpha || c = '_'

def isKeyPart (c : Char) : Bool := c.isAlphanum || c = '_' || c = '.'

def key? (cs : List Char) : Option (List Char × List Char) :=
  match cs with
  | c :: _ => if isKeyStart c then some (cs.span isKeyPart) else none
  | [] => none

def afterEquals? (cs : List Char) : Option (List Char) :=
  match cs with
  | '=' :: rest => some (Text.trimStart rest)
  | _ => none

def assignment? (cs : List Char) : Option (List Char × List Char) := do
  let (key, rest) ← key? cs
  let rest := Text.trimStart rest
  match afterEquals? rest with
  | some body => some (key, body)
  | none =>
    if String.ofList key = "export" then
      let (key, rest) ← key? rest
      let body ← afterEquals? (Text.trimStart rest)
      some (key, body)
    else none

inductive Line where
  | empty
  | assign (key value : String)
  | unreadable

def Line.read (vars earlier : Variables) (line : List Char) : Line :=
  let cs := Text.trimStart (Text.trimEnd line)
  if cs = [] ∨ cs.head? = some '#' then .empty
  else
    match assignment? cs with
    | none => .unreadable
    | some (key, body) =>
      if body = [] ∨ body.head? = some '#' then .assign (String.ofList key) ""
      else
        match value? vars earlier body with
        | some value => .assign (String.ofList key) (String.ofList value)
        | none => .unreadable

def loadLines (vars earlier : Variables) : List (List Char) → Variables
  | [] => vars
  | line :: rest =>
    match Line.read vars earlier line with
    | .empty => loadLines vars earlier rest
    | .assign key value =>
      let vars := if (vars.lookup key).isSome then vars else vars ++ [(key, value)]
      loadLines vars ((key, value) :: earlier) rest
    | .unreadable => vars

/-- Adds the assignments of a text to the variables; a byte order mark in front is passed over. -/
def load (vars : Variables) (text : String) : Variables :=
  let cs := match text.toList with
    | '\uFEFF' :: rest => rest
    | cs => cs
  loadLines vars [] (logicalLines [] .plain (physicalLines cs))

end Dotenv

end Dispatch

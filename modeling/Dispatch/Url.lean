import Dispatch.Hex
import Dispatch.Text.Blank

/-!
# Which texts are addresses of servers

An address is a scheme, a colon and what the scheme calls for. The schemes of the web need a host:
a name, four numbers, or eight groups of digits in brackets, and then perhaps a port. Names beyond
ASCII are taken as they are.
-/

set_option autoImplicit false

namespace Dispatch.Url

/-- Controls and blanks at the ends do not count, and line ends and tabs nowhere. -/
def clean (cs : List Char) : List Char :=
  let edge := fun c : Char => decide (c.toNat ≤ 0x20)
  let inner := ((cs.dropWhile edge).reverse.dropWhile edge).reverse
  inner.filter fun c => c != '\t' && c != '\n' && c != '\r'

def isSchemeChar (c : Char) : Bool := c.isAlphanum || c = '+' || c = '-' || c = '.'

def scheme? (cs : List Char) : Option (String × List Char) :=
  match cs.span isSchemeChar with
  | (c :: name, ':' :: rest) =>
    if c.isAlpha then some (String.ofList ((c :: name).map Char.toLower), rest) else none
  | _ => none

def isWebScheme (scheme : String) : Bool := ["http", "https", "ws", "wss", "ftp"].contains scheme

/-! ## Hosts -/

def percentDecode : List Char → List Char
  | '%' :: a :: b :: rest =>
    match Hex.digitValue? a, Hex.digitValue? b with
    | some x, some y => Char.ofNat (16 * x + y) :: percentDecode rest
    | _, _ => '%' :: percentDecode (a :: b :: rest)
  | c :: rest => c :: percentDecode rest
  | [] => []

def isForbiddenInName (c : Char) : Bool :=
  c.toNat ≤ 0x20 || c.toNat = 0x7f || " #%/:<>?@[\\]^|".toList.contains c

def isForbiddenInOpaque (c : Char) : Bool :=
  c = '\x00' || " \t\n\r#/:<>?@[\\]^|".toList.contains c

def number? (cs : List Char) : Option Nat :=
  let ofRadix := fun (radix : Nat) (ds : List Char) =>
    ds.foldlM (fun n c => (Hex.digitValue? c).bind fun d =>
      if d < radix then some (n * radix + d) else none) 0
  match cs with
  | [] => none
  | '0' :: x :: rest => if x = 'x' ∨ x = 'X' then ofRadix 16 rest else ofRadix 8 (x :: rest)
  | cs => ofRadix 10 cs

/-- Whether the last part of a name looks like a number, so that the whole must be four of them. -/
def endsInNumber (parts : List (List Char)) : Bool :=
  let parts := if parts.length > 1 ∧ parts.getLast? = some [] then parts.dropLast else parts
  match parts.getLast? with
  | some last => !last.isEmpty && (last.all Char.isDigit || (number? last).isSome)
  | none => false

def isIpv4 (parts : List (List Char)) : Bool :=
  let parts := if parts.length > 1 ∧ parts.getLast? = some [] then parts.dropLast else parts
  match parts.mapM number? with
  | none => false
  | some ns =>
    ns.length ≤ 4 && ns.dropLast.all (· ≤ 255) &&
      (ns.getLast?.map fun n => decide (n < Nat.pow 256 (5 - ns.length))).getD false

def isGroup (cs : List Char) : Bool :=
  !cs.isEmpty && cs.length ≤ 4 && cs.all fun c => (Hex.digitValue? c).isSome

def groups? : List (List Char) → Option Nat
  | [] => some 0
  | [part] =>
    if isGroup part then some 1
    else
      let bytes := Text.splitAt '.' part
      let isByte := fun (b : List Char) =>
        !b.isEmpty && b.all Char.isDigit && (b.length = 1 || b.head? != some '0') &&
          ((number? b).getD 256 ≤ 255)
      if bytes.length = 4 ∧ bytes.all isByte then some 2 else none
  | part :: rest => if isGroup part then (groups? rest).map (· + 1) else none

def splitDouble : List Char → List Char × Option (List Char)
  | ':' :: ':' :: rest => ([], some rest)
  | c :: rest => let (a, b) := splitDouble rest; (c :: a, b)
  | [] => ([], none)

def groupParts (cs : List Char) : List (List Char) := if cs.isEmpty then [] else Text.splitAt ':' cs

def isIpv6 (cs : List Char) : Bool :=
  match splitDouble cs with
  | (whole, none) => groups? (groupParts whole) == some 8
  | (front, some back) =>
    match groups? (groupParts front), groups? (groupParts back) with
    | some m, some n => m + n ≤ 7 && (groupParts front).all isGroup
    | _, _ => false

def isBracketed (cs : List Char) : Bool :=
  cs.getLast? = some ']' && isIpv6 (cs.drop 1).dropLast

def isHost (cs : List Char) : Bool :=
  if cs.head? = some '[' then isBracketed cs
  else
    let name := percentDecode cs
    let parts := Text.splitAt '.' name
    !name.isEmpty && !name.any isForbiddenInName && (!endsInNumber parts || isIpv4 parts)

/-! ## The parts after the scheme -/

def upTo (stops : List Char) (cs : List Char) : List Char := cs.takeWhile fun c => !stops.contains c

def afterUser (cs : List Char) : List Char := (cs.reverse.takeWhile (· != '@')).reverse

def splitPort : Bool → List Char → List Char × Option (List Char)
  | _, [] => ([], none)
  | inside, c :: rest =>
    if c = ':' ∧ !inside then ([], some rest)
    else
      let (host, port) :=
        splitPort (if c = '[' then true else if c = ']' then false else inside) rest
      (c :: host, port)

def isPort : Option (List Char) → Bool
  | none => true
  | some ds =>
    ds.all Char.isDigit && ds.foldl (fun n c => 10 * n + (c.toNat - 48)) 0 < 65536

def isWebRest (rest : List Char) : Bool :=
  let body := rest.dropWhile fun c => c = '/' || c = '\\'
  let (host, port) := splitPort false (afterUser (upTo ['/', '\\', '?', '#'] body))
  isHost host && isPort port

def isOpaqueRest (rest : List Char) : Bool :=
  match rest with
  | '/' :: '/' :: body =>
    let authority := upTo ['/', '?', '#'] body
    let (host, port) := splitPort false (afterUser authority)
    if host.head? = some '[' then isBracketed host && isPort port
    else !host.any isForbiddenInOpaque && isPort port &&
      (!host.isEmpty || (authority.isEmpty && port.isNone))
  | _ => true

def isValid (text : String) : Bool :=
  match scheme? (clean text.toList) with
  | none => false
  | some (scheme, rest) =>
    if isWebScheme scheme then isWebRest rest
    else if scheme = "file" then true
    else isOpaqueRest rest

/-- Whether requests can be sent to an address. -/
def isRequestable (text : String) : Bool :=
  match scheme? (clean text.toList) with
  | none => false
  | some (scheme, rest) => (scheme = "http" || scheme = "https") && isWebRest rest

end Dispatch.Url

import Dispatch.Failure
import Dispatch.Json.Decode

/-!
# What a manager reports

A completion names the transaction it is about and carries a hash or the reason why there is none.
-/

set_option autoImplicit false

namespace Dispatch.Queue

inductive GivenUp where
  | notSent (text : String)
  | notFound (text : String)
  | failed (text : String)
deriving DecidableEq

structure Completion where
  id : String
  status : String
  hash : Option Hash
  error : Option GivenUp
deriving DecidableEq

namespace GivenUp

def tag : GivenUp → String
  | .notSent _ => "not-sent"
  | .notFound _ => "not-found"
  | .failed _ => "failed"

def text : GivenUp → String
  | .notSent t => t
  | .notFound t => t
  | .failed t => t

def ofTag? (tag text : String) : Option GivenUp :=
  if tag = "not-sent" then some (.notSent text)
  else if tag = "not-found" then some (.notFound text)
  else if tag = "failed" then some (.failed text)
  else none

def toJson (e : GivenUp) : Json :=
  .object [("type", .string e.tag), ("message", .string e.text)]

/-- A tag is a text, or the only name in an object that holds null. -/
def tag? : Json.Tree → Option String
  | .string s => s
  | .object [(name, .null)] => name
  | _ => none

def ofTree? (t : Json.Tree) : Option GivenUp := do
  match ← Json.fields? ["type", "message"] t with
  | [some tag, some message] => ofTag? (← tag? tag) (← Json.text? message)
  | _ => none

def failure (id : String) : GivenUp → QueueFailure
  | .notSent text => .notSent id text
  | .notFound text => .notFound id text
  | .failed text => .failed id text

end GivenUp

namespace Completion

def toJson (c : Completion) : Json :=
  .object
    [("id", .string c.id), ("status", .string c.status),
     ("tx_hash", match c.hash with | some h => .string (Hex.marked h.toList) | none => .null),
     ("error", match c.error with | some e => e.toJson | none => .null)]

def ofTree? (t : Json.Tree) : Option Completion := do
  match ← Json.fields? ["id", "status", "tx_hash", "error"] t with
  | [id, status, hash, error] =>
    some
      { id := ← Json.required? Json.text? id
        status := ← Json.required? Json.text? status
        hash := ← Json.optional? Json.hash? hash
        error := ← Json.optional? GivenUp.ofTree? error }
  | _ => none

def read? (cs : List Char) : Option Completion := (Json.read? cs).bind ofTree?

def result (c : Completion) : Except QueueFailure Hash :=
  match c.error, c.hash with
  | some e, _ => .error (e.failure c.id)
  | none, some h => .ok h
  | none, none => .error (.failed c.id ("completed with status " ++ c.status ++ " but no hash"))

end Completion

end Dispatch.Queue

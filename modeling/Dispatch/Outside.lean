import Dispatch.Node
import Dispatch.Url

/-!
# What a wallet asks of the outside

A wallet talks to the chain's node, to a device or an emulator of one, to servers over HTTP, and to
a broker of messages; it reads files and the date. All of it is put as questions, so that a run of a
wallet shows every effect it has.
-/

set_option autoImplicit false

namespace Dispatch

namespace Http

inductive Method where
  | get
  | post
deriving DecidableEq

structure Request where
  method : Method
  url : String
  headers : List (String × String)
  body : Bytes
  identity : Option String
deriving DecidableEq

/-- A server's answer; its body may be cut off. No charset is part of it: a body without a mark of
byte order is taken as UTF-8. -/
structure Reply where
  status : Nat
  body : Except String Bytes

end Http

inductive Delivery where
  | message (text : String)
  | closed
  | late
deriving DecidableEq

inductive OutsideQuestion where
  | node (q : NodeQuestion)
  | date
  | file (path : String)
  | takesIdentity (pem : String)
  | device (command : Bytes)
  | connect (address : String)
  | write (b : Bytes)
  | read (count : Nat)
  | http (request : Http.Request)
  | subscribe (channel : String)
  | publish (channel payload : String)
  | unsubscribe (channel : String)
  | receive (subscription : Nat) (timeout : Duration)
  | drop (subscription : Nat)
deriving DecidableEq

abbrev OutsideQuestion.Answer : OutsideQuestion → Type
  | .node q => q.Answer
  | .date => Nat
  | .file _ => Option String
  | .takesIdentity _ => Bool
  | .device _ => Except SigningFailure Bytes
  | .connect _ => Except String Unit
  | .write _ => Except String Unit
  | .read _ => Except String Bytes
  | .http _ => Except String Http.Reply
  | .subscribe _ => Except QueueFailure Nat
  | .publish _ _ => Except QueueFailure Nat
  | .unsubscribe _ => Except QueueFailure Unit
  | .receive _ _ => Delivery
  | .drop _ => Unit

def Outside : Interface := ⟨OutsideQuestion, OutsideQuestion.Answer⟩

def Program.toOutside {α : Type} (p : Program Node α) : Program Outside α :=
  p.rephrase (J := Outside) OutsideQuestion.node fun _ a => a

def Task.toOutside {α : Type} (p : Task Node α) : Task Outside α :=
  ExceptT.mk (Program.toOutside p.run)

namespace Outside

def date : Program Outside Nat := .ask OutsideQuestion.date .done

def file (path : String) : Program Outside (Option String) := .ask (.file path) .done

def takesIdentity (pem : String) : Program Outside Bool := .ask (.takesIdentity pem) .done

def device (command : Bytes) : Program Outside (Except SigningFailure Bytes) :=
  .ask (.device command) .done

def connect (address : String) : ExceptT String (Program Outside) Unit :=
  .ask (.connect address) .done

def write (b : Bytes) : ExceptT String (Program Outside) Unit := .ask (.write b) .done

def read (count : Nat) : ExceptT String (Program Outside) Bytes := .ask (.read count) .done

def http (request : Http.Request) : ExceptT String (Program Outside) Http.Reply :=
  if Url.isRequestable request.url then .ask (.http request) .done else throw "not an address"

def subscribe (channel : String) : Program Outside (Except QueueFailure Nat) :=
  .ask (.subscribe channel) .done

def publish (channel payload : String) : Program Outside (Except QueueFailure Nat) :=
  .ask (.publish channel payload) .done

def unsubscribe (channel : String) : Program Outside (Except QueueFailure Unit) :=
  .ask (.unsubscribe channel) .done

def receive (subscription : Nat) (timeout : Duration) : Program Outside Delivery :=
  .ask (.receive subscription timeout) .done

def drop (subscription : Nat) : Program Outside Unit := .ask (.drop subscription) .done

end Outside

end Dispatch

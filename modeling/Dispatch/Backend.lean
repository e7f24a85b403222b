import Dispatch.Envelope
import Dispatch.Outside
import Dispatch.Submission

/-!
# What every wallet can do

A wallet knows its account, signs drafts and digests, hands transactions on, and waits for them.
What it remembers between two actions is a state of its own, kept also when an action fails.
-/

set_option autoImplicit false

namespace Dispatch

/-- Something a wallet does: it may fail, and keeps its state over a failure. -/
abbrev Action (σ α : Type) := ExceptT Failure (StateT σ (Program Outside)) α

namespace Action

variable {σ τ α : Type}

def ofProgram (p : Program Outside α) : Action σ α := ExceptT.lift (StateT.lift p)

def ofTask (t : Task Outside α) : Action σ α := ExceptT.mk (StateT.lift t.run)

def ofNode (t : Task Node α) : Action σ α := ofTask t.toOutside

def onFirst (a : Action σ α) : Action (σ × τ) α :=
  ExceptT.mk fun (s, t) => (a.run s).bind fun (result, s) => .done (result, s, t)

end Action

def ofSigner {α : Type} : Except SigningFailure α → Except Failure α
  | .ok a => .ok a
  | .error failure => .error (.signing failure)

/-- An account with what can be done in its name. -/
structure Backend (σ : Type) where
  address : Address
  publicKey : PublicKey
  sign : Draft → Action σ SignedTransaction
  signHash : Hash → Action σ Signature
  send : Draft → Hints → Action σ Handle
  wait : Handle → WaitBounds → Action σ Receipt

namespace Backend

variable {σ α : Type}

def ensureSender (account : Address) (tx : Draft) : Except Failure Unit :=
  if tx.sender = account then .ok () else .error
    (.invalidArgument (.foreignSender tx.sender account))

def broadcast (sign : Draft → Action σ SignedTransaction) (tx : Draft) : Action σ Handle := do
  let signed ← sign tx
  return .hash (← Action.ofNode (Node.sendRaw signed.raw))

/-- Waits at the node; a ticket means nothing to it. -/
def waitAtNode (wallet : String) (handle : Handle) (b : WaitBounds) : Action σ Receipt :=
  match handle.hash? with
  | some h => Action.ofNode (waitForReceipt h b)
  | none => throw (.invalidArgument (.ticketWithoutQueue wallet handle))

def answer (b : Backend σ) : (q : DeskQuestion) → σ → Program Outside (q.Answer × σ)
  | .node q, s => (Program.request (I := Outside) (.node q)).bind fun a => .done (a, s)
  | .send tx hints, s => (b.send tx hints).run s
  | .wait handle bounds, s => (b.wait handle bounds).run s

/-- The signature by which an account proves to be a validator's node. -/
def nodeAddressProof (b : Backend σ) (validatorId : BitVec 256) : Action σ Bytes := do
  return (← b.signHash (ValidatorService.nodeAddressHash validatorId)).toBytes

end Backend

namespace Dispatcher

abbrev State (σ : Type) := Memory × σ

def through {σ α : Type} (b : Backend σ) (step : Step α) : Action (State σ) α :=
  ExceptT.mk fun (memory, s) =>
    (Program.interpret (J := Outside) b.answer (step.run memory) s).bind
      fun ((result, memory), s) =>
      .done (result, memory, s)

end Dispatcher

namespace PublicKey

/-- Reads a key from digits, with or without the byte that marks an uncompressed point. -/
def read (text : List Char) : Except SigningFailure PublicKey :=
  match Hex.read? (Text.trim text) with
  | none => .error (.malformed (.publicKey "not hexadecimal"))
  | some b =>
    let body := if b.length = 65 ∧ b.head? = some 4 then b.drop 1 else b
    match FixedBytes.ofBytes? body with
    | some key => .ok key
    | none => .error (.malformed (.publicKeySize b.length))

end PublicKey

end Dispatch

import Dispatch.Backend
import Dispatch.Http.Status
import Dispatch.Pem.Key
import Dispatch.Setup
import Dispatch.Text.Lossy

/-!
# A wallet at a signing service

The service answers over HTTP with data or an error. A transaction that it signed is
checked against the draft before it is handed on.
-/

set_option autoImplicit false

namespace Dispatch

namespace Remote

structure Access where
  token : String
  key : Pem.RequestKey

def Access.ofText (token pem : String) : Except SetupFailure Access :=
  match Pem.RequestKey.ofText? pem.toList with
  | some key => .ok ⟨token, key⟩
  | none => .error .requestKey

def Access.bearer (a : Access) : String × String := ("Authorization", "Bearer " ++ a.token)

/-- What is signed for a request: its path, the time in milliseconds, and its body. -/
def Access.signedText (path : String) (millis : Nat) (body : String) : String :=
  path ++ "|" ++ toString millis ++ "|" ++ body

def Access.headers (a : Access) (path : String) (millis : Nat) (body : String) :
    Except SigningFailure (List (String × String)) :=
  match a.key.sign? (Bytes.ofText (signedText path millis body)) with
  | some signature =>
    .ok [a.bearer, ("X-Timestamp", toString millis), ("X-Signature", Base64.encode signature)]
  | none => .error (.local_ "signature error")

/-! ## Answers -/

structure Answer (α : Type) where
  data : Option α
  error : Option String

/-- Reads an answer; written as an array it starts with the data. -/
def answer? {α : Type} (read : Json.Tree → Option α) (t : Json.Tree) : Option (Answer α) := do
  match t, ← Json.fields? ["data", "error"] t with
  | .array [], _ => none
  | _, [data, error] => some ⟨← Json.optional? read data, ← Json.optional? Json.text? error⟩
  | _, _ => none

/-- What a reply amounts to. An error in the answer wins over the status. -/
def unpack {α : Type} (read : Json.Tree → Option α) (reply : Http.Reply) :
    Except SigningFailure α :=
  match reply.body with
  | .error why => .error (.malformed (.unreadable why))
  | .ok bytes =>
    let body := Text.unmarked bytes
    match (Json.read? body).bind (answer? read) with
    | none =>
      if Http.isSuccess reply.status then .error
        (.malformed (.body "not an answer" (String.ofList body)))
      else .error (.rejected (Http.statusText reply.status ++ " - " ++ String.ofList body))
    | some ⟨_, some error⟩ => .error (.rejected error)
    | some ⟨some data, none⟩ =>
      if Http.isSuccess reply.status then .ok data
      else .error (.rejected (Http.statusText reply.status ++ " without data"))
    | some ⟨none, none⟩ => .error (.rejected (Http.statusText reply.status ++ " without data"))

def fieldOf? {α : Type} (name : String) (read : Json.Tree → Option α) (t : Json.Tree) :
    Option α := do
  match ← Json.fields? [name] t with
  | [value] => Json.required? read value
  | _ => none

/-! ## Requests -/

structure Service where
  url : String
  access : Option Access

def Service.trimUrl (url : String) : String :=
  String.ofList (url.toList.reverse.dropWhile (· = '/')).reverse

def Service.exchange {α : Type} (s : Service) (read : Json.Tree → Option α)
    (request : Http.Request) :
    Task Outside α := do
  match ← ExceptT.lift (Outside.http request).run with
  | .error why => throw (.signing (.unreachable s.url why))
  | .ok reply => ExceptT.mk (pure (ofSigner (unpack read reply)))

def Service.get {α : Type} (s : Service) (path : String) (read : Json.Tree → Option α) :
    Task Outside α :=
  s.exchange read
    { method := .get, url := s.url ++ path, body := [], identity := none
      headers := match s.access with | some access => [access.bearer] | none => [] }

def Service.postHeaders (s : Service) (path body : String) :
    Task Outside (List (String × String)) := do
  let type := ("Content-Type", "application/json")
  match s.access with
  | none => return [type]
  | some access =>
    let millis := (← ExceptT.lift Outside.date) / 1000000
    match access.headers path millis body with
    | .ok headers => return type :: headers
    | .error failure => throw (.signing failure)

def Service.post {α : Type} (s : Service) (path : String) (body : Json)
    (read : Json.Tree → Option α) :
    Task Outside α := do
  let text := body.render
  let headers ← s.postHeaders path text
  s.exchange read
    { method := .post, url := s.url ++ path, headers, body := Bytes.ofText text, identity := none }

def transactionBody (tx : Draft) (hints : Option Hints) : Json :=
  let member {α : Type} (name : String) (f : α → Json) (a : Option α) : List (String × Json) :=
    match a with
    | some a => [(name, f a)]
    | none => []
  .object ([("transaction_dict", .string tx.toJson.render)]
    ++ member "multiplier" Json.float (hints.bind Hints.multiplier)
    ++ member "priority" (fun p : UInt32 => .integer p.toNat) (hints.bind Hints.priority)
    ++ member "method" Json.string (hints.bind Hints.operation))

def hashBody (h : Hash) : Json := .object [("unsigned_hash", .string (Hex.marked h.toList))]

/-- Takes signed bytes for a draft only if they are the draft, signed by the account. -/
def checkSigned (account : Address) (tx : Draft) (raw : Bytes) :
    Except Malformation SignedTransaction :=
  match Envelope.decode? raw with
  | none => .error (.rawTransaction "not a transaction")
  | some (e, _) =>
    match e.signer? with
    | none => .error (.signature "no signer")
    | some signer =>
      if signer ≠ account then .error (.foreignSigner signer account)
      else
        match tx.mismatch? e with
        | some difference => .error (.mismatch difference)
        | none => .ok { raw, hash := e.hash, signature := e.signature }

end Remote

structure RemoteWallet where
  service : Remote.Service
  address : Address
  publicKey : PublicKey

namespace RemoteWallet

open Remote

def connect (url : String) (access : Option Access) :
    ExceptT SetupFailure (Program Outside) RemoteWallet := do
  let service : Service := ⟨Service.trimUrl url, access⟩
  let address ← ExceptT.adapt (SetupFailure.errand .signerAddress)
    (service.get "/address" (fieldOf? "address" Json.address?))
  let text ← ExceptT.adapt (SetupFailure.errand .signerPublicKey)
    (service.get "/public-key" (fieldOf? "public_key" Json.text?))
  match PublicKey.read text.toList with
  | .ok publicKey => return { service, address, publicKey }
  | .error failure => throw (.failed (.signing failure))

def sign (w : RemoteWallet) (tx : Draft) : Task Outside SignedTransaction := do
  match Backend.ensureSender w.address tx with
  | .error failure => throw failure
  | .ok () =>
    let raw ← w.service.post "/sign" (transactionBody tx none)
      (fieldOf? "rawTransaction" Json.bytes?)
    match checkSigned w.address tx raw with
    | .ok signed => return signed
    | .error fault => throw (.signing (.malformed fault))

def signHash (w : RemoteWallet) (h : Hash) : Task Outside Signature := do
  let bytes ← w.service.post "/sign-hash" (hashBody h) (fieldOf? "signature" Json.bytes?)
  match Signature.ofBytes? bytes with
  | some signature => return signature
  | none => throw (.signing (.malformed (.signature "not a signature")))

def send (w : RemoteWallet) (tx : Draft) (hints : Hints) : Task Outside Handle := do
  match Backend.ensureSender w.address tx with
  | .error failure => throw failure
  | .ok () =>
    return .hash (← w.service.post "/sign-and-send" (transactionBody tx (some hints))
      (fieldOf? "transaction_hash" Json.hash?))

def backend {σ : Type} (w : RemoteWallet) : Backend σ where
  address := w.address
  publicKey := w.publicKey
  sign tx := Action.ofTask (w.sign tx)
  signHash h := Action.ofTask (w.signHash h)
  send tx hints := Action.ofTask (w.send tx hints)
  wait := Backend.waitAtNode "RemoteWallet"

end RemoteWallet

end Dispatch

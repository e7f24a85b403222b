import Dispatch.Backend
import Dispatch.Json.Bytes
import Dispatch.Json.Decode
import Dispatch.Pem.Armor
import Dispatch.Setup

/-!
# A wallet in an enclave

The enclave keeps keys under names and signs digests by them. Requests are numbered. An answer
carries a status besides its result, and a signature counts only if it is the account's.
-/

set_option autoImplicit false

namespace Dispatch

namespace Enclave

abbrev Counter := Nat

def firstRequest : Counter := 1

structure Server where
  url : String
  identity : Option String

/-! ## Answers -/

structure Answer where
  result : Option Json
  error : Option Json

/-- A value inside of an answer, one level down. -/
def inner? (t : Json.Tree) : Option Json := Json.ofTree? (Json.depthLimit - 1) t

def answer? (t : Json.Tree) : Option Answer := do
  match ← Json.fields? ["result", "error"] t with
  | [result, error] => some ⟨← Json.optional? inner? result, ← Json.optional? inner? error⟩
  | _ => none

def status? (t : Json.Tree) : Option (Int × String) := do
  match ← Json.fields? ["status", "errorMessage"] t with
  | [status, text] =>
    some (← Json.required? Json.signed64? status, ← Json.defaulted? "" Json.text? text)
  | _ => none

def unpack {α : Type} (method : String) (read : Json.Tree → Option α) (body : Bytes) :
    Except SigningFailure α :=
  let malformed := SigningFailure.malformed (.reply method "not an answer")
  match (Json.readBytes? body).bind answer? with
  | none => .error malformed
  | some ⟨_, some error⟩ => .error (.enclave (.error method error.render))
  | some ⟨none, none⟩ => .error (.malformed (.emptyResult method))
  | some ⟨some result, none⟩ =>
    match status? result.toTree with
    | none => .error malformed
    | some (code, text) =>
      if code ≠ 0 then .error (.enclave (.status method code text))
      else
        match read result.toTree with
        | some a => .ok a
        | none => .error malformed

def keyName? (t : Json.Tree) : Option String := do
  match ← Json.fields? ["keyName"] t with
  | [name] => Json.required? Json.text? name
  | _ => none

def publicKey? (t : Json.Tree) : Option String := do
  match ← Json.fields? ["publicKey"] t with
  | [key] => Json.required? Json.text? key
  | _ => none

structure RawSignature where
  v : UInt8
  r : String
  s : String

def rawSignature? (t : Json.Tree) : Option RawSignature := do
  match ← Json.fields? ["signature_v", "signature_r", "signature_s"] t with
  | [v, r, s] =>
    let v ← Json.required? (fun t => (Json.natBelow? 256 t).map UInt8.ofNat) v
    some ⟨v, ← Json.required? Json.text? r, ← Json.required? Json.text? s⟩
  | _ => none

def readScalar (text : String) : Except Malformation (BitVec 256) :=
  let digits := Text.trim text.toList
  match Json.scalar? 16 ((Text.strip? ['0', 'x'] digits).getD digits) with
  | some n => .ok n
  | none => .error (.scalar digits "not a number")

def readParity (v : UInt8) : Except Malformation Bool :=
  if v = 0 ∨ v = 27 then .ok false
  else if v = 1 ∨ v = 28 then .ok true
  else .error (.recoveryByte v)

def readSignature (raw : RawSignature) : Except Malformation Signature := do
  let r ← readScalar raw.r
  let s ← readScalar raw.s
  let odd ← readParity raw.v
  return ⟨r, s, odd⟩

/-- Takes a signature of a digest only if it is the account's. -/
def checkSignature (account : Address) (digest : Hash) (signature : Signature) :
    Except SigningFailure Signature :=
  match signature.recover? digest with
  | none => .error (.malformed (.signature "no signer"))
  | some signer =>
    if signer ≠ account then .error (.enclave (.foreignSigner signer account)) else .ok signature

/-! ## Requests -/

def requestBody (id : Counter) (method : String) (params : List (String × Json)) : Json :=
  .object [("id", .integer id), ("jsonrpc", .string "2.0"), ("method", .string method),
    ("params", .object params)]

def Server.call {α : Type} (server : Server) (method : String) (params : List (String × Json))
    (read : Json.Tree → Option α) : Action Counter α := do
  let id ← modifyGet fun n => (n, n + 1)
  let request : Http.Request :=
    { method := .post, url := server.url, headers := [("Content-Type", "application/json")]
      body := Bytes.ofText (requestBody id method params).render, identity := server.identity }
  match ← Action.ofProgram (Outside.http request).run with
  | .error why => throw (.signing (.unreachable server.url why))
  | .ok reply =>
    match reply.body with
    | .error why => throw (.signing (.malformed (.reply method why)))
    | .ok body => ExceptT.mk (pure (ofSigner (unpack method read body)))

end Enclave

structure EnclaveWallet where
  server : Enclave.Server
  keyName : String
  address : Address
  publicKey : PublicKey

namespace EnclaveWallet

open Enclave

structure Credentials where
  certificate : String
  key : String

def Credentials.load (certificatePath keyPath : String) :
    ExceptT SetupFailure (Program Outside) Credentials := do
  match ← ExceptT.lift (Outside.file certificatePath) with
  | none => throw (.unreadableFile certificatePath)
  | some certificate =>
    match ← ExceptT.lift (Outside.file keyPath) with
    | none => throw (.unreadableFile keyPath)
    | some key => return ⟨certificate, key⟩

def Credentials.identity (c : Credentials) : List Char :=
  Text.trim c.key.toList ++ ['\n'] ++ Text.trim c.certificate.toList

/-- The identity shown to the server, once its form and the transport layer allow it. -/
def checkIdentity : Option Credentials → ExceptT SetupFailure (Program Outside) (Option String)
  | none => return none
  | some credentials => do
    let pem := credentials.identity
    if Pem.isIdentity pem = false then throw .clientCertificate
    if ← ExceptT.lift
      (Outside.takesIdentity (String.ofList pem)) then return some (String.ofList pem)
    else throw .httpClient

def resolveName (server : Server) : Option String → Action Counter String
  | some name => return name
  | none => server.call "generateECDSAKey" [] keyName?

def fetchKey (server : Server) (name : String) : Action Counter String :=
  server.call "getPublicECDSAKey" [("keyName", .string name)] publicKey?

def connect (url : String) (name : Option String) (credentials : Option Credentials) :
    ExceptT SetupFailure (StateT Counter (Program Outside)) EnclaveWallet := do
  let identity ← ExceptT.mk (StateT.lift (checkIdentity credentials).run)
  let server : Server := ⟨url, identity⟩
  let keyName ← ExceptT.adapt (SetupFailure.errand .enclaveKey) (resolveName server name)
  let text ← ExceptT.adapt (SetupFailure.errand .enclavePublicKey) (fetchKey server keyName)
  match PublicKey.read text.toList with
  | .ok publicKey => return { server, keyName, address := publicKey.address, publicKey }
  | .error failure => throw (.failed (.signing failure))

def signDigest (w : EnclaveWallet) (digest : Hash) : Action Counter Signature := do
  let raw ← w.server.call "ecdsaSignMessageHash"
    [("base", .integer 16), ("keyName", .string w.keyName),
      ("messageHash", .string (Hex.bare digest.toList))] rawSignature?
  match readSignature raw with
  | .error fault => throw (.signing (.malformed fault))
  | .ok signature => ExceptT.mk (pure (ofSigner (checkSignature w.address digest signature)))

def sign (w : EnclaveWallet) (tx : Draft) : Action Counter SignedTransaction := do
  match Backend.ensureSender w.address tx with
  | .error failure => throw failure
  | .ok () => return tx.signed (← w.signDigest tx.signingHash)

def backend (w : EnclaveWallet) : Backend Counter where
  address := w.address
  publicKey := w.publicKey
  sign := w.sign
  signHash h := w.signDigest (personalDigest h)
  send tx _ := Backend.broadcast w.sign tx
  wait := Backend.waitAtNode "SgxWallet"

end EnclaveWallet

end Dispatch

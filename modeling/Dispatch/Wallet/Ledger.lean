import Dispatch.Backend
import Dispatch.Setup
import Dispatch.Wallet.DerivationPath

/-!
# A wallet on a hardware device

The device takes commands of at most 255 data bytes. A draft is sent in as many as it needs, and the
answer to the last one is the signature. An emulator of the device is reached over a stream, in
which each message stands behind its length.
-/

set_option autoImplicit false

namespace Dispatch

namespace Ledger

/-! ## Commands and answers -/

def chunkSize : Nat := 255

def command (instruction parameter : UInt8) (data : Bytes) : Bytes :=
  [0xe0, instruction, parameter, 0x00, UInt8.ofNat data.length] ++ data

def addressCommand (pathPrefix : Bytes) : Bytes := command 0x02 0x00 pathPrefix

def signCommands (pathPrefix payload : Bytes) : List Bytes :=
  match Bytes.chunks chunkSize (pathPrefix ++ payload) with
  | [] => []
  | first :: more => command 0x04 0x00 first :: more.map (command 0x04 0x80)

def checkStatus (word : UInt16) : Except DeviceFault Unit :=
  if word = 0x9000 then .ok ()
  else if word = 0x6985 then .error .denied
  else if word = 0x6a80 then .error .blindSigning
  else if word = 0x6d00 ∨ word = 0x6e00 then .error .appClosed
  else .error (.status word)

def counted? : Bytes → Option (Bytes × Bytes)
  | [] => none
  | n :: rest => if rest.length < n.toNat then none else some (rest.take n.toNat, rest.drop n.toNat)

def splitAddressResponse? (data : Bytes) : Option (Bytes × Bytes) := do
  let (key, rest) ← counted? data
  let (digits, _) ← counted? rest
  some (key, digits)

def readPoint (b : Bytes) : Except Malformation PublicKey :=
  match b with
  | 0x04 :: body =>
    match FixedBytes.ofBytes? body with
    | some key => .ok key
    | none => .error (.publicKeyLength b.length)
  | _ => .error (.publicKeyLength b.length)

def readAddress (digits : Bytes) : Except Malformation Address :=
  match digits.toText? with
  | none => .error (.addressText "not text")
  | some text =>
    match (Hex.readBare? text.toList).bind FixedBytes.ofBytes? with
    | some address => .ok address
    | none => .error (.address text.toList "not an address")

def readAddressResponse (data : Bytes) : Except Malformation (Address × PublicKey) := do
  match splitAddressResponse? data with
  | none => throw .shortAddressResponse
  | some (point, digits) =>
    let key ← readPoint point
    let address ← readAddress digits
    return (address, key)

/-- What a recovery byte that carries a chain is counted from: a word of 64 bits, cut to a byte. -/
def chainOffset (chainId : UInt64) : UInt8 := ((chainId * 2 + 35) % 256).toUInt8

/-- The parity of a recovery byte, if it is one. In the plain form of a transaction the byte carries
the chain, else it may be counted from 27. -/
def parityByte (tx : Draft) (v : UInt8) : UInt8 :=
  match tx.fees with
  | .legacy _ => v - chainOffset tx.chainId
  | .dynamic _ _ => if 27 ≤ v then v - 27 else v

def readSignature (tx : Draft) (data : Bytes) : Except Malformation Signature :=
  match data with
  | v :: body =>
    if body.length < 64 then .error (.signatureLength data.length)
    else if 1 < parityByte tx v then .error (.recoveryByte v)
    else
      .ok ⟨.ofNat 256 (Bytes.toNat (body.take 32)),
        .ofNat 256 (Bytes.toNat ((body.drop 32).take 32)),
        parityByte tx v == 1⟩
  | [] => .error (.signatureLength 0)

/-! ## Links -/

inductive Link where
  | direct
  | emulator
deriving DecidableEq

/-- One command over the emulator's stream: each way a length of four bytes stands in front, and
behind the answer a status word that the length does not count. -/
def exchangeFramed (cmd : Bytes) : ExceptT String (Program Outside) (Bytes × UInt16) := do
  if UInt32.size ≤ cmd.length then throw "command too long"
  Outside.write (Bytes.ofNat 4 cmd.length ++ cmd)
  let length ← Outside.read 4
  let data ← Outside.read length.toNat
  let word ← Outside.read 2
  return (data, UInt16.ofNat word.toNat)

def deviceFailure (fault : DeviceFault) : Failure := .signing (.device fault)

def exchange (link : Link) (cmd : Bytes) : Task Outside Bytes := do
  match link with
  | .direct => ExceptT.mk do return ofSigner (← Outside.device cmd)
  | .emulator =>
    match ← ExceptT.lift (exchangeFramed cmd).run with
    | .error why => throw (deviceFailure (.transport why))
    | .ok (data, word) =>
      match checkStatus word with
      | .error fault => throw (deviceFailure fault)
      | .ok () => return data

/-- Sends commands one after another; the answer to the last one counts. -/
def exchangeAll (link : Link) : List Bytes → Bytes → Task Outside Bytes
  | [], last => return last
  | cmd :: rest, _ => do exchangeAll link rest (← exchange link cmd)

end Ledger

structure LedgerWallet where
  link : Ledger.Link
  pathPrefix : Bytes
  address : Address
  publicKey : PublicKey

namespace LedgerWallet

def connect (link : Ledger.Link) (index : UInt32) (legacy : Bool) : Task Outside LedgerWallet := do
  match DerivationPath.encode (DerivationPath.account index legacy) with
  | .error fault => throw (Ledger.deviceFailure fault)
  | .ok pathPrefix =>
    match Ledger.readAddressResponse
      (← Ledger.exchange link (Ledger.addressCommand pathPrefix)) with
    | .error fault => throw (.signing (.malformed fault))
    | .ok (address, publicKey) => return { link, pathPrefix, address, publicKey }

def connectEmulator (emulator : String) (index : UInt32) (legacy : Bool) :
    Task Outside LedgerWallet := do
  match ← ExceptT.lift (Outside.connect emulator).run with
  | .error why => throw (Ledger.deviceFailure (.unreachable why))
  | .ok () => connect .emulator index legacy

def sign (w : LedgerWallet) (tx : Draft) : Task Outside SignedTransaction := do
  match Backend.ensureSender w.address tx with
  | .error failure => throw failure
  | .ok () =>
    let response ← Ledger.exchangeAll w.link (Ledger.signCommands w.pathPrefix tx.signingBytes) []
    match Ledger.readSignature tx response with
    | .error fault => throw (.signing (.malformed fault))
    | .ok signature => return tx.signed signature

def backend {σ : Type} (w : LedgerWallet) : Backend σ where
  address := w.address
  publicKey := w.publicKey
  sign tx := Action.ofTask (w.sign tx)
  signHash _ := throw (.unsupported "LedgerWallet" "sign_hash")
  send tx _ := Backend.broadcast (fun tx => Action.ofTask (w.sign tx)) tx
  wait := Backend.waitAtNode "LedgerWallet"

end LedgerWallet

end Dispatch

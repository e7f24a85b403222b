import Dispatch.Backend
import Dispatch.Setup

/-!
# A wallet with its key in memory
-/

set_option autoImplicit false

namespace Dispatch

structure LocalWallet where
  key : SoftwareKey

namespace LocalWallet

def address (w : LocalWallet) : Address := w.key.address

def ofText (text : List Char) : Except SetupFailure LocalWallet :=
  let trimmed := Text.trim text
  let digits := (Text.strip? ['0', 'x'] trimmed).getD trimmed
  match (Hex.readFixed? 32 digits).bind fun b => SoftwareKey.ofScalar? b.toNat with
  | some key => .ok ⟨key⟩
  | none => .error .privateKey

def signDigest (w : LocalWallet) (digest : Hash) : Except Failure Signature :=
  match w.key.signDigest digest with
  | some signature => .ok signature
  | none => .error (.signing (.local_ "signature error"))

def sign (w : LocalWallet) (tx : Draft) : Except Failure SignedTransaction := do
  Backend.ensureSender w.address tx
  return tx.signed (← w.signDigest tx.signingHash)

def backend {σ : Type} (w : LocalWallet) : Backend σ where
  address := w.address
  publicKey := w.key.publicKey
  sign tx := ExceptT.mk (pure (w.sign tx))
  signHash h := ExceptT.mk (pure (w.signDigest (personalDigest h)))
  send tx _ := Backend.broadcast (fun tx => ExceptT.mk (pure (w.sign tx))) tx
  wait := Backend.waitAtNode "LocalWallet"

end LocalWallet

end Dispatch

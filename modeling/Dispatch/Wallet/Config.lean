import Dispatch.Settings
import Dispatch.Wallet.Enclave
import Dispatch.Wallet.Ledger
import Dispatch.Wallet.Local
import Dispatch.Wallet.Remote

/-!
# Which wallet to open

A configuration names one kind of wallet and what that kind needs. It is read from a JSON record
that is tagged with the kind, or from variables.
-/

set_option autoImplicit false

namespace Dispatch

inductive WalletConfig where
  | local_ (privateKey : String)
  | ledger (emulator : String) (index : UInt32) (legacy : Bool)
  | remote (url : String) (accessToken requestKey : Option String)
  | enclave (url : String) (keyName certificatePath keyPath : Option String)

namespace WalletConfig

def display : WalletConfig → String
  | .local_ _ => "WalletConfig::Local"
  | .ledger _ _ _ => "WalletConfig::Ledger"
  | .remote _ _ _ => "WalletConfig::Remote"
  | .enclave _ _ _ _ => "WalletConfig::Sgx"

/-! ## From JSON -/

def ofFields? (tag : String) (t : Json.Tree) : Option WalletConfig := do
  if tag = "local" then
    match ← Json.fields? ["private_key"] t with
    | [key] => some (.local_ (← Json.required? Json.text? key))
    | _ => none
  else if tag = "ledger" then
    match ← Json.fields? ["emulator", "index", "legacy"] t with
    | [emulator, index, legacy] =>
      some (.ledger (← Json.required? Json.text? emulator) (← Json.defaulted? 0 Json.word32? index)
        (← Json.defaulted? false Json.flag? legacy))
    | _ => none
  else if tag = "remote" then
    match ← Json.fields? ["url", "access_token", "request_key_pem"] t with
    | [url, token, key] =>
      some (.remote (← Json.required? Json.text? url) (← Json.optional? Json.text? token)
        (← Json.optional? Json.text? key))
    | _ => none
  else if tag = "sgx" then
    match ← Json.fields? ["url", "key_name", "cert_path", "key_path"] t with
    | [url, name, certificate, key] =>
      some (.enclave (← Json.required? Json.text? url) (← Json.optional? Json.text? name)
        (← Json.optional? Json.text? certificate) (← Json.optional? Json.text? key))
    | _ => none
  else none

def ofTree? : Json.Tree → Option WalletConfig
  | .object members => do
    let tag ← Json.required? Json.text? (← Json.single? "type" members)
    ofFields? tag (.object members)
  | .array (tag :: fields) => do ofFields? (← Json.text? tag) (.array fields)
  | _ => none

/-- Reads a text. All of it has to be in order, also members that no kind has. -/
def read? (cs : List Char) : Option WalletConfig := do
  let t ← Json.read? cs
  let _ ← Json.ofTree? Json.depthLimit t
  ofTree? t

/-! ## From variables -/

def isTrueFlag (value : String) : Bool :=
  ["1", "true"].contains (String.ofList (Text.trim value.toList))

def ledgerOfVariables (vars : Variables) (emulator : String) : Except SetupFailure WalletConfig :=
  let legacy := match vars.filled? "LEDGER_LEGACY" with
    | some value => isTrueFlag value
    | none => false
  match vars.filled? "LEDGER_INDEX" with
  | none => .ok (.ledger emulator 0 legacy)
  | some value =>
    match Text.readNat? UInt32.size value.toList with
    | some index => .ok (.ledger emulator (.ofNat index) legacy)
    | none => .error (.notInteger "LEDGER_INDEX")

/-- The first kind whose variable is filled, in a fixed order. -/
def ofVariables (vars : Variables) : Except SetupFailure WalletConfig :=
  match vars.filled? "SGX_WALLET_URL", vars.filled? "SIGNER_URL", vars.filled? "LEDGER_EMULATOR",
      vars.filled? "ETH_PRIVATE_KEY" with
  | some url, _, _, _ =>
    .ok (.enclave url (vars.filled? "SGX_KEY_NAME") (vars.filled? "SGX_CERT_PATH")
      (vars.filled? "SGX_KEY_PATH"))
  | none, some url, _, _ =>
    .ok (.remote url (vars.filled? "SIGNER_ACCESS_TOKEN") (vars.filled? "SIGNER_PRIVATE_KEY"))
  | none, none, some emulator, _ => ledgerOfVariables vars emulator
  | none, none, none, some key => .ok (.local_ key)
  | none, none, none, none => .error .noWallet

end WalletConfig

/-! ## Opening -/

inductive Wallet where
  | local_ (w : LocalWallet)
  | ledger (w : LedgerWallet)
  | remote (w : RemoteWallet)
  | enclave (w : EnclaveWallet)

namespace Wallet

def kind : Wallet → String
  | .local_ _ => "local"
  | .ledger _ => "ledger"
  | .remote _ => "remote"
  | .enclave _ => "sgx"

def keyName? : Wallet → Option String
  | .enclave w => some w.keyName
  | _ => none

def backend : Wallet → Backend Enclave.Counter
  | .local_ w => w.backend
  | .ledger w => w.backend
  | .remote w => w.backend
  | .enclave w => w.backend

end Wallet

namespace WalletConfig

abbrev Opening (α : Type) := ExceptT SetupFailure (StateT Enclave.Counter (Program Outside)) α

def Opening.ofProgram {α : Type} (p : ExceptT SetupFailure (Program Outside) α) : Opening α :=
  ExceptT.mk (StateT.lift p.run)

/-- Both parts of the access to a signing service, or neither. -/
def access : Option String → Option String → Except SetupFailure (Option Remote.Access)
  | some token, some pem => (Remote.Access.ofText token pem).map some
  | none, none => .ok none
  | _, _ => .error .halfSignerAccess

def credentials : Option String → Option String →
    ExceptT SetupFailure (Program Outside) (Option EnclaveWallet.Credentials)
  | some certificate, some key => some <$> EnclaveWallet.Credentials.load certificate key
  | none, none => return none
  | _, _ => throw .halfEnclaveAccess

def connect : WalletConfig → Opening Wallet
  | .local_ key => ExceptT.mk (pure ((LocalWallet.ofText key.toList).map Wallet.local_))
  | .ledger emulator index legacy =>
    Opening.ofProgram (ExceptT.adapt SetupFailure.failed
      (Wallet.ledger <$> LedgerWallet.connectEmulator emulator index legacy))
  | .remote url token key => do
    let access ← ExceptT.mk (pure (access token key))
    Opening.ofProgram (Wallet.remote <$> RemoteWallet.connect url access)
  | .enclave url name certificate key => do
    let credentials ← Opening.ofProgram (credentials certificate key)
    Wallet.enclave <$> EnclaveWallet.connect url name credentials

end WalletConfig

end Dispatch

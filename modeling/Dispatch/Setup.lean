import Dispatch.Failure

/-!
# Why something could not be set up
-/

set_option autoImplicit false

namespace Dispatch

inductive Errand where
  | signerAddress
  | signerPublicKey
  | enclaveKey
  | enclavePublicKey
deriving DecidableEq

def Errand.text : Errand → String
  | .signerAddress => "Failed to fetch signer address"
  | .signerPublicKey => "Failed to fetch signer public key"
  | .enclaveKey => "Failed to generate enclave key"
  | .enclavePublicKey => "Failed to fetch enclave public key"

inductive SetupFailure where
  | unset (name : String)
  | notInteger (name : String)
  | noWallet
  | privateKey
  | requestKey
  | halfSignerAccess
  | halfEnclaveAccess
  | unreadableFile (path : String)
  | clientCertificate
  | httpClient
  | rpcUrl
  | errand (goal : Errand) (failure : Failure)
  | failed (failure : Failure)
deriving DecidableEq

namespace SetupFailure

def cause? : SetupFailure → Option Failure
  | .errand _ failure => some failure
  | .failed failure => some failure
  | _ => none

def message : SetupFailure → Message
  | .unset name => own (name ++ " environment variable must be set")
  | .notInteger name => own (name ++ " must be an integer")
  | .noWallet =>
    own "No wallet configured: set ETH_PRIVATE_KEY, SIGNER_URL, SGX_WALLET_URL or LEDGER_EMULATOR"
  | .privateKey => own "Failed to parse private key"
  | .requestKey => own "Failed to parse request signing key"
  | .halfSignerAccess => own "Remote signer auth needs both access_token and request_key_pem"
  | .halfEnclaveAccess => own "SGX client auth needs both cert_path and key_path"
  | .unreadableFile path => own ("Failed to read " ++ path)
  | .clientCertificate => own "Invalid SGX client certificate"
  | .httpClient => own "Failed to create HTTP client"
  | .rpcUrl => own "Invalid RPC URL"
  | .errand goal _ => own goal.text
  | .failed failure => failure.message

end SetupFailure

end Dispatch

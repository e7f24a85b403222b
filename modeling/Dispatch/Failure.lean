import Dispatch.Duration
import Dispatch.Message
import Dispatch.Text.Quoted
import Dispatch.Transaction

/-!
# Why a submission fails

One constructor per cause, grouped by the part that fails. The wording of each stands in its
`message`, with what a lower layer reported kept apart.
-/

set_option autoImplicit false

namespace Dispatch

def own (s : String) : Message := Message.ofText s

/-- Own words, then what a lower layer reported. -/
def because (s why : String) : Message := [.own s, .quoted why]

inductive DeviceFault where
  | pathComponent (part : List Char)
  | pathRange (part : List Char)
  | pathDepth
  | unreachable (why : String)
  | transport (why : String)
  | denied
  | blindSigning
  | appClosed
  | status (word : UInt16)
  | reported (text : String)
deriving DecidableEq

def DeviceFault.message : DeviceFault → Message
  | .pathComponent part => own ("invalid path component " ++ Text.quoted part)
  | .pathRange part => own ("path component " ++ Text.quoted part ++ " out of range")
  | .pathDepth => own "derivation path too deep"
  | .unreachable why => because "cannot reach emulator: " why
  | .transport why => because "emulator i/o: " why
  | .denied => own "request denied on device"
  | .blindSigning => own "invalid data, is blind signing enabled?"
  | .appClosed => own "Ethereum app is not open"
  | .status word => own ("status word 0x" ++ Hex.bare (Bytes.ofNat 2 word.toNat))
  | .reported text => own text

/-- The first field in which a signed transaction differs from the one asked for. -/
inductive Mismatch where
  | nonce (found expected : UInt64)
  | recipient (found : Option Address) (expected : Address)
  | value (found expected : BitVec 256)
  | data
  | chainId (found : Option UInt64) (expected : UInt64)
  | gasLimit (found expected : UInt64)
deriving DecidableEq

def optionText : Option String → String
  | none => "None"
  | some s => "Some(" ++ s ++ ")"

def Mismatch.text : Mismatch → String
  | .nonce found expected =>
      "nonce " ++ toString found.toNat ++ ", expected " ++ toString expected.toNat
  | .recipient found expected =>
    "recipient " ++ optionText (found.map fun a => Hex.marked a.toList) ++ ", expected "
      ++ expected.checksummed
  | .value found expected =>
      "value " ++ toString found.toNat ++ ", expected " ++ toString expected.toNat
  | .data => "calldata differs from request"
  | .chainId found expected =>
    "chain id " ++ optionText (found.map fun c => toString c.toNat) ++ ", expected "
      ++ toString expected.toNat
  | .gasLimit found expected =>
    "gas limit " ++ toString found.toNat ++ ", expected " ++ toString expected.toNat

inductive Malformation where
  | shortAddressResponse
  | publicKeyLength (n : Nat)
  | addressText (why : String)
  | address (text : List Char) (why : String)
  | signatureLength (n : Nat)
  | recoveryByte (v : UInt8)
  | publicKey (why : String)
  | publicKeySize (n : Nat)
  | signature (why : String)
  | rawTransaction (why : String)
  | foreignSigner (found expected : Address)
  | mismatch (difference : Mismatch)
  | unreadable (why : String)
  | body (why text : String)
  | reply (method why : String)
  | emptyResult (method : String)
  | scalar (text : List Char) (why : String)
  | reported (text : String)
deriving DecidableEq

def Malformation.message : Malformation → Message
  | .shortAddressResponse => own "short get-address response"
  | .publicKeyLength n => own ("unexpected public key length " ++ toString n)
  | .addressText why => because "address is not ascii: " why
  | .address text why => because ("address " ++ Text.quoted text ++ ": ") why
  | .signatureLength n => own ("signature response has " ++ toString n ++ " bytes")
  | .recoveryByte v => own ("unexpected v " ++ toString v.toNat)
  | .publicKey why => because "public key: " why
  | .publicKeySize n => own ("public key has " ++ toString n ++ " bytes, expected 64")
  | .signature why => because "signature: " why
  | .rawTransaction why => because "raw transaction: " why
  | .foreignSigner found expected =>
    own ("transaction signed by " ++ found.checksummed ++ ", expected " ++ expected.checksummed)
  | .mismatch difference => own ("signed transaction has " ++ difference.text)
  | .unreadable why => because "unreadable response: " why
  | .body why text => [.quoted why, .own (": " ++ text)]
  | .reply method why => because (method ++ ": ") why
  | .emptyResult method => own (method ++ ": empty result")
  | .scalar text why => because ("scalar " ++ Text.quoted text ++ ": ") why
  | .reported text => own text

inductive EnclaveFault where
  | error (method text : String)
  | status (method : String) (code : Int) (text : String)
  | foreignSigner (found expected : Address)
  | reported (text : String)
deriving DecidableEq

def EnclaveFault.message : EnclaveFault → Message
  | .error method text => own (method ++ ": " ++ text)
  | .status method code text =>
    own (method ++ " returned status " ++ toString code ++ ": " ++ text)
  | .foreignSigner found expected =>
    own ("enclave signed with " ++ found.checksummed ++ ", expected " ++ expected.checksummed)
  | .reported text => own text

inductive SigningFailure where
  | device (fault : DeviceFault)
  | unreachable (url : String) (why : String)
  | rejected (text : String)
  | enclave (fault : EnclaveFault)
  | local_ (text : String)
  | malformed (fault : Malformation)
deriving DecidableEq

def SigningFailure.message : SigningFailure → Message
  | .device fault => .own "hardware wallet error: " :: fault.message
  | .unreachable url why => because ("remote signer unreachable at " ++ url ++ ": ") why
  | .rejected text => own ("remote signer rejected request: " ++ text)
  | .enclave fault => .own "enclave signing failed: " :: fault.message
  | .local_ text => own ("local signing failed: " ++ text)
  | .malformed fault => .own "malformed signer response: " :: fault.message

def SigningFailure.kind : SigningFailure → String
  | .device _ => "Device"
  | .unreachable _ _ => "Unreachable"
  | .rejected _ => "Rejected"
  | .enclave _ => "Enclave"
  | .local_ _ => "Local"
  | .malformed _ => "Malformed"

inductive BrokerFault where
  | unserializable (why : String)
  | completion (id why : String)
  | channelClosed (id : String)
  | reported (text : String)
deriving DecidableEq

def BrokerFault.message : BrokerFault → Message
  | .unserializable why => because "Failed to serialize transaction: " why
  | .completion id why => because ("malformed completion for " ++ id ++ ": ") why
  | .channelClosed id => own ("completion channel for " ++ id ++ " closed")
  | .reported text => own text

inductive QueueFailure where
  | notSent (id text : String)
  | notFound (id text : String)
  | failed (id text : String)
  | timeout (id : String) (waited : Duration)
  | broker (fault : BrokerFault)
deriving DecidableEq

def QueueFailure.message : QueueFailure → Message
  | .notSent id text => own ("transaction " ++ id ++ " was not sent: " ++ text)
  | .notFound id text => own ("transaction " ++ id ++ " not found: " ++ text)
  | .failed id text => own ("transaction " ++ id ++ " failed: " ++ text)
  | .timeout id waited => own ("no completion for " ++ id ++ " within " ++ waited.display)
  | .broker fault => .own "broker error: " :: fault.message

def QueueFailure.kind : QueueFailure → String
  | .notSent _ _ => "NotSent"
  | .notFound _ _ => "NotFound"
  | .failed _ _ => "Failed"
  | .timeout _ _ => "Timeout"
  | .broker _ => "Broker"

inductive InvalidArgument where
  | foreignSender (sender wallet : Address)
  | ticketWithoutQueue (wallet : String) (handle : Handle)
  | receiptWithoutHandle
  | multiplier (given : Binary64)
  | noBaseFee
  | feeBelowTip (maxFee tip : BitVec 128)
  | noAttempts
  | onlyAndWithoutDryRun
  | reported (text : String)
deriving DecidableEq

def InvalidArgument.message : InvalidArgument → Message
  | .foreignSender sender wallet =>
    own ("transaction sender " ++ sender.checksummed ++ " does not match wallet " ++
      wallet.checksummed)
  | .ticketWithoutQueue wallet handle =>
    own (wallet ++ " cannot wait on queue ticket " ++ handle.display)
  | .receiptWithoutHandle => own "a receipt requires a transaction reference"
  | .multiplier given => own ("fee multiplier must be positive, got " ++ given.display)
  | .noBaseFee => own "chain reports no base fee, use the legacy fee model"
  | .feeBelowTip maxFee tip =>
    own ("max fee " ++ toString maxFee.toNat ++ " is below priority fee " ++ toString tip.toNat)
  | .noAttempts => own "max_retries must be at least 1"
  | .onlyAndWithoutDryRun => own "dry_run_only and skip_dry_run are mutually exclusive"
  | .reported text => own text

inductive Failure where
  | insufficientBalance (account : Address) (required available : BitVec 256)
  | dryRunRevert (reason : String)
  | dryRunFailed (error : Message)
  | transactionFailed (receipt : Receipt)
  | transactionNotFound (handle : Handle)
  | transactionTimeout (handle : Handle) (waited : Duration)
  | signing (failure : SigningFailure)
  | queue (failure : QueueFailure)
  | unsupported (wallet operation : String)
  | rpc (text : Message)
  | invalidArgument (fault : InvalidArgument)
deriving DecidableEq

namespace Failure

def message : Failure → Message
  | .insufficientBalance account required available =>
    own ("insufficient balance on " ++ account.checksummed ++ ": " ++ toString required.toNat
      ++ " wei required, " ++ toString available.toNat ++ " wei available")
  | .dryRunRevert reason => own ("dry run reverted: " ++ reason)
  | .dryRunFailed error => .own "dry run failed: " :: error
  | .transactionFailed receipt =>
    own ("transaction " ++ Hex.marked receipt.hash.toList ++ " failed in block "
      ++ toString receipt.blockNumber.toNat)
  | .transactionNotFound handle => own ("transaction " ++ handle.display ++ " not found")
  | .transactionTimeout handle waited =>
    own ("timed out after " ++ waited.display ++ " waiting for transaction " ++ handle.display)
  | .signing failure => failure.message
  | .queue failure => failure.message
  | .unsupported wallet operation => own (wallet ++ " does not support " ++ operation)
  | .rpc text => .own "rpc error: " :: text
  | .invalidArgument fault => .own "invalid argument: " :: fault.message

def kind : Failure → String
  | .insufficientBalance _ _ _ => "InsufficientBalance"
  | .dryRunRevert _ => "DryRunRevert"
  | .dryRunFailed _ => "DryRunFailed"
  | .transactionFailed _ => "TransactionFailed"
  | .transactionNotFound _ => "TransactionNotFound"
  | .transactionTimeout _ _ => "TransactionTimeout"
  | .signing failure => "Signing." ++ failure.kind
  | .queue failure => "Queue." ++ failure.kind
  | .unsupported _ _ => "UnsupportedOperation"
  | .rpc _ => "Rpc"
  | .invalidArgument _ => "InvalidArgument"

/-- Whether another attempt may follow: all failures but the caller's own mistakes. -/
def isRetryable : Failure → Bool
  | .invalidArgument _ => false
  | .unsupported _ _ => false
  | _ => true

end Failure

end Dispatch

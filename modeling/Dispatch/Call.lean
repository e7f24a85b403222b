import Dispatch.Abi
import Dispatch.Binary64
import Dispatch.Duration
import Dispatch.Json.Value

/-!
# Contract calls and how they are submitted
-/

set_option autoImplicit false

namespace Dispatch

structure Call where
  recipient : Address
  data : Bytes
  value : BitVec 256
  gasLimit : Option UInt64
  operation : Option String

namespace Call

def ofData (recipient : Address) (data : Bytes) : Call :=
  { recipient, data, value := 0, gasLimit := none, operation := none }

def withValue (c : Call) (value : BitVec 256) : Call := { c with value }

def withGasLimit (c : Call) (gasLimit : UInt64) : Call := { c with gasLimit := some gasLimit }

def withOperation (c : Call) (operation : String) : Call := { c with operation := some operation }

def nativeTransfer (recipient : Address) (amount : BitVec 256) : Call :=
  ((ofData recipient []).withValue amount).withOperation "transfer"

end Call

namespace Token

def transfer (token recipient : Address) (amount : BitVec 256) : Call :=
  (Call.ofData token
    (Abi.call "transfer(address,uint256)" [.address recipient, .uint amount])).withOperation
    "transfer"

def approve (token spender : Address) (amount : BitVec 256) : Call :=
  (Call.ofData token
    (Abi.call "approve(address,uint256)" [.address spender, .uint amount])).withOperation
    "approve"

def balanceOfData (account : Address) : Bytes := Abi.call "balanceOf(address)" [.address account]

end Token

namespace ValidatorService

def registerValidator (service : Address) (name description : String)
    (feeRate minimumDelegation : BitVec 256) : Call :=
  (Call.ofData service (Abi.call "registerValidator(string,string,uint256,uint256)"
    [.bytes (Bytes.ofText name), .bytes (Bytes.ofText description), .uint feeRate,
      .uint minimumDelegation])).withOperation "register_validator"

def linkNodeAddress (service node : Address) (proof : Bytes) : Call :=
  (Call.ofData service (Abi.call "linkNodeAddress(address,bytes)"
    [.address node, .bytes proof])).withOperation "link_node_address"

/-- What a node signs to be linked to a validator. -/
def nodeAddressHash (validatorId : BitVec 256) : Hash :=
  Keccak.hash (Bytes.ofNat 32 validatorId.toNat)

end ValidatorService

structure Options where
  waitFor : Bool
  blocksToWait : Option UInt64
  timeout : Option Duration
  gasLimit : Option UInt64
  gasPrice : Option (BitVec 128)
  maxFee : Option (BitVec 128)
  tip : Option (BitVec 128)
  nonce : Option UInt64
  skipDryRun : Bool
  dryRunOnly : Bool
  forceSend : Bool
  raiseForStatus : Bool
  multiplier : Option Binary64
  priority : Option UInt32
  confirmationBlocks : UInt64
  metadata : Option Json

namespace Options

def standard : Options :=
  { waitFor := true, blocksToWait := none, timeout := none, gasLimit := none, gasPrice := none
    maxFee := none, tip := none, nonce := none, skipDryRun := false, dryRunOnly := false
    forceSend := false, raiseForStatus := true, multiplier := none, priority := none
    confirmationBlocks := 0, metadata := none }

def fireAndForget : Options := { standard with waitFor := false }

def onlyDryRun : Options := { standard with dryRunOnly := true }

end Options

/-- What a wallet that queues transactions passes on with them. -/
structure Hints where
  multiplier : Option Binary64
  priority : Option UInt32
  operation : Option String
  metadata : Option Json

structure WaitBounds where
  blocksToWait : UInt64
  timeout : Duration
  pollInterval : Duration
deriving DecidableEq

namespace WaitBounds

def standard : WaitBounds :=
  { blocksToWait := 50, timeout := .ofSeconds 3600, pollInterval := .ofSeconds 3 }

def remainingAfter (b : WaitBounds) (elapsed : Duration) : WaitBounds :=
  { b with timeout := b.timeout.minus elapsed }

end WaitBounds

end Dispatch

import Dispatch.Call
import Dispatch.Dotenv
import Dispatch.Outcome
import Dispatch.Setup
import Dispatch.Text.Decimal

/-!
# Settings of a network and of submissions
-/

set_option autoImplicit false

namespace Dispatch

namespace Variables

def get? (vars : Variables) (name : String) : Option String := vars.lookup name

def filled? (vars : Variables) (name : String) : Option String :=
  (vars.get? name).filter fun value => !(Text.trim value.toList).isEmpty

end Variables

structure Network where
  chainId : UInt64
  rpcUrl : String

def Network.ofVariables (vars : Variables) : Except SetupFailure Network :=
  match vars.get? "ENDPOINT", vars.get? "CHAIN_ID" with
  | none, _ => .error (.unset "ENDPOINT")
  | some _, none => .error (.unset "CHAIN_ID")
  | some rpcUrl, some text =>
    match Text.readNat? UInt64.size text.toList with
    | some n => .ok ⟨UInt64.ofNat n, rpcUrl⟩
    | none => .error (.notInteger "CHAIN_ID")

inductive FeeModel where
  | legacy
  | dynamic
deriving DecidableEq

structure Settings where
  disableDryRun : Bool
  gasMultiplier : Binary64
  gasPriceMultiplier : Binary64
  feeModel : FeeModel
  defaultGasPrice : Option (BitVec 128)
  defaultGasLimit : UInt64
  /-- Gas limits by operation; of two with one name the first counts. -/
  gasLimits : List (String × UInt64)
  blocksToWait : UInt64
  maxWaiting : Duration
  pollInterval : Duration
  checkBalance : Bool

namespace Settings

def operationGasLimits : List (String × UInt64) :=
  [("transfer", 100000), ("approve", 100000), ("register_validator", 1000000),
   ("link_node_address", 300000), ("delegate", 1000000), ("accept_pending_delegation", 1500000),
   ("request_undelegation", 1500000), ("create_node", 3000000), ("node_exit", 10000000),
   ("add_schain", 10000000), ("delete_schain", 7000000), ("complaint", 8000000),
   ("broadcast", 8000000), ("alright", 1000000)]

def standard : Settings where
  disableDryRun := false
  gasMultiplier := .ofRatio false 12 10
  gasPriceMultiplier := .ofRatio false 12 10
  feeModel := .legacy
  defaultGasPrice := none
  defaultGasLimit := 8000000
  gasLimits := operationGasLimits
  blocksToWait := WaitBounds.standard.blocksToWait
  maxWaiting := WaitBounds.standard.timeout
  pollInterval := WaitBounds.standard.pollInterval
  checkBalance := true

def withGasLimit (s : Settings) (operation : String) (gas : UInt64) : Settings :=
  { s with gasLimits := (operation, gas) :: s.gasLimits.filter (fun entry => entry.1 != operation) }

def staticGasLimit (s : Settings) (operation : Option String) : UInt64 :=
  ((operation.bind fun name => s.gasLimits.lookup name)).getD s.defaultGasLimit

/-- An explicit limit, else the estimate of a dry run, else the limit of the operation. -/
def resolveGasLimit (s : Settings) (explicit : Option UInt64) (dryRun : Option DryRun)
    (operation : Option String) : UInt64 :=
  (explicit.or (dryRun.bind DryRun.estimatedGas?)).getD (s.staticGasLimit operation)

def isTrueFlag (value : String) : Bool :=
  ["1", "true", "True", "TRUE"].contains (String.ofList (Text.trim value.toList))

def ofVariables (vars : Variables) : Except SetupFailure Settings :=
  let s := match vars.get? "DISABLE_DRY_RUN" with
    | some value => { standard with disableDryRun := isTrueFlag value }
    | none => standard
  match vars.get? "DEFAULT_GAS_PRICE_WEI" with
  | none => .ok s
  | some value =>
    match Text.readNat? (Nat.pow 2 128) (Text.trim value.toList) with
    | some price => .ok { s with defaultGasPrice := some (.ofNat 128 price) }
    | none => .error (.notInteger "DEFAULT_GAS_PRICE_WEI")

end Settings

end Dispatch

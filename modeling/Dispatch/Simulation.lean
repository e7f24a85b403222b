import Dispatch.Node
import Dispatch.Settings

/-!
# Dry runs

With an explicit gas limit the call is run with it and the limit is handed back. Otherwise the
node's estimate is scaled and kept within the gas of a block.
-/

set_option autoImplicit false

namespace Dispatch

structure Simulator where
  gasMultiplier : Binary64
  /-- The gas of a block if the latest one cannot be read. -/
  fallbackGasLimit : UInt64

namespace Simulator

def ofSettings (s : Settings) : Simulator := ⟨s.gasMultiplier, s.defaultGasLimit⟩

def scale (s : Simulator) (gas : UInt64) : UInt64 :=
  .ofNat (min (applyMultiplier (.ofNat 128 gas.toNat) s.gasMultiplier).toNat (UInt64.size - 1))

def request (call : Call) (sender : Address) (gas : Option UInt64) : CallRequest :=
  { sender, recipient := call.recipient, data := call.data, value := call.value, gas }

def blockGasLimit (s : Simulator) : Program Node UInt64 := do
  match ← ExceptT.run Node.latestBlock with
  | .ok fees => return fees.gasLimit
  | .error _ => return s.fallbackGasLimit

def estimate (s : Simulator) (r : CallRequest) : ExceptT CallFailure (Program Node) UInt64 := do
  let limit ← s.blockGasLimit
  let gas := s.scale (← Node.estimateGas r)
  return if limit < gas then limit else gas

def classify : Except CallFailure UInt64 → DryRun
  | .ok gas => .wouldSucceed gas
  | .error (.revert reason) => .wouldRevert reason
  | .error (.node error) => .nodeError error

def run (s : Simulator) (call : Call) (sender : Address) (gas : Option UInt64) :
    Program Node DryRun := do
  let r := request call sender gas
  match gas with
  | some gas => return classify ((← ExceptT.run (Node.call r)).map fun _ => gas)
  | none => return classify (← ExceptT.run (s.estimate r))

end Simulator

end Dispatch

import Dispatch.Node
import Dispatch.Settings

/-!
# What to pay for gas

Overrides decide the fee model before the settings do, and stand unchanged in the result. The node
is asked only for what is not given, and its prices are scaled by the multiplier.
-/

set_option autoImplicit false

namespace Dispatch

namespace Settings

def chooseFeeModel (s : Settings) (o : Options) : FeeModel :=
  if o.gasPrice.isSome then .legacy
  else if o.maxFee.isSome ∨ o.tip.isSome then .dynamic
  else s.feeModel

def multiplier (s : Settings) (o : Options) : Binary64 := o.multiplier.getD s.gasPriceMultiplier

def legacyFees (s : Settings) (o : Options) : Task Node Fees := do
  match o.gasPrice.or s.defaultGasPrice with
  | some price => return .legacy price
  | none => return .legacy (applyMultiplier (← Node.gasPrice) (s.multiplier o))

def chooseTip (s : Settings) (o : Options) : Task Node (BitVec 128) := do
  match o.tip with
  | some tip => return tip
  | none => return applyMultiplier (← Node.priorityFee) (s.multiplier o)

def chooseMaxFee (o : Options) (tip : BitVec 128) : Task Node (BitVec 128) := do
  match o.maxFee with
  | some fee => return fee
  | none =>
    match (← Node.latestBlock).baseFee with
    | some base => return .ofNat 128 (base.toNat * 2) + tip
    | none => throw (.invalidArgument .noBaseFee)

def dynamicFees (s : Settings) (o : Options) : Task Node Fees := do
  let tip ← s.chooseTip o
  let maxFee ← chooseMaxFee o tip
  if maxFee < tip then throw (.invalidArgument (.feeBelowTip maxFee tip))
  return .dynamic maxFee tip

def resolveFees (s : Settings) (o : Options) : Task Node Fees := do
  if ¬ (s.multiplier o).IsPositive then
    throw (.invalidArgument (.multiplier (s.multiplier o)))
  match s.chooseFeeModel o with
  | .legacy => s.legacyFees o
  | .dynamic => s.dynamicFees o

end Settings

end Dispatch

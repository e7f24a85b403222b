import Dispatch.Failure

/-!
# Results of dry runs and of submissions
-/

set_option autoImplicit false

namespace Dispatch

/-- What a simulated call showed: an estimate, a reason for reverting, or that the node could not
simulate it. -/
inductive DryRun where
  | wouldSucceed (estimatedGas : UInt64)
  | wouldRevert (reason : String)
  | nodeError (error : Message)
deriving DecidableEq

namespace DryRun

def isSuccess : DryRun → Bool
  | .wouldSucceed _ => true
  | _ => false

def estimatedGas? : DryRun → Option UInt64
  | .wouldSucceed gas => some gas
  | _ => none

def revertReason? : DryRun → Option String
  | .wouldRevert reason => some reason
  | _ => none

end DryRun

/-- What a submission hands back. -/
structure Outcome where
  dryRun : Option DryRun
  handle : Option Handle
  receipt : Option Receipt
  attempts : UInt32
deriving DecidableEq

namespace Outcome

/-- A result of a first attempt; a receipt needs a handle. -/
def make (dryRun : Option DryRun) (handle : Option Handle) (receipt : Option Receipt) :
    Except Failure Outcome :=
  if receipt.isSome ∧ handle.isNone then .error (.invalidArgument .receiptWithoutHandle)
  else .ok { dryRun, handle, receipt, attempts := 1 }

/-- The hash of the handle, else that of the receipt. -/
def hash? (o : Outcome) : Option Hash :=
  match o.handle.bind Handle.hash? with
  | some h => some h
  | none => o.receipt.map fun r => r.hash

/-- The failure that the result amounts to, if any; a receipt decides before a dry run. -/
def failure? (o : Outcome) : Option Failure :=
  match o.receipt, o.dryRun with
  | some receipt, _ => if receipt.success then none else some (.transactionFailed receipt)
  | none, some (.wouldRevert reason) => some (.dryRunRevert reason)
  | none, some (.nodeError error) => some (.dryRunFailed error)
  | none, _ => none

end Outcome

end Dispatch

import Dispatch.Call
import Dispatch.Node

/-!
# Waiting for a transaction on the chain

Both loops ask, judge what time is left, and sleep no longer than that. The number of rounds is
bounded by the time allowed and the interval between rounds.
-/

set_option autoImplicit false

namespace Dispatch

namespace WaitBounds

/-- More rounds than a wait within these bounds can take. Without an interval the clock does not
bound them. -/
def rounds (b : WaitBounds) : Nat :=
  if b.pollInterval.nanos = 0 then UInt64.size else b.timeout.nanos / b.pollInterval.nanos + 2

def nap (b : WaitBounds) (waited : Duration) : Duration :=
  b.pollInterval.shorter (b.timeout.minus waited)

end WaitBounds

namespace Waiting

/-- A transaction without a receipt has timed out if the node knows it, and else was not found. -/
def giveUp (hash : Hash) (started : Nat) : Task Node Receipt := do
  if ← Node.known hash then
    throw (.transactionTimeout (.hash hash) (← Program.since (I := Node) started))
  else
    throw (.transactionNotFound (.hash hash))

def poll (hash : Hash) (b : WaitBounds) (started : Nat) (startBlock : UInt64) :
    Nat → UInt64 → Task Node Receipt
  | 0, _ => giveUp hash started
  | round + 1, current => do
    match ← Node.receipt hash with
    | some receipt => return receipt
    | none =>
      let waited ← Program.since (I := Node) started
      if b.timeout ≤ waited ∨ addWithin64 startBlock b.blocksToWait < current then
        giveUp hash started
      else
        Program.pause (I := Node) (b.nap waited)
        poll hash b started startBlock round (← Node.blockNumber)

end Waiting

def waitForReceipt (hash : Hash) (b : WaitBounds) : Task Node Receipt := do
  let started ← Program.now (I := Node)
  let startBlock ← Node.blockNumber
  Waiting.poll hash b started startBlock b.rounds startBlock

namespace Waiting

def confirm (hash : Hash) (b : WaitBounds) (started : Nat) (target : UInt64) : Nat → Task Node Unit
  | 0 => do throw (.transactionTimeout (.hash hash) (← Program.since (I := Node) started))
  | round + 1 => do
    let current ← Node.blockNumber
    if target ≤ current then return ()
    else
      let waited ← Program.since (I := Node) started
      if b.timeout ≤ waited then throw (.transactionTimeout (.hash hash) waited)
      else
        Program.pause (I := Node) (b.nap waited)
        confirm hash b started target round

end Waiting

def waitForConfirmations (receipt : Receipt) (blocks : UInt64) (b : WaitBounds) :
    Task Node Unit := do
  let started ← Program.now (I := Node)
  Waiting.confirm receipt.hash b started (addWithin64 receipt.blockNumber blocks) b.rounds

end Dispatch

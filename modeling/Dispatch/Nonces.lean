import Dispatch.Node

/-!
# Where nonces come from

Either the node is asked each time, or a counter is kept for each account. The counter never falls
behind the node, and a nonce that was not used can be handed back.
-/

set_option autoImplicit false

namespace Dispatch

inductive NonceSource where
  | network
  | counted
deriving DecidableEq

/-- The next nonce of each account that has one counted; of two entries the first counts. -/
abbrev Counters := List (Address × UInt64)

namespace Counters

def next (c : Counters) (a : Address) : UInt64 := (c.lookup a).getD 0

def set (c : Counters) (a : Address) (n : UInt64) : Counters :=
  (a, n) :: c.filter fun entry => entry.1 != a

def take (c : Counters) (a : Address) (onChain : UInt64) : UInt64 × Counters :=
  let nonce := max (c.next a) onChain
  (nonce, c.set a (nonce + 1))

/-- Hands back a nonce; only the one taken last can be taken again. -/
def release (c : Counters) (a : Address) (n : UInt64) : Counters :=
  if c.lookup a = some (n + 1) then c.set a n else c

end Counters

namespace NonceSource

/-- The nonce for the account's next transaction. A failure leaves the counters as they are. -/
def next (source : NonceSource) (a : Address) :
    ExceptT Failure (StateT Counters (Program Node)) UInt64 := do
  let onChain ← ExceptT.mk (StateT.lift (ExceptT.run (Node.transactionCount a)))
  match source with
  | .network => return onChain
  | .counted => modifyGet fun c => Counters.take c a onChain

def release (source : NonceSource) (a : Address) (n : UInt64) (c : Counters) : Counters :=
  match source with
  | .network => c
  | .counted => Counters.release c a n

end NonceSource

end Dispatch

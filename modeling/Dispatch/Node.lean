import Dispatch.Outcome
import Dispatch.Program

/-!
# What a chain's node is asked
-/

set_option autoImplicit false

namespace Dispatch

structure CallRequest where
  sender : Address
  recipient : Address
  data : Bytes
  value : BitVec 256
  gas : Option UInt64
deriving DecidableEq

/-- Why a simulated call gave no result: the contract refused, or the node could not run it. -/
inductive CallFailure where
  | revert (reason : String)
  | node (error : Message)
deriving DecidableEq

/-- Gas limit and base fee of a block; chains without dynamic fees have no base fee. -/
structure BlockFees where
  gasLimit : UInt64
  baseFee : Option UInt64
deriving DecidableEq

inductive NodeQuestion where
  | chainId
  | call (request : CallRequest)
  | estimateGas (request : CallRequest)
  | transactionCount (account : Address)
  | sendRaw (raw : Bytes)
  | receipt (hash : Hash)
  | known (hash : Hash)
  | blockNumber
  | gasPrice
  | priorityFee
  | latestBlock
  | balance (account : Address)
deriving DecidableEq

def NodeQuestion.Answer : NodeQuestion → Type
  | .chainId => Except Failure UInt64
  | .call _ => Except CallFailure Bytes
  | .estimateGas _ => Except CallFailure UInt64
  | .transactionCount _ => Except Failure UInt64
  | .sendRaw _ => Except Failure Hash
  | .receipt _ => Except Failure (Option Receipt)
  | .known _ => Except Failure Bool
  | .blockNumber => Except Failure UInt64
  | .gasPrice => Except Failure (BitVec 128)
  | .priorityFee => Except Failure (BitVec 128)
  | .latestBlock => Except Failure BlockFees
  | .balance _ => Except Failure (BitVec 256)

def Node : Interface := ⟨NodeQuestion, NodeQuestion.Answer⟩

abbrev Task (I : Interface) (α : Type) := ExceptT Failure (Program I) α

namespace Node

def chainId : Task Node UInt64 := .ask NodeQuestion.chainId .done

def call (r : CallRequest) : ExceptT CallFailure (Program Node) Bytes := .ask (.call r) .done

def estimateGas (r : CallRequest) : ExceptT CallFailure (Program Node) UInt64 :=
  .ask (.estimateGas r) .done

def transactionCount (a : Address) : Task Node UInt64 := .ask (.transactionCount a) .done

def sendRaw (raw : Bytes) : Task Node Hash := .ask (.sendRaw raw) .done

def receipt (h : Hash) : Task Node (Option Receipt) := .ask (.receipt h) .done

def known (h : Hash) : Task Node Bool := .ask (.known h) .done

def blockNumber : Task Node UInt64 := .ask NodeQuestion.blockNumber .done

def gasPrice : Task Node (BitVec 128) := .ask NodeQuestion.gasPrice .done

def priorityFee : Task Node (BitVec 128) := .ask NodeQuestion.priorityFee .done

def latestBlock : Task Node BlockFees := .ask NodeQuestion.latestBlock .done

def balance (a : Address) : Task Node (BitVec 256) := .ask (.balance a) .done

end Node

def addWithin64 (a b : UInt64) : UInt64 := .ofNat (min (a.toNat + b.toNat) (UInt64.size - 1))

end Dispatch

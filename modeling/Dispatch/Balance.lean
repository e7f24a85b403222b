import Dispatch.Call
import Dispatch.Node

/-!
# Reading a token's balance
-/

set_option autoImplicit false

namespace Dispatch.Token

def balanceOfRequest (token account : Address) : CallRequest :=
  { sender := .zero, recipient := token, data := balanceOfData account, value := 0, gas := none }

def balanceFailure : CallFailure → Failure
  | .revert reason => .rpc (own ("balanceOf reverted: " ++ reason))
  | .node error => .rpc (.own "Failed to call balanceOf: " :: error)

def readBalance (answer : Bytes) : Except Failure (BitVec 256) :=
  match Abi.firstWord? answer with
  | some balance => .ok balance
  | none => .error (.rpc (because "Failed to decode balance: " "too short"))

def balanceOf (token account : Address) : Task Node (BitVec 256) := do
  let answer ← ExceptT.adapt balanceFailure (Node.call (balanceOfRequest token account))
  ExceptT.mk (pure (readBalance answer))

end Dispatch.Token

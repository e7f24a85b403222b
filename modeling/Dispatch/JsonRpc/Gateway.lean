import Dispatch.JsonRpc.Reply
import Dispatch.Setup

/-!
# A node reached over HTTP

Each question to the node becomes one request. Requests are numbered from zero.
-/

set_option autoImplicit false

namespace Dispatch.JsonRpc

structure Gateway where
  url : String

def Gateway.ofUrl (url : String) : Except SetupFailure Gateway :=
  if Url.isValid url then .ok ⟨url⟩ else .error .rpcUrl

/-! ## Requests -/

structure Request where
  method : String
  /-- Methods without parameters send none. -/
  params : Option (List Json)

def addressJson (a : Address) : Json := .string (Hex.marked a.toList)

def hashJson (h : Hash) : Json := .string (Hex.marked h.toList)

def quantityJson (n : Nat) : Json := .string (Hex.quantity n)

def callParams (r : CallRequest) : List Json :=
  let gas := match r.gas with
    | some gas => [("gas", quantityJson gas.toNat)]
    | none => []
  [.object ([("from", addressJson r.sender), ("to", addressJson r.recipient)] ++ gas
      ++ [("value", quantityJson r.value.toNat), ("input", .string (Hex.marked r.data))]),
    .string "pending"]

def request : NodeQuestion → Request
  | .chainId => ⟨"eth_chainId", none⟩
  | .call r => ⟨"eth_call", some (callParams r)⟩
  | .estimateGas r => ⟨"eth_estimateGas", some (callParams r)⟩
  | .transactionCount a => ⟨"eth_getTransactionCount", some [addressJson a, .string "latest"]⟩
  | .sendRaw raw => ⟨"eth_sendRawTransaction", some [.string (Hex.marked raw)]⟩
  | .receipt h => ⟨"eth_getTransactionReceipt", some [hashJson h]⟩
  | .known h => ⟨"eth_getTransactionByHash", some [hashJson h]⟩
  | .blockNumber => ⟨"eth_blockNumber", none⟩
  | .gasPrice => ⟨"eth_gasPrice", none⟩
  | .priorityFee => ⟨"eth_maxPriorityFeePerGas", none⟩
  | .latestBlock => ⟨"eth_getBlockByNumber", some [.string "latest", .bool false]⟩
  | .balance a => ⟨"eth_getBalance", some [addressJson a, .string "latest"]⟩

def Request.body (r : Request) (id : Nat) : Json :=
  .object ([("method", .string r.method)]
    ++ (match r.params with | some params => [("params", .array params)] | none => [])
    ++ [("id", .integer id), ("jsonrpc", .string "2.0")])

/-! ## Exchanges -/

def Gateway.exchange {α : Type} (g : Gateway) (id : Nat) (r : Request)
    (read : Json.Tree → Option α) : Program Outside (Except Fault α) := do
  let reply ← (Outside.http
    { method := .post, url := g.url, headers := [("Content-Type", "application/json")]
      body := Bytes.ofText (r.body id).render, identity := none }).run
  match reply with
  | .error why => return .error (.other why)
  | .ok reply => return unpack read reply

def failureFor {α : Type} (purpose : String) : Except Fault α → Except Failure α
  | .ok a => .ok a
  | .error fault => .error (fault.failure purpose)

def callAnswer {α : Type} : Except Fault α → Except CallFailure α
  | .ok a => .ok a
  | .error fault => .error fault.callFailure

def latestFees : Except Fault (Option BlockFees) → Except Failure BlockFees
  | .ok (some fees) => .ok fees
  | .ok none => .error (.rpc (own "Latest block not available"))
  | .error fault => .error (fault.failure "Failed to get latest block")

def Gateway.reply (g : Gateway) (id : Nat) (q : NodeQuestion) : Program Outside q.Answer :=
  match q with
  | .chainId => failureFor "Failed to get chain id" <$> g.exchange id (request .chainId) word64?
  | .call r => callAnswer <$> g.exchange id (request (.call r)) Json.bytes?
  | .estimateGas r => callAnswer <$> g.exchange id (request (.estimateGas r)) word64?
  | .transactionCount a =>
    failureFor "Failed to get nonce" <$> g.exchange id (request (.transactionCount a)) word64?
  | .sendRaw raw =>
    failureFor "Failed to send transaction" <$> g.exchange id (request (.sendRaw raw)) Json.hash?
  | .receipt h =>
    failureFor "Failed to get transaction receipt"
      <$> g.exchange id (request (.receipt h)) (nullable? receipt?)
  | .known h =>
    failureFor "Failed to get transaction"
      <$> g.exchange id (request (.known h)) (fun t => (nullable? transaction? t).map Option.isSome)
  | .blockNumber =>
    failureFor "Failed to get block number" <$> g.exchange id (request .blockNumber) word64?
  | .gasPrice => failureFor "Failed to get gas price" <$> g.exchange id (request .gasPrice) word128?
  | .priorityFee =>
    failureFor "Failed to get priority fee" <$> g.exchange id (request .priorityFee) word128?
  | .latestBlock => latestFees <$> g.exchange id (request .latestBlock) (nullable? blockFees?)
  | .balance a =>
    failureFor "Failed to get balance" <$> g.exchange id (request (.balance a)) Json.word256?

def Gateway.answer (g : Gateway) (q : NodeQuestion) (id : Nat) : Program Outside (q.Answer × Nat) :=
  (g.reply id q).bind fun a => .done (a, id + 1)

def Gateway.run {α : Type} (g : Gateway) (p : Program Node α) (id : Nat) :
    Program Outside (α × Nat) :=
  Program.interpret (I := Node) (J := Outside) g.answer p id

end Dispatch.JsonRpc

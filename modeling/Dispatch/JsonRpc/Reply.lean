import Dispatch.Failure
import Dispatch.Http.Status
import Dispatch.Json.Bytes
import Dispatch.Json.Decode
import Dispatch.JsonRpc.Revert
import Dispatch.Node
import Dispatch.Outside

/-!
# Replies of a node

A node replies to a request with a result or an error. The records it sends are read for the fields
that matter, and refused if one that all of their kind have is not there.
-/

set_option autoImplicit false

namespace Dispatch.JsonRpc

structure ErrorReport where
  code : Int
  message : String
  data : Option Json

inductive Fault where
  | reported (report : ErrorReport)
  | other (why : String)

def ErrorReport.text (e : ErrorReport) : String :=
  "server returned an error response: error code " ++ toString e.code ++ ": " ++ e.message
    ++ match e.data with
      | some data => ", data: " ++ data.render
      | none => ""

def Fault.message : Fault → Message
  | .reported report => own report.text
  | .other why => [.quoted why]

def Fault.failure (purpose : String) (f : Fault) : Failure :=
  .rpc (.own (purpose ++ ": ") :: f.message)

/-- Why a simulated call failed. Only an error whose message speaks of a revert is one. -/
def Fault.callFailure : Fault → CallFailure
  | .reported report =>
    if Text.contains "revert".toList report.message.toList then
      .revert ((((report.data.bind Revert.bytes?).bind Revert.reason?)).getD report.message)
    else .node (own report.text)
  | .other why => .node [.quoted why]

/-! ## The frame of a reply -/

def freeform? (t : Json.Tree) : Option Json := Json.ofTree? Json.depthLimit t

/-- The fields of a record that is no array. -/
def members? (names : List String) : Json.Tree → Option (List (Option Json.Tree))
  | .object members => Json.fields? names (.object members)
  | _ => none

def errorReport? (t : Json.Tree) : Option ErrorReport := do
  match ← members? ["code", "message", "data"] t with
  | [code, message, data] =>
    some
      { code := ← Json.required? Json.signed64? code
        message := ← Json.defaulted? "" Json.text? message
        data := ← Json.optional? freeform? data }
  | _ => none

def isId : Json.Tree → Bool
  | .null | .string (some _) => true
  | .number (.whole false n) => n < UInt64.size
  | _ => false

/-- The result or the error in a reply, which holds one of them. -/
def payload? (t : Json.Tree) : Option (Except ErrorReport Json.Tree) := do
  match ← members? ["id", "result", "error"] t with
  | [id, result, error] =>
    if id.all isId then
      match result, error with
      | some result, none => some (.ok result)
      | none, some error => (errorReport? error).map .error
      | _, _ => none
    else none
  | _ => none

def unpack {α : Type} (read : Json.Tree → Option α) (reply : Http.Reply) : Except Fault α :=
  match reply.body with
  | .error why => .error (.other why)
  | .ok bytes =>
    if Http.isSuccess reply.status = false then .error (.other (Http.statusText reply.status))
    else
      match (Json.readBytes? bytes).bind payload? with
      | none => .error (.other "not a reply")
      | some (.error report) => .error (.reported report)
      | some (.ok result) =>
        match read result with
        | some a => .ok a
        | none => .error (.other "not a result")

/-! ## Results -/

def nat? (bound : Nat) (t : Json.Tree) : Option Nat := do
  let n := (← Json.word256? t).toNat
  if n < bound then some n else none

def word64? (t : Json.Tree) : Option UInt64 := (nat? UInt64.size t).map UInt64.ofNat

def word128? (t : Json.Tree) : Option (BitVec 128) := (nat? (Nat.pow 2 128) t).map (.ofNat 128)

def nullable? {α : Type} (read : Json.Tree → Option α) (t : Json.Tree) : Option (Option α) :=
  Json.optional? read (some t)

/-! ## Records -/

def must {α : Type} (read : Json.Tree → Option α) (field : Option Json.Tree) : Bool :=
  (Json.required? read field).isSome

def may {α : Type} (read : Json.Tree → Option α) (field : Option Json.Tree) : Bool :=
  (Json.optional? read field).isSome

def mayLack {α : Type} (read : Json.Tree → Option α) (field : Option Json.Tree) : Bool :=
  field.all fun t => (read t).isSome

/-- The members of an object if the given fields are in order. A record is read in parts, for which
all of its members are kept, so each has to be a value. -/
def checked? (fields : List (String × (Option Json.Tree → Bool))) (t : Json.Tree) :
    Option (String → Option (Option Json.Tree)) :=
  match t with
  | .object members =>
    let field := fun name => Json.single? name members
    if (freeform? t).isSome ∧ fields.all fun (name, ok) => (field name).any ok then some field
    else none
  | _ => none

def array? {α : Type} (read : Json.Tree → Option α) : Json.Tree → Option (List α)
  | .array items => items.mapM read
  | _ => none

def type? : Json.Tree → Option Nat
  | .string (some s) =>
    (["0x0", "0x1", "0x2", "0x3", "0x4"].idxOf? s).or
      (["0x00", "0x01", "0x02", "0x03", "0x04"].idxOf? s)
  | .number (.whole false n) => if n < 5 then some n else none
  | _ => none

/-- A log says where it stands, if only by null. -/
def log? (t : Json.Tree) : Option Unit := do
  let _ ← checked?
    [("address", must Json.address?), ("topics", must (array? Json.hash?)),
     ("data", must Json.bytes?), ("blockHash", may Json.hash?),
     ("blockNumber", must (nullable? word64?)), ("blockTimestamp", may word64?),
     ("transactionHash", may Json.hash?), ("transactionIndex", must (nullable? word64?)),
     ("logIndex", must (nullable? word64?)), ("removed", mayLack Json.flag?)] t
  some ()

/-- A status of zero is a failure. Receipts that have a state root in its place are of blocks in
which a failed transaction was not told from others. -/
def success? (status root : Option Json.Tree) : Option Bool :=
  ((Json.required? (nat? 2) status).map (· == 1)).or
    ((Json.required? Json.hash? root).map fun _ => true)

def receipt? (t : Json.Tree) : Option Receipt := do
  let field ← checked?
    [("type", must type?), ("from", must Json.address?), ("to", may Json.address?),
     ("contractAddress", may Json.address?), ("transactionIndex", may word64?),
     ("cumulativeGasUsed", must word64?), ("effectiveGasPrice", must word128?),
     ("blobGasUsed", may word64?), ("blobGasPrice", may word128?), ("logs", must (array? log?)),
     ("logsBloom", must (Json.fixed? 256))] t
  some
    { hash := ← Json.required? Json.hash? (← field "transactionHash")
      success := ← success? (field "status").join (field "root").join
      gasUsed := ← Json.required? word64? (← field "gasUsed")
      blockNumber := (← Json.optional? word64? (← field "blockNumber")).getD 0
      blockHash := ← Json.optional? Json.hash? (← field "blockHash") }

def transaction? (t : Json.Tree) : Option Unit := do
  let _ ← checked?
    [("hash", must Json.hash?), ("nonce", must word64?), ("from", must Json.address?),
     ("gas", must word64?), ("value", must Json.word256?), ("input", must Json.bytes?),
     ("r", must Json.word256?), ("s", must Json.word256?)] t
  some ()

def blockFees? (t : Json.Tree) : Option BlockFees := do
  let field ← checked?
    [("hash", must Json.hash?), ("parentHash", must Json.hash?), ("sha3Uncles", must Json.hash?),
     ("miner", must Json.address?), ("stateRoot", must Json.hash?),
     ("transactionsRoot", must Json.hash?), ("receiptsRoot", must Json.hash?),
     ("logsBloom", must (Json.fixed? 256)), ("difficulty", must Json.word256?),
     ("number", must word64?), ("gasUsed", must word64?), ("timestamp", must word64?),
     ("extraData", must Json.bytes?), ("mixHash", mayLack Json.hash?),
     ("nonce", mayLack (Json.fixed? 8)), ("withdrawalsRoot", may Json.hash?),
     ("blobGasUsed", may word64?), ("excessBlobGas", may word64?),
     ("parentBeaconBlockRoot", may Json.hash?), ("requestsHash", may Json.hash?),
     ("totalDifficulty", may Json.word256?), ("size", may Json.word256?),
     ("uncles", mayLack (array? Json.hash?))] t
  some
    { gasLimit := ← Json.required? word64? (← field "gasLimit")
      baseFee := ← Json.optional? word64? (← field "baseFeePerGas") }

end Dispatch.JsonRpc

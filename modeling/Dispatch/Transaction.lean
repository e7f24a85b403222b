import Dispatch.Address
import Dispatch.Curve.Ecdsa
import Dispatch.Json.Decode

/-!
# Drafts, handles and receipts

A draft is a transaction with all its fields resolved, ready to be signed. A handle is what a
wallet gives back for one that it accepted, and a receipt says how a mined one went.
-/

set_option autoImplicit false

namespace Dispatch

inductive Fees where
  | legacy (gasPrice : BitVec 128)
  | dynamic (maxFee tip : BitVec 128)
deriving DecidableEq

def Fees.ceiling : Fees → BitVec 128
  | .legacy gasPrice => gasPrice
  | .dynamic maxFee _ => maxFee

structure Draft where
  sender : Address
  recipient : Address
  value : BitVec 256
  data : Bytes
  gasLimit : UInt64
  nonce : UInt64
  chainId : UInt64
  fees : Fees
deriving DecidableEq

namespace Draft

/-- Gas at the highest price plus the value, in 256-bit arithmetic. -/
def maxCost (tx : Draft) : BitVec 256 :=
  .ofNat 256 tx.gasLimit.toNat * .ofNat 256 tx.fees.ceiling.toNat + tx.value

def feeMembers : Fees → List (String × Json)
  | .legacy gasPrice => [("gasPrice", .integer gasPrice.toNat)]
  | .dynamic maxFee tip =>
    [("maxFeePerGas", .integer maxFee.toNat), ("maxPriorityFeePerGas", .integer tip.toNat)]

def members (tx : Draft) : List (String × Json) :=
  [("from", .string (Hex.marked tx.sender.toList)),
   ("to", .string (Hex.marked tx.recipient.toList)),
   ("value", .string (Hex.quantity tx.value.toNat)),
   ("data", .string (Hex.marked tx.data)),
   ("gas", .integer tx.gasLimit.toNat),
   ("nonce", .integer tx.nonce.toNat),
   ("chainId", .integer tx.chainId.toNat)] ++ feeMembers tx.fees

def toJson (tx : Draft) : Json := .object tx.members

/-- Whether a free-form value can hold the fees, whose whole numbers have 64 bits. -/
def FitsValue (tx : Draft) : Prop :=
  match tx.fees with
  | .legacy gasPrice => gasPrice.toNat < UInt64.size
  | .dynamic maxFee tip => maxFee.toNat < UInt64.size ∧ tip.toNat < UInt64.size

instance (tx : Draft) : Decidable tx.FitsValue := by
  unfold FitsValue
  split <;> infer_instance

inductive ReadFault where
  | shape
  | feeModel
deriving DecidableEq

def ReadFault.message? : ReadFault → Option String
  | .shape => none
  | .feeModel => some "expected either gasPrice or maxFeePerGas with maxPriorityFeePerGas"

def fieldNames : List String :=
  ["from", "to", "value", "data", "gas", "nonce", "chainId", "gasPrice", "maxFeePerGas",
   "maxPriorityFeePerGas"]

/-- The fee model is told by which fee fields stand. -/
def fees? : Option (BitVec 128) → Option (BitVec 128) → Option (BitVec 128) → Option Fees
  | some gasPrice, none, none => some (.legacy gasPrice)
  | none, some maxFee, some tip => some (.dynamic maxFee tip)
  | _, _, _ => none

/-- A draft whose fees are still told by three optional fields. -/
structure Flat where
  base : Fees → Draft
  gasPrice : Option (BitVec 128)
  maxFee : Option (BitVec 128)
  tip : Option (BitVec 128)

def flat? (t : Json.Tree) : Option Flat := do
  match ← Json.fields? fieldNames t with
  | [sender, recipient, value, data, gas, nonce, chainId, gasPrice, maxFee, tip] =>
    let sender ← Json.required? Json.address? sender
    let recipient ← Json.required? Json.address? recipient
    let value ← Json.required? Json.word256? value
    let data ← Json.required? Json.bytes? data
    let gasLimit ← Json.required? Json.word64? gas
    let nonce ← Json.required? Json.word64? nonce
    let chainId ← Json.required? Json.word64? chainId
    let gasPrice ← Json.optional? Json.word128? gasPrice
    let maxFee ← Json.optional? Json.word128? maxFee
    let tip ← Json.optional? Json.word128? tip
    let base := fun fees => { sender, recipient, value, data, gasLimit, nonce, chainId, fees }
    some { base, gasPrice, maxFee, tip }
  | _ => none

def ofTree (t : Json.Tree) : Except ReadFault Draft :=
  match flat? t with
  | none => .error .shape
  | some flat =>
    match fees? flat.gasPrice flat.maxFee flat.tip with
    | some fees => .ok (flat.base fees)
    | none => .error .feeModel

def read (cs : List Char) : Except ReadFault Draft :=
  match Json.readPrefix? cs with
  | none => .error .shape
  | some (t, rest) =>
    match ofTree t with
    | .error fault => .error fault
    | .ok tx => if Json.isBlankRest rest then .ok tx else .error .shape

end Draft

structure SignedTransaction where
  raw : Bytes
  hash : Hash
  signature : Signature
deriving DecidableEq

inductive Handle where
  | hash (h : Hash)
  | ticket (id : String)
deriving DecidableEq

def Handle.hash? : Handle → Option Hash
  | .hash h => some h
  | .ticket _ => none

def Handle.display : Handle → String
  | .hash h => Hex.marked h.toList
  | .ticket id => id

structure Receipt where
  hash : Hash
  success : Bool
  gasUsed : UInt64
  blockNumber : UInt64
  blockHash : Option Hash
deriving DecidableEq

end Dispatch

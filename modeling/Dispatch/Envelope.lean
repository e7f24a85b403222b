import Dispatch.Failure
import Dispatch.Rlp

/-!
# Transactions as bytes

A payload is what a signature covers. With its signature it makes an envelope, whose bytes are
those that a node takes. There are five forms: the plain list, and four that start with the number
of their type. All of these carry a list of storage to be loaded.
-/

set_option autoImplicit false

namespace Dispatch

abbrev AccessList := List (Address × List Hash)

/-- The blobs that travel with a transaction, whose signature covers their hashes only. There is a
proof for each blob or, in the later version, for each cell of a blob. -/
structure Sidecar where
  perCell : Bool
  blobs : List (FixedBytes 131072)
  commitments : List (FixedBytes 48)
  proofs : List (FixedBytes 48)
deriving DecidableEq

/-- What an account signs to take its code from another one. The chain zero stands for all. -/
structure Delegation where
  chainId : BitVec 256
  target : Address
  nonce : UInt64
  parity : UInt8
  r : BitVec 256
  s : BitVec 256
deriving DecidableEq

/-- The form of a transaction with the fields that only this form has. The plain form names its
chain only in the signed bytes. -/
inductive Form where
  | plain (chainId : Option UInt64) (gasPrice : BitVec 128)
  | listed (chainId : UInt64) (gasPrice : BitVec 128) (accessList : AccessList)
  | dynamic (chainId : UInt64) (maxFee tip : BitVec 128) (accessList : AccessList)
  | blobs (chainId : UInt64) (maxFee tip : BitVec 128) (accessList : AccessList)
      (blobFee : BitVec 128) (hashes : List Hash) (sidecar : Option Sidecar)
  | delegating (chainId : UInt64) (maxFee tip : BitVec 128) (accessList : AccessList)
      (delegations : List Delegation)
deriving DecidableEq

structure Payload where
  form : Form
  nonce : UInt64
  gasLimit : UInt64
  /-- None creates a contract. -/
  recipient : Option Address
  value : BitVec 256
  data : Bytes
deriving DecidableEq

structure Envelope where
  payload : Payload
  signature : Signature
deriving DecidableEq

namespace Form

def chainId? : Form → Option UInt64
  | .plain chainId _ => chainId
  | .listed chainId _ _ | .dynamic chainId _ _ _ | .blobs chainId _ _ _ _ _ _
  | .delegating chainId _ _ _ _ => some chainId

def sidecar? : Form → Option Sidecar
  | .blobs _ _ _ _ _ _ sidecar => sidecar
  | _ => none

end Form

open Rlp (Item)

def AccessList.item (l : AccessList) : Item :=
  .list (l.map fun (account, places) =>
    .list [.bytes account.toList, .list (places.map fun p => .bytes p.toList)])

def fixedItems {n : Nat} (l : List (FixedBytes n)) : Item := .list (l.map fun b => .bytes b.toList)

def Delegation.item (d : Delegation) : Item :=
  .list [Rlp.ofNat d.chainId.toNat, .bytes d.target.toList, Rlp.ofNat d.nonce.toNat,
    Rlp.ofNat d.parity.toNat, Rlp.ofNat d.r.toNat, Rlp.ofNat d.s.toNat]

def Sidecar.items (s : Sidecar) : List Item :=
  (if s.perCell then [.bytes [1]] else []) ++
    [fixedItems s.blobs, fixedItems s.commitments, fixedItems s.proofs]

namespace Payload

def recipientItem (p : Payload) : Item :=
  .bytes (match p.recipient with | some a => a.toList | none => [])

def items (p : Payload) : List Item :=
  let common := [p.recipientItem, Rlp.ofNat p.value.toNat, .bytes p.data]
  let dynamic := fun (chainId : UInt64) (maxFee tip : BitVec 128) (accessList : AccessList) =>
    [Rlp.ofNat chainId.toNat, Rlp.ofNat p.nonce.toNat, Rlp.ofNat tip.toNat, Rlp.ofNat maxFee.toNat,
      Rlp.ofNat p.gasLimit.toNat] ++ common ++ [accessList.item]
  match p.form with
  | .plain _ gasPrice =>
    [Rlp.ofNat p.nonce.toNat, Rlp.ofNat gasPrice.toNat, Rlp.ofNat p.gasLimit.toNat] ++ common
  | .listed chainId gasPrice accessList =>
    [Rlp.ofNat chainId.toNat, Rlp.ofNat p.nonce.toNat, Rlp.ofNat gasPrice.toNat,
      Rlp.ofNat p.gasLimit.toNat] ++ common ++ [accessList.item]
  | .dynamic chainId maxFee tip accessList => dynamic chainId maxFee tip accessList
  | .blobs chainId maxFee tip accessList blobFee hashes _ =>
    dynamic chainId maxFee tip accessList ++ [Rlp.ofNat blobFee.toNat, fixedItems hashes]
  | .delegating chainId maxFee tip accessList delegations =>
    dynamic chainId maxFee tip accessList ++ [.list (delegations.map Delegation.item)]

/-- The number in front of a list, which the plain form lacks. -/
def marker : Form → Bytes
  | .plain _ _ => []
  | .listed _ _ _ => [1]
  | .dynamic _ _ _ _ => [2]
  | .blobs _ _ _ _ _ _ _ => [3]
  | .delegating _ _ _ _ _ => [4]

def chainItems : Form → List Item
  | .plain (some chainId) _ => [Rlp.ofNat chainId.toNat, Rlp.ofNat 0, Rlp.ofNat 0]
  | _ => []

def signingBytes (p : Payload) : Bytes :=
  marker p.form ++ Rlp.encode (.list (p.items ++ chainItems p.form))

def signingHash (p : Payload) : Hash := Keccak.hash p.signingBytes

end Payload

namespace Envelope

def recoveryNumber : Form → Bool → Nat
  | .plain none _, odd => 27 + odd.toNat
  | .plain (some chainId) _, odd => 35 + 2 * chainId.toNat + odd.toNat
  | _, odd => odd.toNat

def signatureItems (e : Envelope) : List Item :=
  [Rlp.ofNat (recoveryNumber e.payload.form e.signature.odd), Rlp.ofNat e.signature.r.toNat,
    Rlp.ofNat e.signature.s.toNat]

def signedItems (e : Envelope) : List Item := e.payload.items ++ e.signatureItems

def items (e : Envelope) : List Item :=
  match e.payload.form.sidecar? with
  | some sidecar => .list e.signedItems :: sidecar.items
  | none => e.signedItems

def encode (e : Envelope) : Bytes :=
  Payload.marker e.payload.form ++ Rlp.encode (.list e.items)

/-- The hash is that of the transaction without its blobs. -/
def hash (e : Envelope) : Hash :=
  Keccak.hash (Payload.marker e.payload.form ++ Rlp.encode (.list e.signedItems))

def signer? (e : Envelope) : Option Address :=
  if e.signature.IsLow then e.signature.recover? e.payload.signingHash else none

/-! ## Reading -/

def word8? (item : Item) : Option UInt8 := (item.nat? 1).map UInt8.ofNat

def word64? (item : Item) : Option UInt64 := (item.nat? 8).map UInt64.ofNat

def word128? (item : Item) : Option (BitVec 128) := (item.nat? 16).map (.ofNat 128)

def word256? (item : Item) : Option (BitVec 256) := (item.nat? 32).map (.ofNat 256)

def recipient? (item : Item) : Option (Option Address) := do
  let b ← item.bytes?
  if b.isEmpty then some none else (FixedBytes.ofBytes? b).map some

def fixedItems? (n : Nat) (item : Item) : Option (List (FixedBytes n)) := do
  (← item.list?).mapM (Item.fixed? n)

def accessPlaces? : Item → Option (Address × List Hash)
  | .list [account, places] => do some (← account.fixed? 20, ← fixedItems? 32 places)
  | _ => none

def accessList? (item : Item) : Option AccessList := do (← item.list?).mapM accessPlaces?

def delegation? : Item → Option Delegation
  | .list [chainId, target, nonce, parity, r, s] => do
    some ⟨← word256? chainId, ← target.fixed? 20, ← word64? nonce, ← word8? parity, ← word256? r,
      ← word256? s⟩
  | _ => none

def delegations? (item : Item) : Option (List Delegation) := do (← item.list?).mapM delegation?

def sidecar? : List Item → Option Sidecar
  | [.bytes [1], blobs, commitments, proofs] => do
    some ⟨true, ← fixedItems? 131072 blobs, ← fixedItems? 48 commitments, ← fixedItems? 48 proofs⟩
  | [blobs, commitments, proofs] => do
    some ⟨false, ← fixedItems? 131072 blobs, ← fixedItems? 48 commitments, ← fixedItems? 48 proofs⟩
  | _ => none

def odd? (item : Item) : Option Bool :=
  match item.nat? 1 with
  | some 0 => some false
  | some 1 => some true
  | _ => none

def chainAndParity? (v : Nat) : Option (Option UInt64 × Bool) :=
  if v = 27 then some (none, false)
  else if v = 28 then some (none, true)
  else if 35 ≤ v then
    if (v - 35) / 2 < UInt64.size then
      some (some (UInt64.ofNat ((v - 35) / 2)), (v - 35) % 2 == 1)
    else none
  else none

def signature? (v r s : Item) : Option Signature := do
  some ⟨← word256? r, ← word256? s, ← odd? v⟩

def plain? : List Item → Option Envelope
  | [nonce, gasPrice, gasLimit, recipient, value, data, v, r, s] => do
    let nonce ← word64? nonce
    let gasPrice ← word128? gasPrice
    let gasLimit ← word64? gasLimit
    let recipient ← recipient? recipient
    let value ← word256? value
    let data ← data.bytes?
    let (chainId, odd) ← chainAndParity? (← v.nat? 16)
    let r ← word256? r
    let s ← word256? s
    some ⟨⟨.plain chainId gasPrice, nonce, gasLimit, recipient, value, data⟩, ⟨r, s, odd⟩⟩
  | _ => none

def listed? : List Item → Option Envelope
  | [chainId, nonce, gasPrice, gasLimit, recipient, value, data, accessList, v, r, s] => do
    let form := Form.listed (← word64? chainId) (← word128? gasPrice) (← accessList? accessList)
    let payload : Payload :=
      ⟨form, ← word64? nonce, ← word64? gasLimit, ← recipient? recipient, ← word256? value,
        ← data.bytes?⟩
    some ⟨payload, ← signature? v r s⟩
  | _ => none

def dynamic? : List Item → Option Envelope
  | [chainId, nonce, tip, maxFee, gasLimit, recipient, value, data, accessList, v, r, s] => do
    let form := Form.dynamic (← word64? chainId) (← word128? maxFee) (← word128? tip)
      (← accessList? accessList)
    let payload : Payload :=
      ⟨form, ← word64? nonce, ← word64? gasLimit, ← recipient? recipient, ← word256? value,
        ← data.bytes?⟩
    some ⟨payload, ← signature? v r s⟩
  | _ => none

def bare? (sidecar : Option Sidecar) : List Item → Option Envelope
  | [chainId, nonce, tip, maxFee, gasLimit, recipient, value, data, accessList, blobFee, hashes, v,
      r, s] => do
    let form := Form.blobs (← word64? chainId) (← word128? maxFee) (← word128? tip)
      (← accessList? accessList) (← word128? blobFee) (← fixedItems? 32 hashes) sidecar
    let payload : Payload :=
      ⟨form, ← word64? nonce, ← word64? gasLimit, some (← recipient.fixed? 20), ← word256? value,
        ← data.bytes?⟩
    some ⟨payload, ← signature? v r s⟩
  | _ => none

/-- A list in front is a transaction that its blobs follow. -/
def blobs? : List Item → Option Envelope
  | .list items :: rest => do bare? (some (← sidecar? rest)) items
  | items => bare? none items

def delegating? : List Item → Option Envelope
  | [chainId, nonce, tip, maxFee, gasLimit, recipient, value, data, accessList, delegations, v, r,
      s] => do
    let form := Form.delegating (← word64? chainId) (← word128? maxFee) (← word128? tip)
      (← accessList? accessList) (← delegations? delegations)
    let payload : Payload :=
      ⟨form, ← word64? nonce, ← word64? gasLimit, some (← recipient.fixed? 20), ← word256? value,
        ← data.bytes?⟩
    some ⟨payload, ← signature? v r s⟩
  | _ => none

def fromList? (read : List Item → Option Envelope) (b : Bytes) : Option (Envelope × Bytes) := do
  let (item, rest) ← Rlp.read? b
  some (← read (← item.list?), rest)

def decode? : Bytes → Option (Envelope × Bytes)
  | [] => none
  | d :: rest =>
    if 0x7f < d then fromList? plain? (d :: rest)
    else if d = 1 then fromList? listed? rest
    else if d = 2 then fromList? dynamic? rest
    else if d = 3 then fromList? blobs? rest
    else if d = 4 then fromList? delegating? rest
    else none

end Envelope

namespace Draft

def form (tx : Draft) : Form :=
  match tx.fees with
  | .legacy gasPrice => .plain (some tx.chainId) gasPrice
  | .dynamic maxFee tip => .dynamic tx.chainId maxFee tip []

def payload (tx : Draft) : Payload :=
  { form := tx.form
    nonce := tx.nonce
    gasLimit := tx.gasLimit
    recipient := some tx.recipient
    value := tx.value
    data := tx.data }

def signingBytes (tx : Draft) : Bytes := tx.payload.signingBytes

def signingHash (tx : Draft) : Hash := tx.payload.signingHash

def signed (tx : Draft) (signature : Signature) : SignedTransaction :=
  let e : Envelope := ⟨tx.payload, signature⟩
  { raw := e.encode, hash := e.hash, signature }

/-- The first field of an envelope that differs from the draft. Fees are not compared. -/
def mismatch? (tx : Draft) (e : Envelope) : Option Mismatch :=
  let p := e.payload
  if p.nonce ≠ tx.nonce then some (.nonce p.nonce tx.nonce)
  else if p.recipient ≠ some tx.recipient then some (.recipient p.recipient tx.recipient)
  else if p.value ≠ tx.value then some (.value p.value tx.value)
  else if p.data ≠ tx.data then some .data
  else if p.form.chainId? ≠ some tx.chainId then some (.chainId p.form.chainId? tx.chainId)
  else if p.gasLimit ≠ tx.gasLimit then some (.gasLimit p.gasLimit tx.gasLimit)
  else none

end Draft

end Dispatch

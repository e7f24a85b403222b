import Dispatch.JsonRpc.Gateway
import Dispatch.Proofs.DraftText
import Dispatch.Proofs.FreeFormText
import Dispatch.Proofs.OutsideCourse
import Mathlib.Algebra.Group.Nat.Defs

/-!
# What the replies of a node say

An answer that came through a gateway is the result that one reply over HTTP carries. The receipt of
a transaction is read off the members of an object, and is of the first block if these name none.
-/

set_option autoImplicit false

namespace Dispatch.JsonRpc
open Program (Environment Event Moment Leads)

/-- The reply is a success and carries the result. -/
structure Gives (reply : Http.Reply) (result : Json.Tree) : Prop where
  success : Http.isSuccess reply.status = true
  body : ∃ bytes whole, reply.body = .ok bytes ∧ Json.readBytes? bytes = some whole ∧
    payload? whole = some (.ok result)

theorem Gives.unique {reply : Http.Reply} {result result' : Json.Tree} (h : Gives reply result)
    (h' : Gives reply result') : result = result' := by
  obtain ⟨bytes, whole, body, read, payload⟩ := h.body
  obtain ⟨bytes', whole', body', read', payload'⟩ := h'.body
  cases body.symm.trans body'
  cases read.symm.trans read'
  cases payload.symm.trans payload'
  rfl

theorem unpack_ok_iff {α : Type} {read : Json.Tree → Option α} {reply : Http.Reply} {a : α} :
    unpack read reply = .ok a ↔ ∃ result, Gives reply result ∧ read result = some a := by
  constructor
  · intro h
    unfold unpack at h
    split at h
    · cases h
    next bytes body =>
    split at h
    · cases h
    next success =>
    split at h
    · cases h
    · cases h
    next result parsed =>
    split at h
    next value =>
      cases h
      obtain ⟨whole, read, payload⟩ := Option.bind_eq_some_iff.mp parsed
      exact ⟨result, ⟨by simpa using success, bytes, whole, body, read, payload⟩, value⟩
    · cases h
  · rintro ⟨result, ⟨success, bytes, whole, body, read, payload⟩, value⟩
    simp only [unpack, body, success, read, Option.bind_some, payload, value, Bool.true_eq_false,
      if_false]

/-! ## Receipts -/

/-- The members of a receipt name its block. -/
def Named (members : List (Json.Literal × Json.Tree)) (block : UInt64) : Prop :=
  ∃ t, Json.single? "blockNumber" members = some (some t) ∧ word64? t = some block

/-- The block in which the members of a receipt place it: the one they name, or the first if they
name none. -/
inductive Placed (members : List (Json.Literal × Json.Tree)) : UInt64 → Prop
  | named {block : UInt64} (named : Named members block) : Placed members block
  | unnamed (lacks : Json.Lacks members "blockNumber") : Placed members 0

theorem optional?_read {α : Type} {read : Json.Tree → Option α} {field : Option Json.Tree}
    {x : Option α} (h : Json.optional? read field = some x) :
    (field = none ∨ field = some .null) ∧ x = none ∨
      ∃ t a, field = some t ∧ read t = some a ∧ x = some a := by
  cases field with
  | none =>
    cases h
    exact .inl ⟨.inl rfl, rfl⟩
  | some t =>
    cases t with
    | null =>
      cases h
      exact .inl ⟨.inr rfl, rfl⟩
    | _ =>
      obtain ⟨a, value, rfl⟩ := Option.map_eq_some_iff.mp h
      exact .inr ⟨_, a, rfl, value, rfl⟩

theorem nullable?_some {α : Type} {read : Json.Tree → Option α} {t : Json.Tree} {a : α}
    (h : nullable? read t = some (some a)) : read t = some a := by
  rcases optional?_read h with ⟨-, none⟩ | ⟨_, _, same, value, found⟩
  · cases none
  · cases same
    cases found
    exact value

theorem checked?_some {fields : List (String × (Option Json.Tree → Bool))} {t : Json.Tree}
    {field : String → Option (Option Json.Tree)} (h : checked? fields t = some field) :
    ∃ members, t = .object members ∧ field = fun name => Json.single? name members := by
  cases t with
  | object members =>
    rw [checked?] at h
    split at h
    · exact ⟨members, rfl, (Option.some.inj h).symm⟩
    · cases h
  | _ => cases h

theorem checked?_object {fields : List (String × (Option Json.Tree → Bool))}
    {members : List (Json.Literal × Json.Tree)} {value : String → Option Json.Tree}
    (free : (freeform? (.object members)).isSome)
    (single : ∀ name, Json.single? name members = some (value name))
    (all : ∀ r ∈ fields, r.2 (value r.1) = true) :
    checked? fields (.object members) = some fun name => some (value name) := by
  simp only [checked?, single]
  exact if_pos ⟨free, List.all_eq_true.mpr all⟩

theorem receipt?_placed {t : Json.Tree} {receipt : Receipt} (h : receipt? t = some receipt) :
    ∃ members, t = .object members ∧ Placed members receipt.blockNumber := by
  unfold receipt? at h
  obtain ⟨field, checked, h⟩ := Option.bind_eq_some_iff.mp h
  obtain ⟨members, rfl, rfl⟩ := checked?_some checked
  simp only [Option.bind_eq_bind, Option.bind_eq_some_iff, Option.some.injEq] at h
  obtain ⟨_, -, hash, -, success, -, _, -, gasUsed, -, number, single, block, value, _, -,
    blockHash, -, rfl⟩ := h
  refine ⟨members, rfl, ?_⟩
  rcases optional?_read value with ⟨missing, rfl⟩ | ⟨t, n, rfl, number, rfl⟩
  · apply Placed.unnamed
    rcases missing with rfl | rfl
    · exact .inl single
    · exact .inr single
  · exact .named ⟨t, single, number⟩

/-! ## The gateway in place of the node -/

namespace Gateway

def post (g : Gateway) (id : Nat) (q : NodeQuestion) : Http.Request :=
  { method := .post, url := g.url, headers := [("Content-Type", "application/json")]
    body := Bytes.ofText ((request q).body id).render, identity := none }

def replied (g : Gateway) (t id : Nat) (q : NodeQuestion) (reply : Http.Reply) : Event Outside :=
  .asked t (.http (g.post id q)) (Except.ok (ε := String) reply)

def serve (g : Gateway) : (q : OutsideQuestion) → Nat → Program Outside (q.Answer × Nat)
  | .node q, id => g.answer q id
  | q, id => .ask (I := Outside) q fun a => .done (a, id)

variable {g : Gateway} {σ α : Type} {env : Environment Outside σ} {u v : Moment σ}
  {es : List (Event Outside)} {id id' : Nat}

theorem exchange_ok {q : NodeQuestion} {read : Json.Tree → Option α} {a : α}
    (h : (g.exchange id (request q) read).Leads env u es (.ok a) v) :
    ∃ reply result, es = [g.replied u.time id q reply] ∧ Gives reply result ∧
      read result = some a := by
  obtain ⟨es₁, answer, w, es₂, asked, rest, rfl⟩ := Program.leads_bind.mp h
  cases answer with
  | error why => cases (Program.leads_done.mp rest).2.1
  | ok reply =>
    obtain ⟨rfl, unpacked, -⟩ := Program.leads_done.mp rest
    obtain ⟨result, gives, value⟩ := unpack_ok_iff.mp unpacked.symm
    rcases Outside.http_cases asked with rfl | ⟨-, why, refused⟩
    · exact ⟨reply, result, rfl, gives, value⟩
    · cases refused

theorem exchange_leads {q : NodeQuestion} {read : Json.Tree → Option α} {reply : Http.Reply}
    (requestable : Url.isRequestable g.url = true)
    (answered : (env (.http (g.post id q)) u.time u.state).answer = Except.ok (ε := String) reply) :
    (g.exchange id (request q) read).Leads env u [g.replied u.time id q reply] (unpack read reply)
      (u.after env (.http (g.post id q))) := by
  refine Program.leads_bind.mpr ⟨_, .ok reply, _, [], ?_, Program.leads_done.mpr ⟨rfl, rfl, rfl⟩,
    (List.append_nil _).symm⟩
  unfold Outside.http
  rw [if_pos requestable]
  refine Program.leads_ask_done.mpr ⟨answered.symm, ?_, rfl⟩
  exact congrArg (fun a => [Program.Event.asked (I := Outside) u.time (.http (g.post id q)) a])
    answered.symm

theorem failureFor_ok {purpose : String} {x : Except Fault α} {a : α}
    (h : failureFor purpose x = .ok a) :
    x = .ok a := by
  cases x with
  | ok b =>
    cases h
    rfl
  | error fault => cases h

theorem answer_ok {q : NodeQuestion} {purpose : String} {read : Json.Tree → Option α} {a : α}
    (h : ((failureFor purpose <$> g.exchange id (request q) read).bind fun r =>
      .done (r, id + 1)).Leads env u es
      (.ok a, id') v) :
    ∃ reply result, es = [g.replied u.time id q reply] ∧ Gives reply result ∧
      read result = some a := by
  obtain ⟨r, named, result⟩ := Program.leads_bind_done.mp h
  obtain ⟨x, exchanged, rfl⟩ := Program.leads_bind_done.mp named
  rw [failureFor_ok (Prod.mk.inj result).1.symm] at exchanged
  exact exchange_ok exchanged

theorem answer_leads {q : NodeQuestion} {purpose : String} {read : Json.Tree → Option α}
    {reply : Http.Reply} {result : Json.Tree} {a : α} (requestable : Url.isRequestable g.url = true)
    (answered : (env (.http (g.post id q)) u.time u.state).answer = Except.ok (ε := String) reply)
    (gives : Gives reply result) (value : read result = some a) :
    ((failureFor purpose <$> g.exchange id (request q) read).bind fun r => .done (r, id + 1)).Leads
      env u
      [g.replied u.time id q reply] (.ok a, id + 1)
      (u.after env (.http (g.post id q))) := by
  have exchanged : (g.exchange id (request q) read).Leads env u _ (unpack read reply) _ :=
    exchange_leads requestable answered
  rw [unpack_ok_iff.mpr ⟨result, gives, value⟩] at exchanged
  have named : (failureFor purpose <$> g.exchange id (request q) read).Leads env u
      [g.replied u.time id q reply] (.ok a) (u.after env (.http (g.post id q))) :=
    Program.leads_bind_done.mpr ⟨_, exchanged, rfl⟩
  exact Program.leads_bind_done.mpr ⟨_, named, rfl⟩

theorem serve_node (q : NodeQuestion) :
    g.serve (.node q) id = (g.reply id q).bind fun a => .done (a, id + 1) := rfl

theorem serve_receipt {hash : Hash} {receipt : Receipt}
    (h : (g.serve (.node (.receipt hash)) id).Leads env u es (.ok (some receipt), id') v) :
    ∃ reply members, es = [g.replied u.time id (.receipt hash) reply] ∧
      Gives reply (.object members) ∧ receipt? (.object members) = some receipt ∧
      Placed members receipt.blockNumber := by
  rw [serve_node] at h
  obtain ⟨reply, result, asked, gives, read⟩ := answer_ok h
  have read := nullable?_some read
  obtain ⟨members, rfl, placed⟩ := receipt?_placed read
  exact ⟨reply, members, asked, gives, read, placed⟩

theorem serve_blockNumber {n : UInt64}
    (h : (g.serve (.node .blockNumber) id).Leads env u es (.ok n, id') v) :
    ∃ reply result, es = [g.replied u.time id .blockNumber reply] ∧
      Gives reply result ∧ word64? result = some n := by
  rw [serve_node] at h
  exact answer_ok h

end Gateway

/-! ## Replies that are written -/

theorem word256?_quantityJson {n : Nat} (h : n < 2 ^ 256) :
    Json.word256? (quantityJson n).toTree = some (.ofNat 256 n) := by
  have read := Json.word256?_quantity (.ofNat 256 n)
  rwa [BitVec.toNat_ofNat, Nat.mod_eq_of_lt h] at read

theorem nat?_quantityJson {bound n : Nat} (h : n < bound) (wide : n < 2 ^ 256) :
    nat? bound (quantityJson n).toTree = some n := by
  simp only [nat?, word256?_quantityJson wide, Option.bind_eq_bind, Option.bind_some,
    BitVec.toNat_ofNat, Nat.mod_eq_of_lt wide]
  rw [if_pos h]

theorem word64?_quantityJson {n : Nat} (h : n < UInt64.size) :
    word64? (quantityJson n).toTree = some (.ofNat n) := by
  rw [word64?, nat?_quantityJson h (Nat.lt_trans h (by decide)), Option.map_some]

def resultReply (result : Json) : Http.Reply :=
  ⟨200, .ok (Bytes.ofText (Json.object
    [("id", .integer 0), ("jsonrpc", .string "2.0"), ("result", result)]).render)⟩

theorem gives_resultReply {result : Json} (whole : result.Whole) :
    Gives (resultReply result) result.toTree where
  success := rfl
  body := by
    have read := Json.readBytes?_render
      (v := .object [("id", .integer 0), ("jsonrpc", .string "2.0"), ("result", result)])
      ⟨trivial, trivial, whole, trivial⟩
    exact ⟨_, _, rfl, read, rfl⟩

def blankBloom : Json := .string (Hex.marked (FixedBytes.zero : FixedBytes 256).toList)

def blockJson : Option UInt64 → Json
  | some n => quantityJson n.toNat
  | none => .null

theorem optional?_blockJson (block : Option UInt64) :
    Json.optional? word64? (some (blockJson block).toTree) = some block := by
  cases block with
  | none => rfl
  | some n =>
    have read : word64? (quantityJson n.toNat).toTree = some n := by
      rw [word64?_quantityJson n.toNat_lt, UInt64.ofNat_toNat]
    exact congrArg (Option.map some) read

def receiptMembers (block : Option UInt64) : List (String × Json) :=
  [("blockNumber", blockJson block), ("cumulativeGasUsed", quantityJson 0),
   ("effectiveGasPrice", quantityJson 0), ("from", addressJson .zero), ("gasUsed", quantityJson 0),
   ("logs", .array []), ("logsBloom", blankBloom), ("status", quantityJson 1),
   ("transactionHash", hashJson .zero), ("type", .string "0x0")]

section
variable (block : Option UInt64)

theorem storable_receiptMembers : Json.Storable (.object (receiptMembers block)) := by
  refine ⟨?_, ?_⟩
  · have names : ((receiptMembers block).map Prod.fst).Pairwise (· < ·) := by
      show ["blockNumber", "cumulativeGasUsed", "effectiveGasPrice", "from", "gasUsed", "logs",
        "logsBloom", "status", "transactionHash", "type"].Pairwise (· < ·)
      decide
    exact List.pairwise_map.mp names
  · cases block <;> simp [Json.StorableMembers, Json.StorableItems, Json.Storable, receiptMembers,
      blockJson, quantityJson, addressJson, hashJson, blankBloom]

theorem freeform?_receiptMembers :
    (freeform? (.object (Json.memberTrees (receiptMembers block)))).isSome := by
  have shallow : Json.depth (.object (receiptMembers block)) < Json.depthLimit := by
    cases block <;> simp [Json.depth, Json.depthMembers, Json.depthItems, receiptMembers, blockJson,
      quantityJson, addressJson, hashJson, blankBloom, Json.depthLimit]
  have read := Json.ofTree?_toTree _ (storable_receiptMembers block) Json.depthLimit (by decide)
  rw [if_pos shallow] at read
  exact Option.isSome_of_eq_some read

theorem single?_receiptMembers (name : String) :
    Json.single? name (Json.memberTrees (receiptMembers block)) =
      some (((receiptMembers block).lookup name).map Json.toTree) :=
  Json.single?_memberTrees (storable_receiptMembers block).1.nodup name

theorem must_lookup {α : Type} {read : Json.Tree → Option α} {members : List (String × Json)}
    {name : String} {v : Json} {a : α} (member : members.lookup name = some v)
    (h : read v.toTree = some a) : must read ((members.lookup name).map Json.toTree) = true := by
  rw [member]
  exact Option.isSome_of_eq_some h

theorem may_absent {α : Type} {read : Json.Tree → Option α} {members : List (String × Json)}
    {name : String} (absent : members.lookup name = none) :
    may read ((members.lookup name).map Json.toTree) = true := by
  rw [absent]
  rfl

theorem receipt?_receiptMembers :
    receipt? (Json.object (receiptMembers block)).toTree =
      some { hash := .zero, success := true, gasUsed := 0, blockNumber := block.getD 0
             blockHash := none } := by
  have account : Json.address? (addressJson .zero).toTree = some .zero :=
    Json.fixed?_marked (FixedBytes.zero : Address)
  have bloom : Json.fixed? 256 blankBloom.toTree = some .zero :=
    Json.fixed?_marked (FixedBytes.zero : FixedBytes 256)
  have hash : Json.hash? (hashJson .zero).toTree = some .zero :=
    Json.fixed?_marked (FixedBytes.zero : Hash)
  have gas : word64? (quantityJson 0).toTree = some 0 := word64?_quantityJson (by decide)
  have price : word128? (quantityJson 0).toTree = some 0 :=
    congrArg (Option.map (BitVec.ofNat 128)) (nat?_quantityJson (by decide) (by decide))
  have status : nat? 2 (quantityJson 1).toTree = some 1 :=
    nat?_quantityJson (by decide) (by decide)
  have unhashed : Json.optional? Json.hash? none = some none := rfl
  have members : checked?
      [("type", must type?), ("from", must Json.address?), ("to", may Json.address?),
       ("contractAddress", may Json.address?), ("transactionIndex", may word64?),
       ("cumulativeGasUsed", must word64?), ("effectiveGasPrice", must word128?),
       ("blobGasUsed", may word64?), ("blobGasPrice", may word128?), ("logs", must (array? log?)),
       ("logsBloom", must (Json.fixed? 256))]
      (.object (Json.memberTrees (receiptMembers block))) =
      some fun name => some (((receiptMembers block).lookup name).map Json.toTree) := by
    apply checked?_object (freeform?_receiptMembers block) (single?_receiptMembers block)
    simp only [List.forall_mem_cons, List.not_mem_nil, false_implies, implies_true, and_true]
    exact ⟨must_lookup rfl (show type? (.string (some "0x0")) = some 0 from rfl),
      must_lookup rfl account, may_absent rfl, may_absent rfl, may_absent rfl, must_lookup rfl gas,
      must_lookup rfl price, may_absent rfl, may_absent rfl,
      must_lookup rfl (show array? log? (.array []) = some [] from rfl), must_lookup rfl bloom⟩
  rw [Json.toTree]
  simp only [receipt?, members, Option.bind_eq_bind, Option.bind_some]
  simp [receiptMembers, Json.lookup_cons, Json.required?, hash, gas, success?, status,
    optional?_blockJson, unhashed]

end

end Dispatch.JsonRpc

import Dispatch.Proofs.Course
import Dispatch.Proofs.JsonMembers
import Dispatch.Proofs.JsonText
import Dispatch.Proofs.Utf8
import Dispatch.Wallet.Remote

/-!
# Drafts in text

A draft is read back from its text, and from the text of it inside of a request to a signing
service. Of an object whose fields have values of their types, the fees alone decide whether it is
a draft.
-/

set_option autoImplicit false

namespace Dispatch

/-! ## Values -/

namespace Json

theorem word64?_toTree (x : UInt64) : word64? (toTree (.integer x.toNat)) = some x := by
  rw [word64?, natBelow?_toTree x.toNat_lt, Option.map_some, UInt64.ofNat_toNat]

theorem word128?_toTree (x : BitVec 128) : word128? (toTree (.integer x.toNat)) = some x := by
  have bound : x.toNat < Nat.pow 2 128 := x.isLt
  rw [word128?, natBelow?_toTree bound, Option.map_some, BitVec.ofNat_toNat, BitVec.setWidth_eq]

theorem bytes?_marked (b : Bytes) : bytes? (toTree (.string (Hex.marked b))) = some b :=
  Hex.read?_marked b

theorem fixed?_marked {n : Nat} (x : FixedBytes n) :
    fixed? n (toTree (.string (Hex.marked x.toList))) = some x := by
  rw [fixed?, bytes?_marked, Option.bind_some, FixedBytes.ofBytes?_toList]

theorem word256?_quantity (x : BitVec 256) : word256? (toTree (.string (Hex.quantity x.toNat))) =
    some x := by
  have split : splitRadix (Hex.quantity x.toNat).toList = (16, Hex.quantityDigits x.toNat) := by
    simp [Hex.quantity, splitRadix]
  rw [toTree, word256?, split]
  exact (Hex.spells_quantityDigits x.toNat).scalar?

end Json

namespace Draft

theorem distinct_members (tx : Draft) : (tx.members.map Prod.fst).Nodup := by
  cases h : tx.fees <;> simp [members, feeMembers, h]

theorem whole_toJson (tx : Draft) : Json.Whole tx.toJson := by
  cases h : tx.fees <;> simp [toJson, members, feeMembers, h, Json.Whole, Json.WholeMembers]

open Json (required? optional?)

theorem flat?_of_fields {t : Json.Tree} {field : String → Option Json.Tree} (tx : Draft)
    {gasPrice maxFee tip : Option (BitVec 128)}
    (fields : Json.fields? fieldNames t = some (fieldNames.map field))
    (sender : required? Json.address? (field "from") = some tx.sender)
    (recipient : required? Json.address? (field "to") = some tx.recipient)
    (value : required? Json.word256? (field "value") = some tx.value)
    (data : required? Json.bytes? (field "data") = some tx.data)
    (gasLimit : required? Json.word64? (field "gas") = some tx.gasLimit)
    (nonce : required? Json.word64? (field "nonce") = some tx.nonce)
    (chainId : required? Json.word64? (field "chainId") = some tx.chainId)
    (price : optional? Json.word128? (field "gasPrice") = some gasPrice)
    (ceiling : optional? Json.word128? (field "maxFeePerGas") = some maxFee)
    (priority : optional? Json.word128? (field "maxPriorityFeePerGas") = some tip) :
    flat? t = some ⟨fun fees => { tx with fees }, gasPrice, maxFee, tip⟩ := by
  unfold flat?
  rw [fields]
  simp only [fieldNames, List.map_cons, List.map_nil, Option.bind_eq_bind, Option.bind_some, sender,
    recipient,
    value, data, gasLimit, nonce, chainId, price, ceiling, priority]

theorem fees?_toTree (tx : Draft) :
    ∃ gasPrice maxFee tip, fees? gasPrice maxFee tip = some tx.fees ∧
      optional? Json.word128? ((tx.members.lookup "gasPrice").map Json.toTree) = some gasPrice ∧
      optional? Json.word128? ((tx.members.lookup "maxFeePerGas").map Json.toTree) = some maxFee ∧
      optional? Json.word128? ((tx.members.lookup "maxPriorityFeePerGas").map Json.toTree) =
        some tip := by
  have given (x : BitVec 128) : optional? Json.word128? (some (Json.toTree (.integer x.toNat))) =
    some (some x) := by
    show (Json.word128? (Json.toTree (.integer x.toNat))).map some = _
    rw [Json.word128?_toTree, Option.map_some]
  have absent : optional? Json.word128? none = some none := rfl
  cases h : tx.fees with
  | legacy gasPrice =>
    refine ⟨some gasPrice, none, none, rfl, ?_, ?_, ?_⟩ <;>
      simp [members, feeMembers, h, Json.lookup_cons, given, absent]
  | dynamic maxFee tip =>
    refine ⟨none, some maxFee, some tip, rfl, ?_, ?_, ?_⟩ <;>
      simp [members, feeMembers, h, Json.lookup_cons, given, absent]

theorem ofTree_toTree (tx : Draft) : ofTree tx.toJson.toTree = .ok tx := by
  obtain ⟨gasPrice, maxFee, tip, told, price, ceiling, priority⟩ := tx.fees?_toTree
  have flat := flat?_of_fields tx (Json.fields?_object tx.distinct_members fieldNames)
    (Json.fixed?_marked tx.sender) (Json.fixed?_marked tx.recipient)
      (Json.word256?_quantity tx.value)
    (Json.bytes?_marked tx.data) (Json.word64?_toTree tx.gasLimit) (Json.word64?_toTree tx.nonce)
    (Json.word64?_toTree tx.chainId) price ceiling priority
  rw [ofTree, toJson, flat]
  simp only [told]

theorem read_of_read? {cs : List Char} {t : Json.Tree} (h : Json.read? cs = some t) :
    read cs = ofTree t := by
  unfold Json.read? at h
  split at h
  next tree rest found =>
    split at h
    next blank =>
      cases h
      rw [read, found]
      cases judged : ofTree t with
      | error fault => simp only [judged]
      | ok tx => simp only [judged, blank, if_true]
    · cases h
  · cases h

theorem read_render (tx : Draft) : read tx.toJson.render.toList = .ok tx := by
  rw [read_of_read? (Json.read?_render tx.whole_toJson), ofTree_toTree]

/-! ## Objects with typed fields -/

/-- Every field of a draft stands once with a value of its type, or, where it belongs to the fees,
may be absent or null. Other members do not matter. -/
structure WellTyped (members : List (Json.Literal × Json.Tree)) : Prop where
  named : ∀ m ∈ members, m.1.isSome = true
  sender : Json.Holds Json.address? members "from"
  recipient : Json.Holds Json.address? members "to"
  value : Json.Holds Json.word256? members "value"
  data : Json.Holds Json.bytes? members "data"
  gasLimit : Json.Holds Json.word64? members "gas"
  nonce : Json.Holds Json.word64? members "nonce"
  chainId : Json.Holds Json.word64? members "chainId"
  gasPrice : Json.Lacks members "gasPrice" ∨ Json.Holds Json.word128? members "gasPrice"
  maxFee : Json.Lacks members "maxFeePerGas" ∨ Json.Holds Json.word128? members "maxFeePerGas"
  tip : Json.Lacks members "maxPriorityFeePerGas" ∨
    Json.Holds Json.word128? members "maxPriorityFeePerGas"

/-- The fee members are those of one fee model. -/
def TellsFees (members : List (Json.Literal × Json.Tree)) : Prop :=
  (Json.Holds Json.word128? members "gasPrice" ∧ Json.Lacks members "maxFeePerGas" ∧
    Json.Lacks members "maxPriorityFeePerGas") ∨
  (Json.Lacks members "gasPrice" ∧ Json.Holds Json.word128? members "maxFeePerGas" ∧
    Json.Holds Json.word128? members "maxPriorityFeePerGas")

theorem fees?_isSome_iff {gasPrice maxFee tip : Option (BitVec 128)} :
    (fees? gasPrice maxFee tip).isSome ↔
      (gasPrice.isSome ∧ maxFee = none ∧ tip = none) ∨
        (gasPrice = none ∧ maxFee.isSome ∧ tip.isSome) := by
  cases gasPrice <;> cases maxFee <;> cases tip <;> simp [fees?]

theorem WellTyped.flat? {members : List (Json.Literal × Json.Tree)} (h : WellTyped members) :
    ∃ base gasPrice maxFee tip, flat? (.object members) = some ⟨base, gasPrice, maxFee, tip⟩ ∧
      ((fees? gasPrice maxFee tip).isSome ↔ TellsFees members) := by
  obtain ⟨sender, a, ha⟩ := h.sender.required?
  obtain ⟨recipient, b, hb⟩ := h.recipient.required?
  obtain ⟨value, v, hv⟩ := h.value.required?
  obtain ⟨data, d, hd⟩ := h.data.required?
  obtain ⟨gasLimit, g, hg⟩ := h.gasLimit.required?
  obtain ⟨nonce, n, hn⟩ := h.nonce.required?
  obtain ⟨chainId, c, hc⟩ := h.chainId.required?
  obtain ⟨price, gasPrice, hp, price_some, price_none⟩ := Json.optional?_cases h.gasPrice rfl
  obtain ⟨ceiling, maxFee, hm, ceiling_some, ceiling_none⟩ := Json.optional?_cases h.maxFee rfl
  obtain ⟨priority, tip, ht, priority_some, priority_none⟩ := Json.optional?_cases h.tip rfl
  have fields :
    Json.fields? fieldNames (.object members) = some (fieldNames.map (Json.field members)) := by
    apply Json.fields?_of_single fieldNames (Json.field members) h.named
    simp only [fieldNames, List.forall_mem_cons, List.not_mem_nil, false_implies, implies_true,
      and_true]
    exact ⟨sender, recipient, value, data, gasLimit, nonce, chainId, price, ceiling, priority⟩
  refine ⟨_, gasPrice, maxFee, tip,
    flat?_of_fields ⟨a, b, v, d, g, n, c, .legacy 0⟩ fields ha hb hv hd hg hn hc hp hm ht, ?_⟩
  rw [fees?_isSome_iff, price_some, price_none, ceiling_some, ceiling_none, priority_some,
    priority_none]
  rfl

theorem WellTyped.ofTree {members : List (Json.Literal × Json.Tree)} (h : WellTyped members) :
    (TellsFees members ∧ ∃ tx, ofTree (.object members) = .ok tx) ∨
      (¬ TellsFees members ∧ ofTree (.object members) = .error .feeModel) := by
  obtain ⟨base, gasPrice, maxFee, tip, flat, told⟩ := h.flat?
  rw [Draft.ofTree, flat, ← told]
  cases judged : fees? gasPrice maxFee tip with
  | none => exact .inr ⟨nofun, by simp only [judged]⟩
  | some fees => exact .inl ⟨rfl, base fees, by simp only [judged]⟩

end Draft

/-! ## Requests to a signing service -/

namespace Remote
open Program (Only)

/-- The body is the text of an object in which the text of the draft stands as a string. -/
def CarriesDraft (tx : Draft) (body : Bytes) : Prop :=
  ∃ text members dict, body.toText? = some text ∧ Json.read? text.toList = some (.object members) ∧
    Json.single? "transaction_dict" members = some (some (.string (some dict))) ∧
    Draft.read dict.toList = .ok tx

def Posts (tx : Draft) : OutsideQuestion → Prop
  | .http request => CarriesDraft tx request.body
  | _ => True

theorem transactionBody_members (tx : Draft) {hints : Option Hints}
    (unscaled : hints.bind Hints.multiplier = none) :
    ∃ members, transactionBody tx hints = .object members ∧ Json.WholeMembers members ∧
      (members.map Prod.fst).Nodup ∧
        members.lookup "transaction_dict" = some (.string tx.toJson.render) := by
  refine ⟨_, rfl, ?_⟩
  rw [unscaled]
  cases hints.bind Hints.priority <;> cases hints.bind Hints.operation <;>
    simp [Json.WholeMembers, Json.Whole]

theorem carriesDraft_transactionBody (tx : Draft) {hints : Option Hints}
    (unscaled : hints.bind Hints.multiplier = none) :
    CarriesDraft tx (Bytes.ofText (transactionBody tx hints).render) := by
  obtain ⟨members, body, whole, distinct, dict⟩ := transactionBody_members tx unscaled
  refine ⟨_, Json.memberTrees members, tx.toJson.render, Bytes.toText?_ofText _, ?_, ?_,
    tx.read_render⟩
  · rw [body]
    exact Json.read?_render whole
  · rw [Json.single?_memberTrees distinct, dict]
    rfl

theorem Service.exchange_only {α : Type} {P : OutsideQuestion → Prop} (s : Service)
    (read : Json.Tree → Option α) {request : Http.Request}
    (h : P (.http request)) : Only P (s.exchange read request).run := by
  refine Only.bindExcept (Only.liftExcept ?_) fun answer => ?_
  · unfold Outside.http
    split
    · exact ⟨h, fun _ => trivial⟩
    · trivial
  · cases answer <;> trivial

theorem Service.postHeaders_only (s : Service) (path body : String) :
    Only (fun q => q = OutsideQuestion.date) (s.postHeaders path body).run := by
  unfold postHeaders
  cases s.access with
  | none => trivial
  | some access =>
    refine Only.bindExcept (Only.liftExcept ⟨rfl, fun _ => trivial⟩) fun now => ?_
    dsimp only
    split <;> trivial

theorem Service.post_only {α : Type} {P : OutsideQuestion → Prop} (s : Service) (path : String)
    {body : Json} (read : Json.Tree → Option α) (date : P .date)
    (posts : ∀ request : Http.Request, request.body = Bytes.ofText body.render →
      P (.http request)) :
    Only P (s.post path body read).run := by
  have headers := (s.postHeaders_only path body.render).mono (Q := P) (by rintro _ rfl; exact date)
  exact Only.bindExcept headers fun headers => s.exchange_only read (posts _ rfl)

end Remote

open Remote in
theorem RemoteWallet.sign_posts (w : RemoteWallet) (tx : Draft) :
    Program.Only (Posts tx) (w.sign tx).run := by
  unfold sign
  split
  · trivial
  · refine Program.Only.bindExcept (w.service.post_only "/sign" _ trivial ?_) fun raw => ?_
    · intro request body
      show CarriesDraft tx request.body
      rw [body]
      exact carriesDraft_transactionBody tx rfl
    · split <;> trivial

open Remote in
theorem RemoteWallet.send_posts (w : RemoteWallet) (tx : Draft) {hints : Hints}
    (unscaled : hints.multiplier = none) :
    Program.Only (Posts tx) (w.send tx hints).run := by
  unfold send
  split
  · trivial
  · refine Program.Only.bindExcept (w.service.post_only "/sign-and-send" _ trivial ?_) fun raw =>
      trivial
    intro request body
    show CarriesDraft tx request.body
    rw [body]
    exact carriesDraft_transactionBody tx unscaled

open Json (Holds Lacks word128?) in
/-- A draft is read from its text and from the text of it that every request to a signing service
carries, if no multiplier goes with it. An object with typed fields is a draft just when it has a
gas price without the fees of the other model, or both of those without a gas price. -/
theorem draft_texts_are_read (tx : Draft) (w : RemoteWallet) {hints : Hints}
    (unscaled : hints.multiplier = none) {cs : List Char}
    {members : List (Json.Literal × Json.Tree)} (object : Json.read? cs = some (.object members))
    (typed : Draft.WellTyped members) :
    Draft.read tx.toJson.render.toList = .ok tx ∧
    Remote.CarriesDraft tx (Bytes.ofText (Remote.transactionBody tx none).render) ∧
    Remote.CarriesDraft tx (Bytes.ofText (Remote.transactionBody tx (some hints)).render) ∧
    Program.Only (Remote.Posts tx) (w.sign tx).run ∧
    Program.Only (Remote.Posts tx) (w.send tx hints).run ∧
    ((∃ tx, Draft.read cs = .ok tx) ↔
      (Holds word128? members "gasPrice" ∧ Lacks members "maxFeePerGas" ∧
        Lacks members "maxPriorityFeePerGas") ∨
      (Lacks members "gasPrice" ∧ Holds word128? members "maxFeePerGas" ∧
        Holds word128? members "maxPriorityFeePerGas")) := by
  refine ⟨tx.read_render, Remote.carriesDraft_transactionBody tx rfl,
    Remote.carriesDraft_transactionBody tx unscaled, w.sign_posts tx, w.send_posts tx unscaled, ?_⟩
  rw [Draft.read_of_read? object]
  rcases typed.ofTree with ⟨told, found⟩ | ⟨untold, fault⟩
  · exact ⟨fun _ => told, fun _ => found⟩
  · constructor
    · rintro ⟨tx, found⟩
      rw [fault] at found
      cases found
    · intro told
      exact absurd told untold

def pricesOfOneModel : List (String × Json) :=
  [("type", .integer 2), ("gasPrice", .null), ("maxPriorityFeePerGas", .integer 1),
    ("maxFeePerGas", .integer 2),
    ("chainId", .integer 1), ("nonce", .integer 0), ("gas", .integer 21000), ("data", .string "0x"),
    ("value", .string "0b101"), ("to", .string "0x0000000000000000000000000000000000000001"),
    ("from", .string "0x0000000000000000000000000000000000000002")]

theorem wellTyped_pricesOfOneModel : Draft.WellTyped (Json.memberTrees pricesOfOneModel) where
  named := List.all_eq_true.mp (Json.memberTrees_named _)
  sender := ⟨_, _, rfl, rfl⟩
  recipient := ⟨_, _, rfl, rfl⟩
  value := ⟨_, _, rfl, rfl⟩
  data := ⟨_, _, rfl, rfl⟩
  gasLimit := ⟨_, _, rfl, rfl⟩
  nonce := ⟨_, _, rfl, rfl⟩
  chainId := ⟨_, _, rfl, rfl⟩
  gasPrice := .inl (.inr rfl)
  maxFee := .inr ⟨_, _, rfl, rfl⟩
  tip := .inr ⟨_, _, rfl, rfl⟩

def farDraft : Draft :=
  { sender := .ofNat 1, recipient := .ofNat 2, value := .allOnes 256, data := [0xde, 0xad],
    gasLimit := 21000
    nonce := 7, chainId := 0xffffffffffffffff, fees := .dynamic (.allOnes 128) 0x10000000000000000 }

def farRemote : RemoteWallet := ⟨⟨"http://signer", none⟩, .ofNat 1, .zero⟩

def urgentHints : Hints :=
  { multiplier := none, priority := some 5, operation := some "\"call\"", metadata := none }

theorem pricesOfOneModel_is_draft :
    Draft.read farDraft.toJson.render.toList = .ok farDraft ∧
    Remote.CarriesDraft farDraft
      (Bytes.ofText (Remote.transactionBody farDraft (some urgentHints)).render) ∧
    Program.Only (Remote.Posts farDraft) (farRemote.send farDraft urgentHints).run ∧
    ∃ tx, Draft.read (Json.object pricesOfOneModel).render.toList = .ok tx := by
  have object := Json.read?_render (v := .object pricesOfOneModel) (by
    simp [Json.Whole, pricesOfOneModel, Json.WholeMembers])
  have unscaled : urgentHints.multiplier = none := rfl
  obtain ⟨text, -, body, -, posts, told⟩ :=
    draft_texts_are_read farDraft farRemote unscaled object wellTyped_pricesOfOneModel
  exact ⟨text, body, posts, told.mpr (.inr ⟨.inr rfl, ⟨_, _, rfl, rfl⟩, ⟨_, _, rfl, rfl⟩⟩)⟩

end Dispatch

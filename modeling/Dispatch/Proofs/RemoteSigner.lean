import Dispatch.Proofs.Course
import Dispatch.Proofs.EnvelopeForm
import Dispatch.Proofs.JsonMembers
import Dispatch.Proofs.JsonText
import Dispatch.Proofs.OutsideCourse
import Dispatch.Proofs.Utf8
import Dispatch.Wallet.Remote

/-!
# What a signing service can change

Of a transaction that came back signed, the check fixes the signer and all of the draft but the form
with its fees: the service may choose those, and may put bytes behind the transaction. Where it does
neither, the result is the draft under the signature that came back.
-/

set_option autoImplicit false

namespace Dispatch
open Program (Environment Event Moment Leads)

theorem Draft.mismatch?_eq_none {tx : Draft} {e : Envelope} :
    tx.mismatch? e = none ↔
      e.payload = { tx.payload with form := e.payload.form } ∧
        e.payload.form.chainId? = some tx.chainId := by
  obtain ⟨⟨form, nonce, gasLimit, account, value, data⟩, signature⟩ := e
  simp only [mismatch?, payload, Payload.mk.injEq, true_and, ite_not]
  grind

namespace Remote

section
variable {account : Address} {tx : Draft} {raw : Bytes} {signed : SignedTransaction}

/-- What is known of signed bytes that were taken for a draft. -/
structure Accepted (account : Address) (tx : Draft) (signed : SignedTransaction) (e : Envelope)
    (rest : Bytes) : Prop where
  raw : signed.raw = e.encode ++ rest
  hash : signed.hash = e.hash
  signature : signed.signature = e.signature
  low : e.signature.IsLow
  signer : e.signature.recover? e.payload.signingHash = some account
  payload : e.payload = { tx.payload with form := e.payload.form }
  chain : e.payload.form.chainId? = some tx.chainId

theorem checkSigned_ok (h : checkSigned account tx raw = .ok signed) :
    signed.raw = raw ∧ ∃ e rest, Accepted account tx signed e rest := by
  unfold checkSigned at h
  split at h
  · cases h
  next e rest decoded =>
  split at h
  · cases h
  next signer hsigner =>
  split at h
  · cases h
  next same =>
  have same : signer = account := not_not.mp same
  split at h
  · cases h
  next hm =>
  cases h
  unfold Envelope.signer? at hsigner
  split at hsigner
  next low =>
    obtain ⟨payload, chain⟩ := Draft.mismatch?_eq_none.mp hm
    exact ⟨rfl, e, rest, Envelope.decode?_written decoded, rfl, rfl, low, same ▸ hsigner,
      payload, chain⟩
  · cases hsigner

theorem Accepted.eq_signed {e : Envelope} (h : Accepted account tx signed e [])
    (form : e.payload.form = tx.form) :
    signed = tx.signed signed.signature ∧ signed.hash = Keccak.hash signed.raw ∧
      signed.signature.recover? tx.signingHash = some account := by
  have payload : e.payload = tx.payload := h.payload.trans (by rw [form]; rfl)
  have whole : e = ⟨tx.payload, signed.signature⟩ := by rw [← payload, h.signature]
  have raw : signed.raw = e.encode := by rw [h.raw, List.append_nil]
  have hash : signed.hash = Keccak.hash signed.raw := by
    rw [h.hash, raw, Envelope.hash_eq_keccak (by rw [form, tx.sidecar?_form])]
  refine ⟨?_, hash, ?_⟩
  · obtain ⟨_, _, _⟩ := signed
    cases raw
    cases h.hash
    rw [whole]
    rfl
  · rw [h.signature, Draft.signingHash, ← payload, h.signer]

end

end Remote

open Remote in
/-- A transaction that the service signed is the draft in all but the form and its fees, and bytes
behind it; if these are as asked, it is the draft under the signature that came back. -/
theorem RemoteWallet.sign_accepted {σ : Type} {env : Environment Outside σ} {w : RemoteWallet}
    {tx : Draft} {u v : Moment σ} {es : List (Event Outside)} {signed : SignedTransaction}
    (h : Leads env (w.sign tx).run u es (.ok signed) v) :
    tx.sender = w.address ∧
    ∃ e rest, Accepted w.address tx signed e rest ∧
      (e.payload.form = tx.form → rest = [] →
        signed = tx.signed signed.signature ∧ signed.hash = Keccak.hash signed.raw ∧
          signed.signature.recover? tx.signingHash = some w.address) := by
  unfold sign Backend.ensureSender at h
  by_cases sender : tx.sender = w.address
  · simp only [sender, if_true] at h
    rcases Program.leads_except_bind.mp h with ⟨_, -, hr⟩ | ⟨_, raw, _, _, -, checked, -⟩
    · cases hr
    cases hc : checkSigned w.address tx raw with
    | error fault =>
      rw [hc] at checked
      cases (Program.leads_except_throw.mp checked).2.1
    | ok s =>
      rw [hc] at checked
      cases (Program.leads_except_pure.mp checked).2.1
      obtain ⟨-, e, rest, accepted⟩ := checkSigned_ok hc
      refine ⟨sender, e, rest, accepted, ?_⟩
      rintro form rfl
      exact accepted.eq_signed form
  · simp only [sender, if_false] at h
    cases (Program.leads_except_throw.mp h).2.1

/-! ## Marks of byte order -/

theorem Json.read?_of_mark {c : Char} (h : c = Text.replacement ∨ c = '\uFEFF') (cs : List Char) :
    Json.read? (c :: cs) = none := by
  rcases h with rfl | rfl <;> rfl

namespace Text

theorem lossy_cons (a : UInt8) (rest : Bytes) :
    lossy (a :: rest) = (firstBy replacement a rest).1 ::
      lossy (rest.drop ((firstBy replacement a rest).2 - 1)) := by
  rw [lossy, charsBy]
  rfl

theorem unmarked_eq_lossy {b : Bytes} {t : Json.Tree} (h : Json.read? (lossy b) = some t) :
    unmarked b = lossy b := by
  have unread (a : UInt8) (rest : Bytes)
      (mark : (firstBy replacement a rest).1 = replacement ∨
        (firstBy replacement a rest).1 = '\uFEFF') : b ≠ a :: rest := by
    rintro rfl
    rw [lossy_cons, Json.read?_of_mark mark] at h
    cases h
  have whole {n : Nat} {l : Bytes} (front : b.take n = l) : b = l ++ b.drop n :=
    front ▸ (List.take_append_drop n b).symm
  unfold unmarked
  split
  next utf8 => exact absurd (whole utf8) (unread _ _ (.inr rfl))
  split
  next low => exact absurd (whole low) (unread _ _ (.inl rfl))
  split
  next high => exact absurd (whole high) (unread _ _ (.inl rfl))
  rfl

end Text

/-! ## Replies with signed bytes -/

namespace Remote

structure HandsOver (raw : Bytes) (reply : Http.Reply) : Prop where
  success : Http.isSuccess reply.status = true
  body : ∃ b members data digits, reply.body = .ok b ∧
    Json.read? (Text.lossy b) = some (.object members) ∧
    (∀ m ∈ members, m.1.isSome = true) ∧ Json.Lacks members "error" ∧
    Json.single? "data" members = some (some (.object data)) ∧ (∀ m ∈ data, m.1.isSome = true) ∧
    Json.single? "rawTransaction" data = some (some (.string (some digits))) ∧
    Hex.read? digits.toList = some raw

theorem HandsOver.unpack {raw : Bytes} {reply : Http.Reply} (h : HandsOver raw reply) :
    unpack (fieldOf? "rawTransaction" Json.bytes?) reply = .ok raw := by
  obtain ⟨b, members, data, digits, body, text, named, noError, payload, named', member, read⟩ :=
    h.body
  obtain ⟨error, absent⟩ := noError.optional? Json.text?
  have inner : fieldOf? "rawTransaction" Json.bytes? (.object data) = some raw := by
    have fields :=
      Json.fields?_of_single ["rawTransaction"] (fun _ => some (.string (some digits))) named'
      (by simpa using member)
    rw [fieldOf?, fields]
    exact read
  have outer : answer? (fieldOf? "rawTransaction" Json.bytes?) (.object members) =
    some ⟨some raw, none⟩ := by
    have fields := Json.fields?_of_single ["data", "error"] (Json.field members) named (by
      simp only [List.forall_mem_cons, List.not_mem_nil, false_implies, implies_true, and_true]
      exact ⟨by rw [payload, Json.field, payload, Option.getD_some], error⟩)
    have value :
      Json.optional? (fieldOf? "rawTransaction" Json.bytes?) (Json.field members "data") =
        some (some raw) := by
      rw [Json.field, payload, Option.getD_some]
      show (fieldOf? "rawTransaction" Json.bytes? (.object data)).map some = _
      rw [inner, Option.map_some]
    simp only [answer?, fields, List.map_cons, List.map_nil, Option.bind_eq_bind, Option.bind_some,
      value, absent]
  simp only [Remote.unpack, body, Text.unmarked_eq_lossy text, text, Option.bind_some, outer,
    h.success, if_true]

def signedReply (raw : Bytes) : Http.Reply :=
  ⟨200, .ok (Bytes.ofText (Json.object
    [("data", .object [("rawTransaction", .string (Hex.marked raw))]), ("error", .null)]).render)⟩

theorem handsOver_signedReply (raw : Bytes) : HandsOver raw (signedReply raw) where
  success := rfl
  body := by
    have read := Json.read?_render (v := .object
      [("data", .object [("rawTransaction", .string (Hex.marked raw))]), ("error", .null)]) (by
        simp [Json.Whole, Json.WholeMembers])
    refine ⟨_, _, _, Hex.marked raw,
      rfl, by rw [Text.lossy_ofText]; exact read, ?_, .inr rfl, rfl, ?_, rfl,
      Hex.read?_marked raw⟩
    · exact List.all_eq_true.mp (Json.memberTrees_named _)
    · exact List.all_eq_true.mp (Json.memberTrees_named _)

theorem unpack_signedReply (raw : Bytes) :
    unpack (fieldOf? "rawTransaction" Json.bytes?) (signedReply raw) = .ok raw :=
  (handsOver_signedReply raw).unpack

theorem checkSigned_of_decoded {account : Address} {tx : Draft} {raw rest : Bytes} {e : Envelope}
    (decoded : Envelope.decode? raw = some (e, rest)) (signer : e.signer? = some account)
    (same : tx.mismatch? e = none) :
    checkSigned account tx raw = .ok ⟨raw, e.hash, e.signature⟩ := by
  simp [checkSigned, decoded, signer, same]

def serving (raw : Bytes) : Environment Outside Unit := fun q t s =>
  match q with
  | .http _ => ⟨.ok (signedReply raw), s, t⟩
  | q => ⟨q.refusal, s, t⟩

end Remote

open Remote in
theorem RemoteWallet.sign_serving (w : RemoteWallet) (tx : Draft) (raw : Bytes) (u : Moment Unit)
    (sender : tx.sender = w.address) (access : w.service.access = none)
    (requestable : Url.isRequestable (w.service.url ++ "/sign") = true) :
    ∃ es v, Leads (serving raw) (w.sign tx).run u es
      (ofSigner ((checkSigned w.address tx raw).mapError SigningFailure.malformed)) v := by
  have course := Program.leads_run (serving raw) (w.sign tx).run u
  suffices result : ((w.sign tx).run.run (serving raw) u.time u.state).result =
      ofSigner ((checkSigned w.address tx raw).mapError SigningFailure.malformed) by
    rw [← result]
    exact ⟨_, _, course⟩
  have checked : Backend.ensureSender w.address tx = .ok () := if_pos sender
  unfold sign Service.post Service.postHeaders Service.exchange
  simp only [checked, access, Outside.http, requestable]
  show (Program.run (serving raw)
    (Program.bind
      (.done (ofSigner (unpack (fieldOf? "rawTransaction" Json.bytes?) (signedReply raw)))) _)
    u.time u.state).result = _
  rw [unpack_signedReply]
  dsimp only [ofSigner, Program.bind, ExceptT.bindCont]
  cases checkSigned w.address tx raw with
  | ok signed => rfl
  | error fault => rfl

/-! ## A service that changes what it signs -/

def unitAccount : Address := .ofNat 0x7e5f4552091a69125d5dfcb7b8c2659029395bdf

def unitRemote : RemoteWallet := ⟨⟨"http://signer", none⟩, unitAccount, .zero⟩

def pricedDraft (gasPrice : BitVec 128) : Draft :=
  { sender := unitAccount, recipient := .zero, value := 0, data := [], gasLimit := 21000, nonce := 0
    chainId := 1, fees := .legacy gasPrice }

def dearSignature : Signature :=
  { r := 0x26edf6285548471557cd8e390f02bea964c1dbd62a85657ae57cfac2e518b859
    s := 0x541797f00e8c4200f8924041c266794faf5ead4b81c93f4e2b332b092e6b45e0
    odd := false }

def dearEnvelope : Envelope := ⟨(pricedDraft 2).payload, dearSignature⟩

def dearTransaction : SignedTransaction :=
  ⟨dearEnvelope.encode ++ [0], dearEnvelope.hash, dearSignature⟩

theorem signer?_dearEnvelope : dearEnvelope.signer? = some unitAccount := by decide +kernel

theorem checkSigned_dearTransaction :
    Remote.checkSigned unitAccount (pricedDraft 1) dearTransaction.raw = .ok dearTransaction := by
  have decoded : Envelope.decode? dearTransaction.raw = some (dearEnvelope, [0]) := by
    decide +kernel
  have same : (pricedDraft 1).mismatch? dearEnvelope = none := by decide +kernel
  exact Remote.checkSigned_of_decoded decoded signer?_dearEnvelope same

theorem sign_dearTransaction :
    ∃ es v, Leads (Remote.serving dearTransaction.raw)
    (unitRemote.sign (pricedDraft 1)).run ⟨0, ()⟩ es
      (.ok dearTransaction) v := by
  have course := RemoteWallet.sign_serving unitRemote (pricedDraft 1) dearTransaction.raw ⟨0, ()⟩
    rfl rfl (by decide +kernel)
  rwa [show unitRemote.address = unitAccount from rfl, checkSigned_dearTransaction] at course

/-- The service can double the price and append a byte, and what comes back is not the draft. -/
theorem dearTransaction_accepted :
    ¬ ∀ (env : Environment Outside Unit) (w : RemoteWallet) (tx : Draft) (u v : Moment Unit)
      (es : List (Event Outside)) (signed : SignedTransaction),
      Leads env (w.sign tx).run u es (.ok signed) v →
      signed.raw = (tx.signed signed.signature).raw ∧
        signed.hash = (tx.signed signed.signature).hash ∧
        signed.hash = Keccak.hash signed.raw ∧
        signed.signature.recover? tx.signingHash = some w.address := by
  intro faithful
  obtain ⟨es, v, course⟩ := sign_dearTransaction
  have raw := (faithful _ _ _ _ _ _ _ course).1
  have differs : dearTransaction.raw ≠ ((pricedDraft 1).signed dearSignature).raw := by
    decide +kernel
  exact differs raw

theorem dearTransaction_is_draft_but_form :
    ∃ e rest, Remote.Accepted unitAccount (pricedDraft 1) dearTransaction e rest := by
  obtain ⟨es, v, course⟩ := sign_dearTransaction
  obtain ⟨-, e, rest, accepted, -⟩ := RemoteWallet.sign_accepted course
  exact ⟨e, rest, accepted⟩

end Dispatch

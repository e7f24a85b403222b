import Dispatch.Proofs.DraftText
import Dispatch.Proofs.EnvelopeReading
import Dispatch.Proofs.RemoteSigner

/-!
# A service that signs what it is asked

What an envelope reads to says all of the draft it was made from, so a signed draft passes every
check, and a service that hands it over gets it through unchanged.
-/

set_option autoImplicit false

namespace Dispatch
open Program (Environment Event Moment Leads)

/-- The envelope has the fields of the draft, with the fees in the form that they call for, and the
signature. -/
structure Envelope.Bears (e : Envelope) (tx : Draft) (signature : Signature) : Prop where
  nonce : e.payload.nonce = tx.nonce
  recipient : e.payload.recipient = some tx.recipient
  value : e.payload.value = tx.value
  data : e.payload.data = tx.data
  gasLimit : e.payload.gasLimit = tx.gasLimit
  chain : e.payload.form.chainId? = some tx.chainId
  fees : match tx.fees with
    | .legacy gasPrice => e.payload.form = .plain (some tx.chainId) gasPrice
    | .dynamic maxFee tip => e.payload.form = .dynamic tx.chainId maxFee tip []
  signature : e.signature = signature

theorem Draft.chainId?_form (tx : Draft) : tx.form.chainId? = some tx.chainId := by
  unfold form
  cases tx.fees <;> rfl

theorem Envelope.bears_payload (tx : Draft) (signature : Signature) :
    Bears ⟨tx.payload, signature⟩ tx signature where
  nonce := rfl
  recipient := rfl
  value := rfl
  data := rfl
  gasLimit := rfl
  chain := tx.chainId?_form
  fees := by
    show match tx.fees with
      | .legacy gasPrice => tx.form = .plain (some tx.chainId) gasPrice
      | .dynamic maxFee tip => tx.form = .dynamic tx.chainId maxFee tip []
    unfold Draft.form
    cases tx.fees <;> rfl
  signature := rfl

namespace Remote

/-! ## Requests and their replies -/

def Replied (reply : Http.Reply) (es : List (Event Outside)) : Prop :=
  ∃ t request, Event.asked t (OutsideQuestion.http request) (Except.ok (ε := String) reply) ∈ es

section
variable {σ α : Type} {env : Environment Outside σ} {u v : Moment σ} {es : List (Event Outside)}
  {reply : Http.Reply}

theorem not_replied_of_date (dates : ∀ e ∈ es, Event.Within (fun q => q = OutsideQuestion.date) e) :
    ¬ Replied reply es := by
  rintro ⟨t, request, mem⟩
  cases (dates _ mem : OutsideQuestion.http request = .date)

theorem http_replied {request : Http.Request} {answer : Except String Http.Reply}
    (h : Leads env (Outside.http request).run u es answer v) (replied : Replied reply es) :
    answer = .ok reply := by
  obtain ⟨t, q, mem⟩ := replied
  rcases Outside.http_cases h with rfl | ⟨rfl, -⟩
  · exact (eq_of_heq (Event.asked.inj (List.mem_singleton.mp mem)).2.2).symm
  · cases mem

theorem Service.exchange_replied {s : Service} {read : Json.Tree → Option α}
    {request : Http.Request} {r : Except Failure α}
    (h : Leads env (s.exchange read request).run u es r v)
    (replied : Replied reply es) :
    r = ofSigner (unpack read reply) := by
  obtain ⟨es₁, answer, w, es₂, asked, rest, rfl⟩ := Program.leads_except_lift_bind.mp h
  cases answer with
  | error why =>
    obtain ⟨rfl, -⟩ := Program.leads_except_throw.mp rest
    rw [List.append_nil] at replied
    cases http_replied asked replied
  | ok answer =>
    obtain ⟨rfl, result, -⟩ := Program.leads_done.mp rest
    rw [List.append_nil] at replied
    cases http_replied asked replied
    exact result

theorem Service.post_replied {s : Service} {path : String} {body : Json}
    {read : Json.Tree → Option α} {r : Except Failure α}
    (h : Leads env (s.post path body read).run u es r v)
    (replied : Replied reply es) :
    r = ofSigner (unpack read reply) := by
  rcases Program.leads_except_bind.mp h with ⟨_, headers, -⟩ |
    ⟨es₁, _, w, es₂, headers, exchange, rfl⟩
  · exact absurd replied (not_replied_of_date (headers.within (s.postHeaders_only _ _)))
  · obtain ⟨t, request, mem⟩ := replied
    rcases List.mem_append.mp mem with mem | mem
    · exact absurd ⟨t, request, mem⟩ (not_replied_of_date (headers.within (s.postHeaders_only _ _)))
    · exact exchange_replied exchange ⟨t, request, mem⟩

end

end Remote

open Remote in
theorem RemoteWallet.sign_handed {σ : Type} {env : Environment Outside σ} {w : RemoteWallet}
    {tx : Draft} {u v : Moment σ} {es : List (Event Outside)} {r : Except Failure SignedTransaction}
    {raw : Bytes} {reply : Http.Reply} {signed : SignedTransaction}
    (h : Leads env (w.sign tx).run u es r v)
    (replied : Replied reply es) (handed : HandsOver raw reply)
    (taken : checkSigned w.address tx raw = .ok signed) :
    r = .ok signed := by
  unfold sign at h
  cases sender : Backend.ensureSender w.address tx with
  | error failure =>
    rw [sender] at h
    obtain ⟨rfl, -⟩ := Program.leads_except_throw.mp h
    obtain ⟨t, request, mem⟩ := replied
    cases mem
  | ok allowed =>
    rw [sender] at h
    rcases Program.leads_except_bind.mp h with ⟨_, post, -⟩ | ⟨es₁, found, w', es₂, post, rest, rfl⟩
    · have answer := Service.post_replied post replied
      rw [handed.unpack] at answer
      cases answer
    · have silent : es₂ = [] := by
        split at rest
        · exact (Program.leads_except_pure.mp rest).1
        · exact (Program.leads_except_throw.mp rest).1
      rw [silent, List.append_nil] at replied
      have answer := Service.post_replied post replied
      rw [handed.unpack] at answer
      cases answer
      rw [taken] at rest
      exact (Program.leads_except_pure.mp rest).2.1

open Remote in
theorem RemoteWallet.sign_serving_replied {w : RemoteWallet} {tx : Draft} {raw : Bytes}
    {u v : Moment Unit} {es : List (Event Outside)} {r : Except Failure SignedTransaction}
    (sender : tx.sender = w.address) (access : w.service.access = none)
    (requestable : Url.isRequestable (w.service.url ++ "/sign") = true)
    (h : Leads (serving raw) (w.sign tx).run u es r v) : Replied (signedReply raw) es := by
  have checked : Backend.ensureSender w.address tx = .ok () := if_pos sender
  unfold sign Service.post Service.postHeaders Service.exchange at h
  simp only [checked, access, Outside.http, requestable] at h
  obtain ⟨rest, rfl, -⟩ := Program.leads_ask.mp h
  exact ⟨_, _, List.mem_cons_self⟩

/-- A signed draft is read to its end as an envelope with the fields of the draft and the signature.
The draft has nothing against it, and its hash is the digest of the bytes; so if the signature is of
the wallet's account, and the service hands those bytes over, they come back from the wallet with
this hash and signature. -/
theorem signed_drafts_are_read {tx : Draft} (fits : tx.FitsMemory) (signature : Signature) :
    ∃ e, Envelope.decode? (tx.signed signature).raw = some (e, []) ∧ e.Bears tx signature ∧
      tx.mismatch? e = none ∧ e.hash = (tx.signed signature).hash ∧
      (tx.signed signature).hash = Keccak.hash (tx.signed signature).raw ∧
      ∀ {σ : Type} {env : Environment Outside σ} {w : RemoteWallet} {u v : Moment σ}
        {es : List (Event Outside)}
        {r : Except Failure SignedTransaction} {reply : Http.Reply},
        e.signer? = some w.address → Leads env (w.sign tx).run u es r v → Remote.Replied reply es →
        Remote.HandsOver (tx.signed signature).raw reply → r = .ok (tx.signed signature) := by
  have decoded := tx.decode?_signed fits signature
  have same : tx.mismatch? ⟨tx.payload, signature⟩ = none :=
    Draft.mismatch?_eq_none.mpr ⟨rfl, tx.chainId?_form⟩
  refine ⟨⟨tx.payload, signature⟩, decoded, Envelope.bears_payload tx signature, same, rfl,
    Envelope.hash_eq_keccak tx.sidecar?_form, ?_⟩
  intro σ env w u v es r reply signer course replied handed
  exact RemoteWallet.sign_handed course replied handed
    (Remote.checkSigned_of_decoded decoded signer same)

open Remote in
theorem dearEnvelope_handed_over :
    (pricedDraft 2).FitsMemory ∧ ∃ es v,
      Leads (serving dearEnvelope.encode) (unitRemote.sign (pricedDraft 2)).run ⟨0, ()⟩ es
        (.ok ((pricedDraft 2).signed dearSignature)) v := by
  have fits : (pricedDraft 2).FitsMemory := show 0 < 2 ^ 63 by decide
  have requestable : Url.isRequestable (unitRemote.service.url ++ "/sign") = true := by
    decide +kernel
  obtain ⟨es, v, course⟩ :=
    RemoteWallet.sign_serving unitRemote (pricedDraft 2) dearEnvelope.encode ⟨0, ()⟩
    rfl rfl requestable
  obtain ⟨e, decoded, -, -, -, -, through⟩ := signed_drafts_are_read fits dearSignature
  have read := (pricedDraft 2).decode?_signed fits dearSignature
  have whole : e = dearEnvelope := (Prod.mk.inj (Option.some.inj (decoded.symm.trans read))).1
  have signer : e.signer? = some unitRemote.address := by
    rw [whole]
    exact signer?_dearEnvelope
  have result :=
    through signer course (RemoteWallet.sign_serving_replied rfl rfl requestable course)
    (handsOver_signedReply _)
  rw [result] at course
  exact ⟨fits, es, v, course⟩

end Dispatch

import Dispatch.Proofs.SignersAgree

/-!
# What an enclave can get through

Whatever an enclave answers, a signature comes out of a wallet only if it was the answer to the
request for it, free of errors, and is the account's over the digest that was asked for. The account
is that of the key with which the wallet was opened.
-/

set_option autoImplicit false

namespace Dispatch
open Program (Environment Event Moment)

/-! ## Signatures as bytes -/

namespace Signature

theorem length_toBytes (signature : Signature) : signature.toBytes.length = 65 := by
  simp only [toBytes, List.length_append, Bytes.length_ofNat, List.length_singleton]

theorem ofBytes?_toBytes (signature : Signature) : ofBytes? signature.toBytes = some signature := by
  have r : signature.toBytes.take 32 = Bytes.ofNat 32 signature.r.toNat := by
    rw [toBytes, List.append_assoc, List.take_left' (Bytes.length_ofNat 32 _)]
  have s : (signature.toBytes.drop 32).take 32 = Bytes.ofNat 32 signature.s.toNat := by
    rw [toBytes, List.append_assoc, List.drop_left' (Bytes.length_ofNat 32 _),
      List.take_left' (Bytes.length_ofNat 32 _)]
  have v : signature.toBytes.drop 64 = [if signature.odd then 28 else 27] := by
    rw [toBytes, List.drop_left' (by simp only [List.length_append, Bytes.length_ofNat])]
  have parity : parity? (Bytes.toNat [if signature.odd then 28 else 27]) = some signature.odd := by
    cases signature.odd <;> rfl
  rw [ofBytes?, if_pos signature.length_toBytes, r, s, v, parity, Option.map_some,
    Bytes.word_toNat_ofNat,
    Bytes.word_toNat_ofNat]

end Signature

namespace Enclave

/-! ## Answers that are taken -/

theorem answer?_ok {t : Json.Tree} {result : Json} (h : answer? t = some ⟨some result, none⟩) :
    ∃ r e, Json.fields? ["result", "error"] t = some [some r, e] ∧ inner? r = some result ∧
      (e = none ∨ e = some .null) := by
  unfold answer? at h
  obtain ⟨fields, found, h⟩ := Option.bind_eq_some_iff.mp h
  split at h
  next r e =>
    obtain ⟨value, given, h⟩ := Option.bind_eq_some_iff.mp h
    obtain ⟨error, clean, h⟩ := Option.bind_eq_some_iff.mp h
    cases h
    obtain ⟨r, rfl, read⟩ := Json.optional?_eq_some given
    exact ⟨r, e, found, read, Json.optional?_eq_none clean⟩
  · cases h

theorem unpack_ok {α : Type} {method : String} {read : Json.Tree → Option α} {body : Bytes} {a : α}
    (h : unpack method read body = .ok a) :
    ∃ t result reason, Json.readBytes? body = some t ∧
      answer? t = some ⟨some result, none⟩ ∧ status? result.toTree = some (0, reason) ∧
      read result.toTree = some a := by
  unfold unpack at h
  dsimp only at h
  split at h
  · cases h
  · cases h
  · cases h
  next result found =>
    obtain ⟨t, parsed, answered⟩ := Option.bind_eq_some_iff.mp found
    split at h
    · cases h
    next code reason status =>
      split at h
      · cases h
      next zero =>
        split at h
        next value given =>
          cases h
          have zero : code = 0 := not_not.mp zero
          exact ⟨t, result, reason, parsed, answered, zero ▸ status, given⟩
        · cases h

theorem status?_fields {t : Json.Tree} {code : Int} {reason : String}
    (h : status? t = some (code, reason)) :
    ∃ number text, Json.fields? ["status", "errorMessage"] t = some [some number, text] ∧
      Json.signed64? number = some code := by
  unfold status? at h
  obtain ⟨fields, found, h⟩ := Option.bind_eq_some_iff.mp h
  split at h
  next status text =>
    obtain ⟨value, stands, h⟩ := Option.bind_eq_some_iff.mp h
    obtain ⟨_, -, h⟩ := Option.bind_eq_some_iff.mp h
    cases h
    obtain ⟨number, rfl, read⟩ := Option.bind_eq_some_iff.mp stands
    exact ⟨number, text, found, read⟩
  · cases h

theorem rawSignature?_fields {t : Json.Tree} {raw : RawSignature} (h : rawSignature? t = some raw) :
    ∃ v r s, Json.fields? ["signature_v", "signature_r", "signature_s"] t =
      some [some v, some r, some s] := by
  unfold rawSignature? at h
  obtain ⟨fields, found, h⟩ := Option.bind_eq_some_iff.mp h
  split at h
  · obtain ⟨_, number, h⟩ := Option.bind_eq_some_iff.mp h
    obtain ⟨_, first, h⟩ := Option.bind_eq_some_iff.mp h
    obtain ⟨_, second, -⟩ := Option.bind_eq_some_iff.mp h
    obtain ⟨v, rfl, -⟩ := Option.bind_eq_some_iff.mp number
    obtain ⟨r, rfl, -⟩ := Option.bind_eq_some_iff.mp first
    obtain ⟨s, rfl, -⟩ := Option.bind_eq_some_iff.mp second
    exact ⟨v, r, s, found⟩
  · cases h

theorem object_of_signature {result : Json} {status : Int × String} {raw : RawSignature}
    (stated : status? result.toTree = some status)
    (signed : rawSignature? result.toTree = some raw) :
    ∃ ms, result = .object ms := by
  obtain ⟨_, _, two, -⟩ := status?_fields stated
  obtain ⟨_, _, _, three⟩ := rawSignature?_fields signed
  cases result with
  | object ms => exact ⟨ms, rfl⟩
  | array items =>
    match items with
    | [] | [_] | [_, _] => cases three
    | _ :: _ :: _ :: _ => cases two
  | _ => cases two

theorem status?_object {ms : List (String × Json)} {reason : String}
    (distinct : (ms.map Prod.fst).Nodup)
    (h : status? (Json.toTree (.object ms)) = some (0, reason)) :
    ms.lookup "status" = some (.integer 0) := by
  obtain ⟨number, text, found, zero⟩ := status?_fields h
  rw [Json.fields?_object distinct] at found
  obtain ⟨member, -⟩ := List.cons.inj (Option.some.inj found)
  obtain ⟨v, given, rfl⟩ := Option.map_eq_some_iff.mp member
  rw [given, Json.eq_zero_of_signed64? zero]

/-- The body is an answer without an error, with an object as its result whose status is zero. -/
def Clean (body : Bytes) (result : List (String × Json)) : Prop :=
  ∃ t r e, Json.readBytes? body = some t ∧
    Json.fields? ["result", "error"] t = some [some r, e] ∧ (e = none ∨ e = some .null) ∧
    inner? r = some (.object result) ∧ result.lookup "status" = some (.integer 0)

theorem clean_of_signature {method : String} {body : Bytes} {raw : RawSignature}
    (h : unpack method rawSignature? body = .ok raw) :
    ∃ result, Clean body result ∧ rawSignature? (Json.toTree (.object result)) = some raw := by
  obtain ⟨t, result, reason, parsed, answered, status, signed⟩ := unpack_ok h
  obtain ⟨r, e, fields, read, noError⟩ := answer?_ok answered
  obtain ⟨ms, rfl⟩ := object_of_signature status signed
  have zero := status?_object (Json.distinct_of_ofTree? read) status
  exact ⟨ms, ⟨t, r, e, parsed, fields, noError, read, zero⟩, signed⟩

theorem checkSignature_ok {account : Address} {digest : Hash} {signature taken : Signature}
    (h : checkSignature account digest signature = .ok taken) :
    taken = signature ∧ signature.recover? digest = some account := by
  unfold checkSignature at h
  split at h
  · cases h
  next signer recovered =>
    split at h
    · cases h
    next same =>
      cases h
      exact ⟨rfl, recovered.trans (congrArg some (not_not.mp same))⟩

/-! ## Runs -/

section
variable {σ : Type} {env : Environment Outside σ} {n n' : Counter} {u v : Moment σ}
  {es : List (Event Outside)}

theorem Server.call_ok {α : Type} {server : Server} {method : String}
    {params : List (String × Json)} {read : Json.Tree → Option α} {a : α}
    (h : Action.Leads env (server.call method params read) n u es (.ok a) n' v) :
    ∃ status body,
      es = [.asked u.time (OutsideQuestion.http (server.request n method params))
        (.ok ⟨status, .ok body⟩)] ∧
      unpack method read body = .ok a := by
  unfold Server.call at h
  rcases Action.leads_bind.mp h with ⟨_, -, failed⟩ | ⟨es₁, id, m, w, es₂, number, rest, rfl⟩
  · cases failed
  obtain ⟨rfl, taken, rfl⟩ := Program.leads_done.mp number
  cases taken
  rcases Action.leads_bind.mp rest with ⟨_, -, failed⟩ |
    ⟨es₃, answer, m, w, es₄, asked, judged, rfl⟩
  · cases failed
  obtain ⟨_, asked, given, rfl⟩ := Action.leads_ofProgram.mp asked
  cases given
  cases answer with
  | error why => cases (Action.leads_throw.mp judged).2.1
  | ok reply =>
    obtain ⟨status, _ | body⟩ := reply
    · cases (Action.leads_throw.mp judged).2.1
    obtain ⟨rfl, result, -⟩ := Action.leads_result.mp judged
    rcases Outside.http_cases asked with rfl | ⟨-, _, refused⟩
    · exact ⟨status, body, rfl, ofSigner_ok result.symm⟩
    · cases refused

/-- One reply was taken, which was that to the request to sign the digest: it is clean, and the
signature that it carries is the account's. -/
structure Vouched (w : EnclaveWallet) (id : Counter) (digest : Hash) (es : List (Event Outside))
    (signature : Signature) : Prop where
  answered : ∃ t status body result raw,
    es = [.asked t (OutsideQuestion.http (signRequest w id digest)) (.ok ⟨status, .ok body⟩)] ∧
    Clean body result ∧ rawSignature? (Json.toTree (.object result)) = some raw ∧
    readSignature raw = .ok signature
  own : signature.recover? digest = some w.address

theorem signDigest_ok {w : EnclaveWallet} {digest : Hash} {signature : Signature}
    (h : Action.Leads env (w.signDigest digest) n u es (.ok signature) n' v) :
    Vouched w n digest es signature := by
  unfold EnclaveWallet.signDigest at h
  rcases Action.leads_bind.mp h with ⟨_, -, failed⟩ | ⟨es₁, raw, m, w', es₂, called, rest, rfl⟩
  · cases failed
  obtain ⟨status, body, rfl, taken⟩ := Server.call_ok called
  obtain ⟨result, clean, given⟩ := clean_of_signature taken
  cases read : readSignature raw with
  | error fault =>
    rw [read] at rest
    cases (Action.leads_throw.mp rest).2.1
  | ok carried =>
    rw [read] at rest
    obtain ⟨rfl, checked, -⟩ := Action.leads_result.mp rest
    obtain ⟨rfl, own⟩ := checkSignature_ok (ofSigner_ok checked.symm)
    exact ⟨⟨u.time, status, body, result, raw, List.append_nil _, clean, given, read⟩, own⟩

theorem sign_ok {w : EnclaveWallet} {tx : Draft} {signed : SignedTransaction}
    (h : Action.Leads env (w.sign tx) n u es (.ok signed) n' v) :
    tx.sender = w.address ∧ ∃ signature, signed = tx.signed signature ∧
      Vouched w n tx.signingHash es signature := by
  unfold EnclaveWallet.sign Backend.ensureSender at h
  by_cases sender : tx.sender = w.address
  · simp only [sender, if_true] at h
    rcases Action.leads_bind.mp h with ⟨_, -, failed⟩ |
      ⟨es₁, signature, m, w', es₂, vouched, rest, rfl⟩
    · cases failed
    obtain ⟨rfl, result, -⟩ := Action.leads_pure.mp rest
    cases result
    rw [List.append_nil]
    exact ⟨sender, signature, rfl, signDigest_ok vouched⟩
  · simp only [sender, if_false] at h
    cases (Action.leads_throw.mp h).2.1

theorem nodeAddressProof_ok {w : EnclaveWallet} {validatorId : BitVec 256} {proof : Bytes}
    (h : Action.Leads env (w.backend.nodeAddressProof validatorId) n u es (.ok proof) n' v) :
    ∃ signature, proof = signature.toBytes ∧
      Vouched w n (personalDigest (ValidatorService.nodeAddressHash validatorId)) es signature := by
  rcases Action.leads_bind.mp h with ⟨_, -, failed⟩ |
    ⟨es₁, signature, m, w', es₂, vouched, rest, rfl⟩
  · cases failed
  obtain ⟨rfl, result, -⟩ := Action.leads_pure.mp rest
  rw [List.append_nil]
  exact ⟨signature, Except.ok.inj result, signDigest_ok vouched⟩

theorem connect_address {url : String} {name : Option String}
    {credentials : Option EnclaveWallet.Credentials} {w : EnclaveWallet}
    (h : Program.Leads env ((EnclaveWallet.connect url name credentials).run.run n) u es
      (.ok w, n') v) :
    w.address = w.publicKey.address := by
  unfold EnclaveWallet.connect at h
  rcases Program.leads_state_bind.mp h with ⟨_, -, failed⟩ | ⟨_, identity, _, _, _, -, shown, -⟩
  · cases failed
  dsimp only at shown
  rcases Program.leads_state_bind.mp shown with ⟨_, -, failed⟩ | ⟨_, keyName, _, _, _, -, named, -⟩
  · cases failed
  rcases Program.leads_state_bind.mp named with ⟨_, -, failed⟩ | ⟨_, text, _, _, _, -, fetched, -⟩
  · cases failed
  cases read : PublicKey.read text.toList with
  | error failure =>
    rw [read] at fetched
    cases (Prod.mk.inj (Program.leads_done.mp fetched).2.1).1
  | ok publicKey =>
    rw [read] at fetched
    cases (Prod.mk.inj (Program.leads_done.mp fetched).2.1).1
    rfl

theorem connect_named {url name : String} {key : PublicKey}
    (fetched : Action.Leads env (EnclaveWallet.fetchKey ⟨url, none⟩ name) n u es
      (.ok (Hex.marked key.toList)) n' v) :
    Program.Leads env ((EnclaveWallet.connect url (some name) none).run.run n) u es
      (.ok ⟨⟨url, none⟩, name, key.address, key⟩, n') v := by
  have silent {α : Type} (a : α) :
    Program.Leads env (.done (Except.ok (ε := SetupFailure) a, n)) u [] (.ok a, n) u :=
    Program.leads_done.mpr ⟨rfl, rfl, rfl⟩
  unfold EnclaveWallet.connect
  refine Program.leads_state_bind.mpr (.inr ⟨[], none, n, u, es, silent none, ?_, rfl⟩)
  refine Program.leads_state_bind.mpr (.inr ⟨[], name, n, u, es, silent name, ?_, rfl⟩)
  refine Program.leads_state_bind.mpr
    (.inr ⟨es, _, n', v, [], Program.leads_state_adapt fetched, ?_, by simp⟩)
  rw [PublicKey.read_marked]
  exact Program.leads_done.mpr ⟨rfl, rfl, rfl⟩

end

end Enclave

open Enclave in
/-- Whatever was answered, when a wallet was opened and since: its account is the last twenty bytes
of the digest of its key, and what it signs is vouched for, be it a draft, a digest or the proof for
a validator, whose 65 bytes are read back to the signature. -/
theorem enclave_signatures_are_vouched {σ : Type} {env : Environment Outside σ} {url : String}
    {name : Option String} {credentials : Option EnclaveWallet.Credentials} {n n' : Counter}
    {u v : Moment σ} {es : List (Event Outside)} {w : EnclaveWallet}
    (opened : Program.Leads env ((EnclaveWallet.connect url name credentials).run.run n) u es
      (.ok w, n') v) :
    w.backend.address.toList = (Keccak.hash w.backend.publicKey.toList).toList.drop 12 ∧
    (∀ {tx id id' u v es signed}, Action.Leads env (w.backend.sign tx) id u es (.ok signed) id' v →
      ∃ signature, signed = tx.signed signature ∧ Vouched w id tx.signingHash es signature) ∧
    (∀ {h id id' u v es signature}, Action.Leads env (w.backend.signHash h) id u es
      (.ok signature) id' v →
      Vouched w id (personalDigest h) es signature) ∧
    (∀ {validatorId id id' u v es proof},
      Action.Leads env (w.backend.nodeAddressProof validatorId) id u es (.ok proof) id' v →
      ∃ signature, Vouched w id (personalDigest (ValidatorService.nodeAddressHash validatorId)) es
        signature ∧
        proof = signature.toBytes ∧ proof.length = 65 ∧
          Signature.ofBytes? proof = some signature) := by
  refine ⟨?_, fun course => (sign_ok course).2, fun course => signDigest_ok course,
    fun course => ?_⟩
  · show w.address.toList = _
    rw [connect_address opened]
    rfl
  · obtain ⟨signature, bytes, vouched⟩ := nodeAddressProof_ok course
    rw [bytes]
    exact ⟨signature, vouched, rfl, signature.length_toBytes, signature.ofBytes?_toBytes⟩

/-! ## An enclave with one key and one signature -/

namespace Enclave

def openResult : List (String × Json) :=
  ("publicKey", .string (Hex.marked unitPublicKey.toList)) :: signatureResult dearSignature

def openMembers : List (String × Json) :=
  [("jsonrpc", .string "2.0"), ("id", .integer 1), ("result", .object openResult)]

def openEnclave : Environment Outside Unit := fun q t s =>
  match q with
  | .http _ => ⟨.ok ⟨200, .ok (Bytes.ofText (Json.object openMembers).render)⟩, s, t⟩
  | q => ⟨q.refusal, s, t⟩

theorem carries_openMembers : Carries dearSignature openMembers openResult where
  whole := by simp [openMembers, openResult, signatureResult, Json.WholeMembers, Json.Whole]
  distinct := by
    show ["jsonrpc", "id", "result"].Nodup
    decide
  hasResult := rfl
  hasNoError := .inl rfl
  scalars := List.forall_mem_cons.mpr ⟨trivial, (carries_signatureMembers dearSignature).scalars⟩
  distinctResult := by
    show ["publicKey", "status", "errorMessage", "signature_v", "signature_r", "signature_s"].Nodup
    decide
  status := rfl
  errorMessage := .inr ⟨"", rfl⟩
  v := (carries_signatureMembers dearSignature).v
  r := (carries_signatureMembers dearSignature).r
  s := (carries_signatureMembers dearSignature).s

theorem open_unitEnclave :
    ∃ es v, Program.Leads openEnclave
      ((EnclaveWallet.connect "https://enclave:1026" (some "NEK:1") none).run.run 1)
      ⟨0, ()⟩ es (.ok unitEnclave, 2) v := by
  have key : publicKey? (Json.toTree (.object (Json.ordered openResult))) =
      some (Hex.marked unitPublicKey.toList) := by
    rw [publicKey?, carries_openMembers.fields]
    rfl
  have reachable : Url.isRequestable unitEnclave.server.url = true := by decide +kernel
  have answered : (openEnclave (OutsideQuestion.http
      (unitEnclave.server.request 1 "getPublicECDSAKey" [("keyName", .string "NEK:1")])) 0
        ()).answer =
      .ok ⟨200, .ok (Bytes.ofText (Json.object openMembers).render)⟩ := rfl
  have called := Server.call_answered reachable _ _ publicKey? (u := ⟨0, ()⟩) answered
  rw [carries_openMembers.unpack_result "getPublicECDSAKey" key] at called
  have opened := connect_named called
  rw [address_unitPublicKey] at opened
  exact ⟨_, _, opened⟩

theorem unitEnclave_vouched :
    ∃ es v, Action.Leads openEnclave (unitEnclave.backend.sign (pricedDraft 2)) 2 ⟨0, ()⟩ es
        (.ok ((pricedDraft 2).signed dearSignature)) 3 v ∧
      ∃ signature, (pricedDraft 2).signed dearSignature = (pricedDraft 2).signed signature ∧
        Vouched unitEnclave 2 (pricedDraft 2).signingHash es signature := by
  obtain ⟨_, _, opened⟩ := open_unitEnclave
  have signs : Signs openEnclave unitEnclave fun _ => dearSignature :=
    ⟨by decide +kernel, fun _ _ _ _ => ⟨200, _, _, rfl, carries_openMembers⟩⟩
  have sender : (pricedDraft 2).sender = unitEnclave.address := rfl
  obtain ⟨es, v, course⟩ := signs.sign sender recover?_dearSignature 2 ⟨0, ()⟩
  have signed : Action.Leads openEnclave (unitEnclave.backend.sign (pricedDraft 2)) 2 ⟨0, ()⟩ es
      (.ok ((pricedDraft 2).signed dearSignature)) 3 v := course
  obtain ⟨-, vouched, -, -⟩ := enclave_signatures_are_vouched opened
  exact ⟨es, v, signed, vouched signed⟩

end Enclave

end Dispatch

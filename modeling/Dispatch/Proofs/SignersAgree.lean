import Dispatch.Proofs.DeviceSigning
import Dispatch.Proofs.EnclaveSigning
import Dispatch.Proofs.RemoteSigner
import Dispatch.Wallet.Local

/-!
# One transaction from any signer

A key in memory, a device and an enclave that sign by one function give the same transaction for the
same draft, down to its bytes.
-/

set_option autoImplicit false

namespace Dispatch
open Program (Environment Moment)

theorem LocalWallet.sign_ok {w : LocalWallet} {tx : Draft} {signature : Signature}
    (sender : tx.sender = w.address) (signs : w.key.signDigest tx.signingHash = some signature) :
    w.sign tx = .ok (tx.signed signature) := by
  have own : Backend.ensureSender w.address tx = .ok () := if_pos sender
  have signed : w.signDigest tx.signingHash = .ok signature := by rw [signDigest, signs]
  rw [sign, own]
  show (w.signDigest tx.signingHash >>= fun signature => pure (tx.signed signature)) = _
  rw [signed]
  rfl

/-- Wallets of one account over a key, a device and an enclave that all sign by `f` sign a draft of
the account alike, if the signature of its digest is the account's. -/
theorem software_device_enclave_sign_alike {σ τ : Type} {device : Environment Outside σ}
    {enclave : Environment Outside τ} (f : Hash → Signature) (tx : Draft) (software : LocalWallet)
    (hardware : LedgerWallet) (remote : EnclaveWallet) (held : σ → Bytes)
    (sender : tx.sender = software.address) (sender' : tx.sender = hardware.address)
    (sender'' : tx.sender = remote.address)
    (recovers : (f tx.signingHash).recover? tx.signingHash = some tx.sender)
    (softwareSigns : ∀ digest, software.key.signDigest digest = some (f digest))
    (deviceSigns : Ledger.Signs device hardware tx (f (Keccak.hash tx.signingBytes)) held)
    (enclaveSigns : Enclave.Signs enclave remote f) (u : Moment σ) (u' : Moment τ)
    (n : Enclave.Counter) :
    software.sign tx = .ok (tx.signed (f tx.signingHash)) ∧
    ((hardware.sign tx).run.run device u.time u.state).result = .ok (tx.signed (f tx.signingHash)) ∧
    (((remote.sign tx).run.run n).run enclave u'.time u'.state).result =
      (.ok (tx.signed (f tx.signingHash)), n + 1) := by
  obtain ⟨es, v, onDevice⟩ := deviceSigns.sign sender' u
  obtain ⟨es', v', inEnclave⟩ := enclaveSigns.sign sender'' (sender'' ▸ recovers) n u'
  exact ⟨LocalWallet.sign_ok sender (softwareSigns _), congrArg Program.Run.result onDevice,
    congrArg Program.Run.result inEnclave⟩

/-! ## Signers of one account -/

def joiningDevice (answer : Bytes) : Environment Outside Bytes := fun q t held =>
  match q with
  | .device cmd => ⟨.ok answer, (if cmd[2]? = some 0 then [] else held) ++ cmd.drop 5, t⟩
  | q => ⟨q.refusal, held, t⟩

theorem signs_joiningDevice {w : LedgerWallet} {tx : Draft} {signature : Signature} {answer : Bytes}
    (direct : w.link = .direct) (carries : Ledger.Carries tx signature answer) :
    Ledger.Signs (joiningDevice answer) w tx signature id := by
  have exchanged (cmd : Bytes) (u : Moment Bytes) :
      ∃ es, Program.Leads (joiningDevice answer) (Ledger.exchange w.link cmd).run u es (.ok answer)
        ⟨u.time, (if cmd[2]? = some 0 then [] else u.state) ++ cmd.drop 5⟩ := by
    rw [direct]
    exact ⟨_, Program.leads_ask_done.mpr ⟨rfl, rfl, rfl⟩⟩
  constructor
  · intro u data _
    obtain ⟨es, course⟩ := exchanged (Ledger.command 0x04 0x00 data) u
    exact ⟨es, answer, _, course, rfl, fun _ => carries⟩
  · intro u data _
    obtain ⟨es, course⟩ := exchanged (Ledger.command 0x04 0x80 data) u
    exact ⟨es, answer, _, course, rfl, fun _ => carries⟩

def signatureResult (signature : Signature) : List (String × Json) :=
  [("status", .integer 0), ("errorMessage", .string ""),
    ("signature_v", .integer (27 + signature.odd.toNat : Nat)),
    ("signature_r", .string (Hex.marked (Bytes.ofNat 32 signature.r.toNat))),
    ("signature_s", .string (Hex.bare (Bytes.ofNat 32 signature.s.toNat)))]

def signatureMembers (signature : Signature) : List (String × Json) :=
  [("jsonrpc", .string "2.0"), ("id", .integer 1), ("result", .object (signatureResult signature))]

def constantEnclave (signature : Signature) : Environment Outside Unit := fun q t s =>
  match q with
  | .http _ =>
      ⟨.ok ⟨200, .ok (Bytes.ofText (Json.object (signatureMembers signature)).render)⟩, s, t⟩
  | q => ⟨q.refusal, s, t⟩

theorem spells_scalar (x : BitVec 256) :
    Hex.Spells ((Bytes.ofNat 32 x.toNat).flatMap Hex.pair) x.toNat := by
  have bound : x.toNat < 256 ^ 32 := x.isLt
  have spells := Hex.spells_pairs (Bytes.ofNat 32 x.toNat)
  rwa [Bytes.toNat_ofNat, Nat.mod_eq_of_lt bound] at spells

theorem carries_signatureMembers (signature : Signature) :
    Enclave.Carries signature (signatureMembers signature) (signatureResult signature) where
  whole := by simp [signatureMembers, signatureResult, Json.WholeMembers, Json.Whole]
  distinct := by
    show ["jsonrpc", "id", "result"].Nodup
    decide
  hasResult := rfl
  hasNoError := .inl rfl
  scalars := by
    intro m hm
    have := Bool.toNat_le signature.odd
    simp only [signatureResult, List.mem_cons, List.not_mem_nil, or_false] at hm
    rcases hm with rfl | rfl | rfl | rfl | rfl <;> simp [Enclave.Scalar]
    omega
  distinctResult := by
    show ["status", "errorMessage", "signature_v", "signature_r", "signature_s"].Nodup
    decide
  status := rfl
  errorMessage := .inr ⟨"", rfl⟩
  v := ⟨_, rfl, .inr rfl⟩
  r := ⟨_, rfl, _, spells_scalar signature.r, .inr (by simp [Hex.marked, Hex.bare])⟩
  s := ⟨_, rfl, _, spells_scalar signature.s, .inl (by simp [Hex.bare])⟩

theorem signs_constantEnclave {w : EnclaveWallet}
    (reachable : Url.isRequestable w.server.url = true)
    (signature : Signature) : Enclave.Signs (constantEnclave signature) w fun _ => signature where
  reachable := reachable
  answers := fun _ _ _ _ => ⟨200, _, _, rfl, carries_signatureMembers signature⟩

def unitPublicKey : PublicKey := .ofPoint (Curve.secp256k1.gx, Curve.secp256k1.gy)

theorem address_unitPublicKey : unitPublicKey.address = unitAccount := by decide +kernel

theorem recover?_dearSignature : dearSignature.recover? (pricedDraft 2).signingHash =
    some unitAccount := by
  have signer := signer?_dearEnvelope
  rwa [Envelope.signer?, if_pos (by decide : dearEnvelope.signature.IsLow)] at signer

def unitSoftware : LocalWallet := ⟨⟨unitPublicKey, fun _ => some dearSignature⟩⟩

def unitHardware : LedgerWallet := ⟨.direct, [1, 0x80, 0, 0, 0x2c], unitAccount, unitPublicKey⟩

def unitEnclave : EnclaveWallet :=
  ⟨⟨"https://enclave:1026", none⟩, "NEK:1", unitAccount, unitPublicKey⟩

def dearAnswer : Bytes :=
  37 :: (Bytes.ofNat 32 dearSignature.r.toNat ++ Bytes.ofNat 32 dearSignature.s.toNat)

theorem carries_dearAnswer : Ledger.Carries (pricedDraft 2) dearSignature dearAnswer :=
  ⟨37, rfl, rfl⟩

theorem unit_signers_sign_alike :
    unitSoftware.sign (pricedDraft 2) = .ok ((pricedDraft 2).signed dearSignature) ∧
    ((unitHardware.sign (pricedDraft 2)).run.run (joiningDevice dearAnswer) 0 []).result =
      .ok ((pricedDraft 2).signed dearSignature) ∧
    (((unitEnclave.sign (pricedDraft 2)).run.run 1).run (constantEnclave dearSignature) 0
      ()).result =
      (.ok ((pricedDraft 2).signed dearSignature), 2) :=
  software_device_enclave_sign_alike (fun _ => dearSignature) (pricedDraft 2) unitSoftware
    unitHardware unitEnclave
    id address_unitPublicKey.symm rfl rfl recover?_dearSignature (fun _ => rfl)
    (signs_joiningDevice rfl carries_dearAnswer)
      (signs_constantEnclave (by decide +kernel) dearSignature)
    ⟨0, []⟩ ⟨0, ()⟩ 1

end Dispatch

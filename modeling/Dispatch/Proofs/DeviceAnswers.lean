import Dispatch.Proofs.AddressAnswers
import Dispatch.Proofs.OutsideCourse
import Dispatch.Proofs.SignersAgree

/-!
# What the answers of a device come to

A wallet on a device returns the draft with the signature that the last answer begins with, and
sends just that. The account was named by an earlier answer, and nothing compares the two: whose
transaction it is, is left to the device.
-/

set_option autoImplicit false

namespace Dispatch
open Program (Environment Event Moment Leads Only)

namespace Ledger

/-- The commands that hand over a draft went through, the last one with this answer. -/
def LastAnswer {σ : Type} (env : Environment Outside σ) (w : LedgerWallet) (tx : Draft)
    (u : Moment σ) (es : List (Event Outside)) (answer : Bytes) (v : Moment σ) : Prop :=
  ∃ earlier last es₁ before m es₂, signCommands w.pathPrefix tx.signingBytes = earlier ++ [last] ∧
    Leads env (exchangeAll w.link earlier []).run u es₁ (.ok before) m ∧
    Leads env (exchange w.link last).run m es₂ (.ok answer) v ∧ es = es₁ ++ es₂

theorem signCommands_ne_nil (pathPrefix : Bytes) (tx : Draft) :
    signCommands pathPrefix tx.signingBytes ≠ [] := by
  have joined := Bytes.chunks_flatten chunkSize (pathPrefix ++ tx.signingBytes)
  rw [signCommands]
  cases hc : Bytes.chunks chunkSize (pathPrefix ++ tx.signingBytes) with
  | nil =>
    rw [hc, List.flatten_nil] at joined
    exact absurd (List.append_eq_nil_iff.mp joined.symm).2 tx.signingBytes_ne_nil
  | cons first more => exact List.cons_ne_nil _ _

theorem exists_carries (tx : Draft) (signature : Signature) :
    ∃ answer, Carries tx signature answer := by
  suffices byte : ∃ v, RecoveryByte tx signature.odd v by
    obtain ⟨v, recovery⟩ := byte
    exact ⟨_, v, recovery, rfl⟩
  unfold RecoveryByte
  cases tx.fees with
  | legacy gasPrice => exact ⟨.ofNat _, UInt8.toNat_ofNat'⟩
  | dynamic maxFee tip =>
    have small := Bool.toNat_le signature.odd
    refine ⟨.ofNat signature.odd.toNat, .inl ?_⟩
    rw [UInt8.toNat_ofNat', Nat.mod_eq_of_lt (by omega)]

section
variable {σ : Type} {env : Environment Outside σ} {w : LedgerWallet} {tx : Draft} {link : Link}
  {u v : Moment σ} {es : List (Event Outside)} {answer : Bytes}

theorem leads_exchangeAll_concat {cmds : List Bytes} {cmd last : Bytes} :
    Leads env (exchangeAll link (cmds ++ [cmd]) last).run u es (.ok answer) v ↔
      ∃ es₁ before m es₂, Leads env (exchangeAll link cmds last).run u es₁ (.ok before) m ∧
        Leads env (exchange link cmd).run m es₂ (.ok answer) v ∧ es = es₁ ++ es₂ := by
  induction cmds generalizing last u es with
  | nil =>
    rw [List.nil_append]
    refine Program.leads_except_bind.trans ?_
    constructor
    · rintro (⟨_, -, failed⟩ | ⟨es₁, a, m, es₂, asked, kept, rfl⟩)
      · cases failed
      · obtain ⟨rfl, result, rfl⟩ := Program.leads_except_pure.mp kept
        cases result
        exact ⟨[], last, u, es₁, Program.leads_except_pure.mpr ⟨rfl, rfl, rfl⟩, asked,
          List.append_nil es₁⟩
    · rintro ⟨_, before, m, es₂, kept, asked, rfl⟩
      obtain ⟨rfl, -, rfl⟩ := Program.leads_except_pure.mp kept
      exact .inr ⟨es₂, answer, v, [], asked, Program.leads_except_pure.mpr ⟨rfl, rfl, rfl⟩, by simp⟩
  | cons first cmds ih =>
    rw [List.cons_append]
    simp only [exchangeAll, Program.leads_except_bind, ih]
    constructor
    · rintro (⟨_, -, failed⟩ | ⟨es₁, a, m, _, asked, ⟨es₂, before, m', es₃, rest, final, rfl⟩, rfl⟩)
      · cases failed
      · exact ⟨es₁ ++ es₂, before, m', es₃, .inr ⟨es₁, a, m, es₂, asked, rest, rfl⟩, final,
          (List.append_assoc es₁ es₂ es₃).symm⟩
    · rintro ⟨_, before, m', es₃, ⟨_, -, failed⟩ | ⟨es₁, a, m, es₂, asked, rest, rfl⟩, final, rfl⟩
      · cases failed
      · exact .inr ⟨es₁, a, m, es₂ ++ es₃, asked, ⟨es₂, before, m', es₃, rest, final, rfl⟩,
          List.append_assoc es₁ es₂ es₃⟩

theorem lastAnswer_iff :
    LastAnswer env w tx u es answer v ↔
      Leads env (exchangeAll w.link (signCommands w.pathPrefix tx.signingBytes) []).run u es
        (.ok answer) v := by
  constructor
  · rintro ⟨earlier, last, es₁, before, m, es₂, split, sent, asked, joined⟩
    rw [split]
    exact leads_exchangeAll_concat.mpr ⟨es₁, before, m, es₂, sent, asked, joined⟩
  · intro course
    have split := List.dropLast_append_getLast (signCommands_ne_nil w.pathPrefix tx)
    rw [← split] at course
    obtain ⟨es₁, before, m, es₂, sent, asked, joined⟩ := leads_exchangeAll_concat.mp course
    exact ⟨_, _, es₁, before, m, es₂, split.symm, sent, asked, joined⟩

theorem sign_ok_iff {signed : SignedTransaction} :
    Leads env (w.sign tx).run u es (.ok signed) v ↔
      tx.sender = w.address ∧ ∃ answer signature, LastAnswer env w tx u es answer v ∧
        (∃ carried rest, Carries tx signature carried ∧ answer = carried ++ rest) ∧
          signed = tx.signed signature := by
  simp only [lastAnswer_iff, ← readSignature_ok_iff]
  unfold LedgerWallet.sign
  by_cases sender : tx.sender = w.address
  · rw [show Backend.ensureSender w.address tx = .ok () from if_pos sender]
    refine Program.leads_except_bind.trans ?_
    simp only [sender, true_and]
    constructor
    · rintro (⟨_, -, failed⟩ | ⟨es₁, answer, m, es₂, sent, rest, rfl⟩)
      · cases failed
      cases read : readSignature tx answer with
      | error fault =>
        rw [read] at rest
        cases (Program.leads_except_throw.mp rest).2.1
      | ok signature =>
        rw [read] at rest
        obtain ⟨rfl, result, rfl⟩ := Program.leads_except_pure.mp rest
        cases result
        rw [List.append_nil]
        exact ⟨answer, signature, sent, read, rfl⟩
    · rintro ⟨answer, signature, sent, read, rfl⟩
      refine .inr ⟨es, answer, v, [], sent, ?_, (List.append_nil es).symm⟩
      rw [read]
      exact Program.leads_except_pure.mpr ⟨rfl, rfl, rfl⟩
  · rw [show Backend.ensureSender w.address tx = _ from if_neg sender]
    refine iff_of_false (fun refused => ?_) fun own => sender own.1
    cases (Program.leads_except_throw.mp refused).2.1

end

/-! ## What is sent -/

/-- The node is not asked. -/
def OffNode (q : OutsideQuestion) : Prop := ∀ n, q ≠ .node n

theorem only_exchange (link : Link) (cmd : Bytes) : Only OffNode (exchange link cmd).run := by
  cases link with
  | direct => exact ⟨nofun, fun _ => trivial⟩
  | emulator =>
    have framed : Only OffNode (exchangeFramed cmd).run := by
      unfold exchangeFramed
      split
      · trivial
      · refine Only.bindExcept ⟨nofun, fun _ => trivial⟩ fun _ => ?_
        refine Only.bindExcept ⟨nofun, fun _ => trivial⟩ fun length => ?_
        refine Only.bindExcept ⟨nofun, fun _ => trivial⟩ fun data => ?_
        exact Only.bindExcept ⟨nofun, fun _ => trivial⟩ fun word => trivial
    refine Only.bindExcept framed.liftExcept fun
      | .error why => trivial
      | .ok (data, word) => ?_
    dsimp only
    split <;> trivial

theorem only_exchangeAll (link : Link) (cmds : List Bytes) (last : Bytes) :
    Only OffNode (exchangeAll link cmds last).run := by
  induction cmds generalizing last with
  | nil => trivial
  | cons cmd cmds ih => exact Only.bindExcept (only_exchange link cmd) ih

theorem only_sign (w : LedgerWallet) (tx : Draft) : Only OffNode (w.sign tx).run := by
  unfold LedgerWallet.sign
  split
  · trivial
  · refine Only.bindExcept (only_exchangeAll _ _ _) fun answer => ?_
    split <;> trivial

section
variable {σ τ : Type} {env : Environment Outside τ} {w : LedgerWallet} {tx : Draft} {hints : Hints}
  {s s' : σ} {u v : Moment τ} {es : List (Event Outside)} {r : Except Failure Handle}

theorem asks_sendRaw {raw : Bytes} {r : Except Failure Hash}
    (h : Action.Leads env (Action.ofNode (Node.sendRaw raw)) s u es r s' v) :
    ∃ answer, es = [.asked u.time (OutsideQuestion.node (.sendRaw raw)) answer] := by
  obtain ⟨course, -⟩ := Action.leads_ofTask.mp h
  obtain ⟨rest, rfl, result⟩ := Program.leads_ask.mp course
  obtain ⟨rfl, -⟩ := Program.leads_done.mp result
  exact ⟨_, rfl⟩

theorem sends_signed (h : Action.Leads env (w.backend.send tx hints) s u es r s' v) (raw : Bytes) :
    (∃ t answer, .asked t (OutsideQuestion.node (.sendRaw raw)) answer ∈ es) ↔
      ∃ es' signed m, Leads env (w.sign tx).run u es' (.ok signed) m ∧ raw = signed.raw := by
  have quiet {es' : List (Event Outside)} {r' : Except Failure SignedTransaction} {m : Moment τ}
      (course : Leads env (w.sign tx).run u es' r' m) (t : Nat)
      (answer : Outside.Answer (OutsideQuestion.node (.sendRaw raw))) :
      .asked t (OutsideQuestion.node (.sendRaw raw)) answer ∉ es' :=
    fun asked => course.within (only_sign w tx) _ asked _ rfl
  have h : Action.Leads env (Backend.broadcast (fun tx => Action.ofTask (w.sign tx)) tx) s u es r
    s' v := h
  rcases Action.leads_bind.mp h with ⟨e, failed, -⟩ | ⟨es₁, signed, _, m, es₂, course, sent, rfl⟩
  · obtain ⟨failed, -⟩ := Action.leads_ofTask.mp failed
    constructor
    · rintro ⟨t, answer, asked⟩
      exact absurd asked (quiet failed t answer)
    · rintro ⟨es', signed, m, course, -⟩
      cases congrArg Program.Run.result (failed.symm.trans course)
  · obtain ⟨course, -⟩ := Action.leads_ofTask.mp course
    have once : ∃ t answer, es₂ =
      [.asked t (OutsideQuestion.node (.sendRaw signed.raw)) answer] := by
      rcases Action.leads_bind.mp sent with ⟨_, refused, -⟩ | ⟨_, _, _, _, _, accepted, rest, rfl⟩
      · exact ⟨_, asks_sendRaw refused⟩
      · obtain ⟨rfl, -⟩ := Action.leads_pure.mp rest
        rw [List.append_nil]
        exact ⟨_, asks_sendRaw accepted⟩
    obtain ⟨t, answer, rfl⟩ := once
    constructor
    · rintro ⟨t', answer', asked⟩
      rcases List.mem_append.mp asked with asked | asked
      · exact absurd asked (quiet course t' answer')
      · cases List.mem_singleton.mp asked
        exact ⟨es₁, signed, m, course, rfl⟩
    · rintro ⟨es', signed', m', course', rfl⟩
      cases congrArg Program.Run.result (course.symm.trans course')
      exact ⟨t, answer, List.mem_append_right _ List.mem_cons_self⟩

end

/-! ## A device that has its answers ready -/

def ready : Environment Outside (List Bytes) := fun q t answers =>
  match q, answers with
  | .device _, answer :: rest => ⟨.ok answer, rest, t⟩
  | q, answers => ⟨q.refusal, answers, t⟩

theorem exchange_ready (cmd answer : Bytes) (rest : List Bytes) (t : Nat) :
    ∃ es, Leads ready (exchange .direct cmd).run ⟨t, answer :: rest⟩ es (.ok answer) ⟨t, rest⟩ :=
  ⟨_, Program.leads_ask_done.mpr ⟨rfl, rfl, rfl⟩⟩

theorem exchangeAll_ready (cmds answers rest : List Bytes) (last : Bytes) (t : Nat)
    (enough : cmds.length = answers.length) :
    ∃ es, Leads ready (exchangeAll .direct cmds last).run ⟨t, answers ++ rest⟩ es
      (.ok (answers.getLastD last))
      ⟨t, rest⟩ := by
  induction cmds generalizing answers last with
  | nil =>
    obtain rfl := List.length_eq_zero_iff.mp enough.symm
    exact ⟨[], Program.leads_except_pure.mpr ⟨rfl, rfl, rfl⟩⟩
  | cons cmd cmds ih =>
    cases answers with
    | nil => cases enough
    | cons answer answers =>
      obtain ⟨es, asked⟩ := exchange_ready cmd answer (answers ++ rest) t
      obtain ⟨es', more⟩ := ih answers answer (Nat.succ.inj enough)
      rw [List.getLastD_cons]
      exact ⟨es ++ es', Program.leads_except_bind.mpr (.inr ⟨es, answer, _, es', asked, more, rfl⟩)⟩

theorem sign_ready {w : LedgerWallet} {tx : Draft} {signature : Signature} {answer : Bytes}
    (direct : w.link = .direct) (sender : tx.sender = w.address)
    (carries : Carries tx signature answer) (t : Nat) :
    ∃ n es, Leads ready (w.sign tx).run ⟨t, List.replicate n answer⟩ es (.ok (tx.signed signature))
      ⟨t, []⟩ := by
  generalize hn : (signCommands w.pathPrefix tx.signingBytes).length = n
  have some : n ≠ 0 :=
    hn ▸ Nat.ne_of_gt (List.length_pos_of_ne_nil (signCommands_ne_nil w.pathPrefix tx))
  have last : (List.replicate n answer).getLastD [] = answer := by
    rw [List.getLastD_eq_getLast?, List.getLast?_replicate, if_neg some, Option.getD_some]
  obtain ⟨es, sent⟩ :=
    exchangeAll_ready (signCommands w.pathPrefix tx.signingBytes) (List.replicate n answer) [] [] t
    (by rw [hn, List.length_replicate])
  rw [last, List.append_nil, ← direct] at sent
  exact ⟨n, es, sign_ok_iff.mpr ⟨sender, answer, signature, lastAnswer_iff.mpr sent,
    ⟨answer, [], carries, (List.append_nil answer).symm⟩, rfl⟩⟩

/-! ## Opening an account -/

def addressAnswer (account : Address) (key : PublicKey) : Bytes :=
  65 :: ((4 :: key.toList) ++ 40 :: Bytes.ofText (Hex.bare account.toList))

theorem readAddressResponse_addressAnswer (account : Address) (key : PublicKey) :
    readAddressResponse (addressAnswer account key) = .ok (account, key) := by
  have written : Hex.Writes (Hex.bare account.toList).toList account.toList := by
    rw [Hex.bare, String.toList_ofList]
    exact Hex.writes_pairs account.toList
  have named := names_of_writes written key []
  rw [List.append_nil] at named
  exact readAddressResponse_names named

theorem connect_ready (account : Address) (key : PublicKey) {index : UInt32} {legacy : Bool}
    {path : Bytes}
    (encoded : DerivationPath.encode (DerivationPath.account index legacy) = .ok path)
    (rest : List Bytes) (t : Nat) :
    ∃ es, Leads ready (LedgerWallet.connect .direct index legacy).run
      ⟨t, addressAnswer account key :: rest⟩ es
      (.ok ⟨.direct, path, account, key⟩) ⟨t, rest⟩ := by
  obtain ⟨es, named⟩ := exchange_ready (addressCommand path) (addressAnswer account key) rest t
  refine ⟨es ++ [], ?_⟩
  unfold LedgerWallet.connect
  rw [encoded]
  refine Program.leads_except_bind.mpr (.inr ⟨es, _, _, [], named, ?_, rfl⟩)
  rw [readAddressResponse_addressAnswer]
  exact Program.leads_except_pure.mpr ⟨rfl, rfl, rfl⟩

end Ledger

open Ledger in
/-- A wallet on a device signs only its account's drafts, each with the signature that the device's
last answer begins with, and hands the node just what it signs. A device that signs with the
account's key so makes the account's transactions; but the account is not checked, and any signature
at all is returned if the device carries it. -/
theorem device_decides_signer (w : LedgerWallet) (tx : Draft) :
    (∀ {σ : Type} {env : Environment Outside σ} {u es signed v}, Leads env (w.sign tx).run u es
      (.ok signed) v ↔
      tx.sender = w.address ∧ ∃ answer signature, LastAnswer env w tx u es answer v ∧
        (∃ carried rest, Carries tx signature carried ∧ answer = carried ++ rest) ∧
          signed = tx.signed signature) ∧
    (∀ {σ τ : Type} {env : Environment Outside τ} {hints u es r v} {s s' : σ},
      Action.Leads env (w.backend.send tx hints) s u es r s' v →
      ∀ raw, (∃ t answer, .asked t (OutsideQuestion.node (.sendRaw raw)) answer ∈ es) ↔
        ∃ es' signed m, Leads env (w.sign tx).run u es' (.ok signed) m ∧ raw = signed.raw) ∧
    (∀ {σ : Type} {env : Environment Outside σ} {signature held}, Signs env w tx signature held →
      tx.sender = w.address → signature.recover? tx.signingHash = some w.address →
      ∀ u, ∃ es signed v, Leads env (w.sign tx).run u es (.ok signed) v ∧
        signed.signature.recover? tx.signingHash = some w.address) ∧
    (w.link = .direct → tx.sender = w.address →
      ∀ signature, ∃ answers es v, Leads ready (w.sign tx).run ⟨0, answers⟩ es
        (.ok (tx.signed signature)) v) := by
  refine ⟨sign_ok_iff, sends_signed, ?honest, ?any⟩
  case honest =>
    intro σ env signature held signs sender recovers u
    obtain ⟨es, v, course⟩ := signs.sign sender u
    exact ⟨es, _, v, course, recovers⟩
  case any =>
    intro direct sender signature
    obtain ⟨answer, carries⟩ := exists_carries tx signature
    obtain ⟨n, es, course⟩ := sign_ready direct sender carries 0
    exact ⟨_, es, _, course⟩

theorem unitHardware_signs_and_sends :
    ∃ es signed v, Leads (joiningDevice dearAnswer)
    (unitHardware.sign (pricedDraft 2)).run ⟨0, []⟩ es (.ok signed) v ∧
      signed.signature.recover? (pricedDraft 2).signingHash = some unitHardware.address ∧
      ∃ es r v, Action.Leads (joiningDevice dearAnswer)
        (unitHardware.backend.send (pricedDraft 2) ⟨none, none, none, none⟩) () ⟨0, []⟩ es r () v ∧
        ∃ t answer, .asked t (OutsideQuestion.node (.sendRaw signed.raw)) answer ∈ es := by
  obtain ⟨-, sends, honest, -⟩ := device_decides_signer unitHardware (pricedDraft 2)
  obtain ⟨es, signed, v, course, recovers⟩ :=
    honest (signs_joiningDevice rfl carries_dearAnswer) rfl recover?_dearSignature ⟨0, []⟩
  have sent := Program.leads_run (joiningDevice dearAnswer)
    ((unitHardware.backend.send (pricedDraft 2) ⟨none, none, none, none⟩).run.run ()) ⟨0, []⟩
  exact ⟨es, signed, v, course, recovers, _, _, _, sent, (sends sent signed.raw).mpr
    ⟨es, signed, v, course, rfl⟩⟩

/-! ## A device that names one account and signs for another -/

def misledDraft : Draft := { pricedDraft 2 with sender := .ofNat 1 }

/-- A device can name an account that is not its key's, and then the account's drafts are returned
as transactions of the key's account. -/
theorem foreign_signature_returned :
    ¬ ∀ (answers : List Bytes) (index : UInt32) (legacy : Bool) (w : LedgerWallet) (tx : Draft)
      (signed : SignedTransaction) (u v : Moment (List Bytes)) (es es' : List (Event Outside)),
      Leads Ledger.ready (LedgerWallet.connect .direct index legacy).run ⟨0, answers⟩ es (.ok w) u →
      Leads Ledger.ready (w.sign tx).run u es' (.ok signed) v →
      signed.signature.recover? tx.signingHash = some w.address := by
  intro own
  have path : ∃ path, DerivationPath.encode (DerivationPath.account 0 false) = .ok path := ⟨_, rfl⟩
  obtain ⟨path, encoded⟩ := path
  have carries : Ledger.Carries misledDraft dearSignature dearAnswer := carries_dearAnswer
  obtain ⟨n, es', signed⟩ :=
    Ledger.sign_ready (w := ⟨.direct, path, .ofNat 1, unitPublicKey⟩) rfl rfl carries 0
  obtain ⟨es, opened⟩ :=
    Ledger.connect_ready (.ofNat 1) unitPublicKey encoded (List.replicate n dearAnswer) 0
  have recovered : dearSignature.recover? misledDraft.signingHash = some (.ofNat 1) :=
    own _ _ _ _ _ _ _ _ _ _ opened signed
  have same : misledDraft.signingHash = (pricedDraft 2).signingHash := rfl
  rw [same, recover?_dearSignature] at recovered
  exact absurd recovered (by decide)

end Dispatch

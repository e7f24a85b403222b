import Dispatch.Proofs.Course
import Dispatch.Proofs.Digits
import Dispatch.Proofs.SignedBytes
import Dispatch.Wallet.Ledger

/-!
# Signing on a device

What is to be signed reaches the device in parts, in order and without loss. A device that joins
them and signs what stands behind the path answers with a signature that is read as it was made.
-/

set_option autoImplicit false

namespace Dispatch

namespace Bytes

theorem chunks_flatten (size : Nat) (b : Bytes) : (chunks size b).flatten = b := by
  fun_induction chunks size b with
  | case1 => rfl
  | case2 d rest ih => rw [List.flatten_cons, ih, List.cons_append, List.take_append_drop]

theorem length_le_of_mem_chunks {size : Nat} (hs : 0 < size) (b : Bytes) :
    ∀ part ∈ chunks size b, part.length ≤ size := by
  fun_induction chunks size b with
  | case1 => simp
  | case2 d rest ih =>
    intro part hp
    rcases List.mem_cons.mp hp with rfl | hp
    · rw [List.length_cons, List.length_take]
      omega
    · exact ih part hp

end Bytes

theorem Draft.signingBytes_ne_nil (tx : Draft) : tx.signingBytes ≠ [] := by
  intro h
  have last := tx.getLast?_signingBytes
  rw [h] at last
  cases hf : tx.fees with
  | legacy gasPrice =>
    rw [hf] at last
    cases last
  | dynamic maxFee tip =>
    rw [hf] at last
    cases last

namespace Ledger
open Program (Environment Event Moment Leads)

/-- The recovery byte of a device: bound to the chain in the plain form and cut to a byte, else the
parity, plain or counted from 27. -/
def RecoveryByte (tx : Draft) (odd : Bool) (v : UInt8) : Prop :=
  match tx.fees with
  | .legacy _ => v.toNat = (2 * tx.chainId.toNat + 35 + odd.toNat) % 256
  | .dynamic _ _ => v.toNat = odd.toNat ∨ v.toNat = 27 + odd.toNat

/-- An answer that carries a signature of a draft. -/
def Carries (tx : Draft) (signature : Signature) (answer : Bytes) : Prop :=
  ∃ v, RecoveryByte tx signature.odd v ∧
    answer = v :: (Bytes.ofNat 32 signature.r.toNat ++ Bytes.ofNat 32 signature.s.toNat)

theorem toNat_chainOffset (chainId : UInt64) :
    (chainOffset chainId).toNat = (2 * chainId.toNat + 35) % 256 := by
  rw [chainOffset, UInt64.toNat_toUInt8, UInt64.toNat_mod, UInt64.toNat_add, UInt64.toNat_mul]
  simp only [UInt64.reduceToNat]
  omega

example : chainOffset 0xffffffffffffffee = 255 ∧ 0 - chainOffset 0xffffffffffffffee = 1 := by decide

theorem recoveryByte_iff {tx : Draft} {odd : Bool} {v : UInt8} :
    RecoveryByte tx odd v ↔ (parityByte tx v).toNat = odd.toNat := by
  have small : odd.toNat ≤ 1 := Bool.toNat_le odd
  have byte : v.toNat < 256 := v.toNat_lt
  unfold RecoveryByte parityByte
  cases tx.fees with
  | legacy gasPrice =>
    simp only
    rw [UInt8.toNat_sub, toNat_chainOffset]
    omega
  | dynamic maxFee tip =>
    simp only
    by_cases counted : 27 ≤ v
    · have hv : 27 ≤ v.toNat := UInt8.le_iff_toNat_le.mp counted
      rw [if_pos counted, UInt8.toNat_sub_of_le _ _ counted]
      simp only [UInt8.reduceToNat]
      omega
    · have hv : ¬ 27 ≤ v.toNat := fun hle => counted (UInt8.le_iff_toNat_le.mpr hle)
      rw [if_neg counted]
      omega

theorem readSignature_carried {tx : Draft} {signature : Signature} {carried : Bytes}
    (h : Carries tx signature carried) (rest : Bytes) :
    readSignature tx (carried ++ rest) = .ok signature := by
  obtain ⟨v, recovery, rfl⟩ := h
  have parity := recoveryByte_iff.mp recovery
  have small : ¬ 1 < parityByte tx v := by
    have := Bool.toNat_le signature.odd
    rw [UInt8.lt_iff_toNat_lt, parity]
    exact Nat.not_lt.mpr this
  have odd : (parityByte tx v == 1) = signature.odd := by
    rw [Bool.eq_iff_iff, beq_iff_eq, ← UInt8.toNat_inj, parity]
    cases signature.odd <;> decide
  generalize hr : Bytes.ofNat 32 signature.r.toNat = r
  generalize hs : Bytes.ofNat 32 signature.s.toNat = s
  have lr : r.length = 32 := hr ▸ Bytes.length_ofNat 32 _
  have ls : s.length = 32 := hs ▸ Bytes.length_ofNat 32 _
  have long : ¬ (r ++ s ++ rest).length < 64 := by
    rw [List.length_append, List.length_append, lr, ls]
    omega
  have first : (r ++ s ++ rest).take 32 = r := by rw [List.append_assoc, List.take_left' lr]
  have second : ((r ++ s ++ rest).drop 32).take 32 = s := by
    rw [List.append_assoc, List.drop_left' lr, List.take_left' ls]
  rw [List.cons_append, readSignature, if_neg long, if_neg small, first, second, odd, ← hr, ← hs,
    Bytes.word_toNat_ofNat, Bytes.word_toNat_ofNat]

theorem readSignature_of_carries {tx : Draft} {signature : Signature} {answer : Bytes}
    (h : Carries tx signature answer) : readSignature tx answer = .ok signature := by
  have read := readSignature_carried h []
  rwa [List.append_nil] at read

theorem readSignature_ok_iff {tx : Draft} {signature : Signature} {answer : Bytes} :
    readSignature tx answer = .ok signature ↔ ∃ carried rest, Carries tx signature carried ∧
      answer = carried ++ rest := by
  constructor
  · intro h
    unfold readSignature at h
    split at h
    · rename_i v body
      split_ifs at h with short wild
      cases h
      have scalar {b : Bytes} (hb : b.length = 32) :
        Bytes.ofNat 32 (BitVec.ofNat 256 b.toNat).toNat = b := by
        have bound : b.toNat < 2 ^ 256 := by
          have := Bytes.toNat_lt b
          rwa [hb] at this
        rw [BitVec.toNat_ofNat, Nat.mod_eq_of_lt bound, ← hb, Bytes.ofNat_toNat]
      have parity : (parityByte tx v).toNat = (parityByte tx v == 1).toNat := by
        have small : (parityByte tx v).toNat ≤ 1 := Nat.not_lt.mp fun large =>
          wild (UInt8.lt_iff_toNat_lt.mpr large)
        by_cases one : parityByte tx v = 1
        · simp [one]
        · have zero : (parityByte tx v).toNat ≠ 1 := fun same => one (UInt8.toNat_inj.mp same)
          rw [beq_eq_false_iff_ne.mpr one, Bool.toNat_false]
          omega
      refine ⟨_, body.drop 64, ⟨v, recoveryByte_iff.mpr parity, rfl⟩, ?_⟩
      rw [scalar (by rw [List.length_take]; omega),
        scalar (by rw [List.length_take, List.length_drop]; omega),
        List.cons_append]
      congr 1
      rw [← List.take_add, List.take_append_drop]
    · cases h
  · rintro ⟨carried, rest, carries, rfl⟩
    exact readSignature_carried carries rest

/-! ## The commands of one signature -/

/-- A device that joins the data of the commands to sign, where the first one starts anew, and that
answers with a signature of the draft once it holds all of it behind the path. -/
structure Signs {σ : Type} (env : Environment Outside σ) (w : LedgerWallet) (tx : Draft)
    (signature : Signature) (held : σ → Bytes) : Prop where
  starts : ∀ u data, data.length ≤ chunkSize → ∃ es answer v,
    Leads env (exchange w.link (command 0x04 0x00 data)).run u es (.ok answer) v ∧
      held v.state = data ∧ (data = w.pathPrefix ++ tx.signingBytes → Carries tx signature answer)
  continues : ∀ u data, data.length ≤ chunkSize → ∃ es answer v,
    Leads env (exchange w.link (command 0x04 0x80 data)).run u es (.ok answer) v ∧
      held v.state = held u.state ++ data ∧
      (held u.state ++ data = w.pathPrefix ++ tx.signingBytes → Carries tx signature answer)

section
variable {σ : Type} {env : Environment Outside σ} {w : LedgerWallet} {tx : Draft}
  {signature : Signature} {held : σ → Bytes}

theorem Signs.rest (h : Signs env w tx signature held) (parts : List Bytes)
    (short : ∀ part ∈ parts, part.length ≤ chunkSize) (last : Bytes) (u : Moment σ)
    (whole : held u.state ++ parts.flatten = w.pathPrefix ++ tx.signingBytes)
    (carries : parts = [] → Carries tx signature last) :
    ∃ es answer v, Leads env (exchangeAll w.link (parts.map (command 0x04 0x80)) last).run u es
      (.ok answer) v ∧ Carries tx signature answer := by
  induction parts generalizing last u with
  | nil => exact ⟨[], last, u, Program.leads_except_pure.mpr ⟨rfl, rfl, rfl⟩, carries rfl⟩
  | cons part parts ih =>
    obtain ⟨es, answer, v, sent, joined, answered⟩ :=
      h.continues u part (short part List.mem_cons_self)
    rw [List.flatten_cons, ← List.append_assoc] at whole
    have done : parts = [] → Carries tx signature answer := by
      intro hp
      apply answered
      rwa [hp, List.flatten_nil, List.append_nil] at whole
    rw [← joined] at whole
    obtain ⟨es', answer', v', more, result⟩ :=
      ih (fun p hp => short p (List.mem_cons_of_mem part hp)) answer v whole done
    exact ⟨es ++ es', answer', v', Program.leads_except_bind.mpr
      (.inr ⟨es, answer, v, es', sent, more, rfl⟩),
      result⟩

theorem Signs.all (h : Signs env w tx signature held) (u : Moment σ) :
    ∃ es answer v,
      Leads env (exchangeAll w.link (signCommands w.pathPrefix tx.signingBytes) []).run u es
      (.ok answer) v ∧ Carries tx signature answer := by
  have joined := Bytes.chunks_flatten chunkSize (w.pathPrefix ++ tx.signingBytes)
  have positive : 0 < chunkSize := by decide
  have short := Bytes.length_le_of_mem_chunks positive (w.pathPrefix ++ tx.signingBytes)
  rw [signCommands]
  cases hc : Bytes.chunks chunkSize (w.pathPrefix ++ tx.signingBytes) with
  | nil =>
    rw [hc, List.flatten_nil] at joined
    exact absurd (List.append_eq_nil_iff.mp joined.symm).2 tx.signingBytes_ne_nil
  | cons first more =>
    rw [hc] at joined short
    obtain ⟨es, answer, v, sent, holds, answered⟩ :=
      h.starts u first (short first List.mem_cons_self)
    have whole : held v.state ++ more.flatten = w.pathPrefix ++ tx.signingBytes := by
      rw [holds, ← joined, List.flatten_cons]
    have done : more = [] → Carries tx signature answer := by
      intro hm
      apply answered
      rw [← whole, holds, hm, List.flatten_nil, List.append_nil]
    obtain ⟨es', answer', v', rest, result⟩ :=
      h.rest more (fun p hp => short p (List.mem_cons_of_mem first hp)) answer v whole done
    exact ⟨es ++ es', answer', v', Program.leads_except_bind.mpr
      (.inr ⟨es, answer, v, es', sent, rest, rfl⟩),
      result⟩

theorem Signs.sign (h : Signs env w tx signature held) (sender : tx.sender = w.address)
    (u : Moment σ) :
    ∃ es v, Leads env (w.sign tx).run u es (.ok (tx.signed signature)) v := by
  obtain ⟨es, answer, v, sent, carries⟩ := h.all u
  have own : Backend.ensureSender w.address tx = .ok () := if_pos sender
  have read := readSignature_of_carries carries
  refine ⟨es ++ [], v, ?_⟩
  unfold LedgerWallet.sign
  rw [own]
  apply Program.leads_except_bind.mpr
  right
  refine ⟨es, answer, v, [], sent, ?_, rfl⟩
  rw [read]
  exact Program.leads_except_pure.mpr ⟨rfl, rfl, rfl⟩

end

end Ledger

end Dispatch

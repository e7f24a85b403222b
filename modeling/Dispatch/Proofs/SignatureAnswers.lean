import Dispatch.Proofs.DeviceSigning
import Mathlib.Data.Nat.Digits.Defs

/-!
# Answers that are a signature

Which answers of a device are read as a signature, and as which one. Both scalars stand behind the
recovery byte, and what follows them is passed over. In the plain form of a transaction the recovery
byte counts from a number of the chain, of which only the lowest byte is left. That is enough: the
two parities differ by one, so a byte is the recovery byte of one of them at most.
-/

set_option autoImplicit false

namespace Dispatch

theorem Bytes.toNat_eq_ofDigits (b : Bytes) :
    b.toNat = Nat.ofDigits 256 (b.reverse.map UInt8.toNat) := by
  induction b using List.reverseRecOn with
  | nil => rfl
  | append_singleton b d ih =>
    rw [toNat_concat, ih, List.reverse_concat, List.map_cons, Nat.ofDigits_cons, Nat.add_comm]

namespace Ledger

section
variable {tx : Draft} {answer : Bytes} {signature : Signature} {v : UInt8} {fault : Malformation}

/-! ## The recovery byte -/

theorem RecoveryByte.unique {odd odd' : Bool} (h : RecoveryByte tx odd v)
    (h' : RecoveryByte tx odd' v) :
    odd = odd' := by
  have same : odd.toNat = odd'.toNat := (recoveryByte_iff.mp h).symm.trans (recoveryByte_iff.mp h')
  revert same
  cases odd <;> cases odd' <;> decide

theorem stray_iff : (∀ odd, ¬ RecoveryByte tx odd v) ↔ 1 < parityByte tx v := by
  simp only [recoveryByte_iff, Bool.forall_bool, Bool.toNat_false, Bool.toNat_true,
    UInt8.lt_iff_toNat_lt,
    UInt8.reduceToNat]
  omega

/-! ## The whole answer -/

/-- An answer gives a signature of a draft: a recovery byte of its parity, then both scalars in 32
bytes each, the most significant one first. -/
structure Gives (tx : Draft) (answer : Bytes) (signature : Signature) : Prop where
  long : 65 ≤ answer.length
  r : signature.r.toNat = Nat.ofDigits 256 ((answer.extract 1 33).reverse.map UInt8.toNat)
  s : signature.s.toNat = Nat.ofDigits 256 ((answer.extract 33 65).reverse.map UInt8.toNat)
  parity : ∃ v ∈ answer.head?, RecoveryByte tx signature.odd v

/-- Why an answer gives no signature of a draft. -/
inductive GivesNone (tx : Draft) (answer : Bytes) : Malformation → Prop
  | short : answer.length < 65 → GivesNone tx answer (.signatureLength answer.length)
  | stray (v : UInt8) : 65 ≤ answer.length → v ∈ answer.head? → (∀ odd, ¬ RecoveryByte tx odd v) →
      GivesNone tx answer (.recoveryByte v)

theorem ofNat_word_eq_iff {x : BitVec 256} {b : Bytes} (word : b.length = 32) :
    Bytes.ofNat 32 x.toNat = b ↔ x.toNat = Nat.ofDigits 256 (b.reverse.map UInt8.toNat) := by
  rw [← Bytes.toNat_eq_ofDigits]
  constructor
  · rintro rfl
    have bound : x.toNat < 256 ^ 32 := x.isLt
    rw [Bytes.toNat_ofNat, Nat.mod_eq_of_lt bound]
  · intro value
    rw [value, ← word, Bytes.ofNat_toNat]

theorem gives_iff_carries :
    Gives tx answer signature ↔ ∃ carried rest, Carries tx signature carried ∧
      answer = carried ++ rest := by
  constructor
  · rintro ⟨long, r, s, v, first, recovery⟩
    obtain ⟨body, rfl⟩ := List.head?_eq_some_iff.mp first
    rw [List.length_cons] at long
    rw [List.extract_eq_take_drop, List.drop_succ_cons] at r s
    rw [← ofNat_word_eq_iff (by rw [List.length_take, List.length_drop]; omega)] at r s
    refine ⟨_, body.drop 64, ⟨v, recovery, rfl⟩, ?_⟩
    rw [r, s, List.drop_zero, List.cons_append, ← List.take_add, List.take_append_drop]
  · rintro ⟨_, rest, ⟨v, recovery, rfl⟩, rfl⟩
    generalize hr : Bytes.ofNat 32 signature.r.toNat = r
    generalize hs : Bytes.ofNat 32 signature.s.toNat = s
    have lr : r.length = 32 := hr ▸ Bytes.length_ofNat 32 _
    have ls : s.length = 32 := hs ▸ Bytes.length_ofNat 32 _
    rw [List.cons_append, List.append_assoc]
    have first : (v :: (r ++ (s ++ rest))).extract 1 33 = r := List.take_left' lr
    have second : (v :: (r ++ (s ++ rest))).extract 33 65 = s := by
      rw [List.extract_eq_take_drop, List.drop_succ_cons, List.drop_left' lr, List.take_left' ls]
    rw [ofNat_word_eq_iff lr] at hr
    rw [ofNat_word_eq_iff ls] at hs
    rw [← first] at hr
    rw [← second] at hs
    refine ⟨?_, hr, hs, v, rfl, recovery⟩
    rw [List.length_cons, List.length_append, List.length_append]
    omega

/-- Just the answers that give a signature are read, as the one that they give. -/
theorem readSignature_ok_iff_gives : readSignature tx answer = .ok signature ↔
    Gives tx answer signature :=
  readSignature_ok_iff.trans gives_iff_carries.symm

theorem readSignature_error_iff : readSignature tx answer = .error fault ↔
    GivesNone tx answer fault := by
  constructor
  · intro h
    unfold readSignature at h
    split at h
    next v body =>
      split_ifs at h with short wild
      · cases h
        exact .short (by rw [List.length_cons]; omega)
      · cases h
        exact .stray v (by rw [List.length_cons]; omega) rfl (stray_iff.mpr wild)
    · cases h
      exact .short (by decide)
  · rintro (short | ⟨v, long, first, stray⟩)
    · cases answer with
      | nil => rfl
      | cons v body =>
        rw [List.length_cons] at short
        exact if_pos (by omega)
    · obtain ⟨body, rfl⟩ := List.head?_eq_some_iff.mp first
      rw [List.length_cons] at long
      rw [readSignature, if_neg (by omega), if_pos (stray_iff.mp stray)]

end

end Ledger

open Ledger in
/-- An answer of at least 65 bytes is read as a signature just when its first byte is a recovery
byte of the draft: of the parity of the signature, whose scalars are the numbers of the bytes behind
it. No byte is one of both parities. Every other answer is malformed, and it is told why. -/
theorem signature_answers_are_read (tx : Draft) (answer : Bytes) :
    (∀ signature, readSignature tx answer = .ok signature ↔ Gives tx answer signature) ∧
    (∀ fault, readSignature tx answer = .error fault ↔ GivesNone tx answer fault) ∧
    ∀ v, ¬ (RecoveryByte tx false v ∧ RecoveryByte tx true v) := by
  refine ⟨fun signature => readSignature_ok_iff_gives, fun fault => readSignature_error_iff, ?_⟩
  rintro v ⟨even, odd⟩
  cases even.unique odd

end Dispatch

import Dispatch.Bytes
import Mathlib.Algebra.Group.Nat.Defs
import Mathlib.Data.List.Induction

/-!
# Numbers and their bytes

A byte string and its number determine each other, once the length is known or no zero stands in
front.
-/

set_option autoImplicit false

namespace Dispatch.Bytes

@[simp] theorem toNat_nil : toNat [] = 0 := rfl

@[simp] theorem toNat_concat (b : Bytes) (d : UInt8) :
    toNat (b ++ [d]) = 256 * toNat b + d.toNat := by
  simp [toNat]

theorem head?_concat {b : Bytes} (h : b ≠ []) (d : UInt8) : (b ++ [d]).head? = b.head? := by
  cases b with
  | nil => exact (h rfl).elim
  | cons e b => rfl

theorem toNat_lt (b : Bytes) : toNat b < 256 ^ b.length := by
  induction b using List.reverseRecOn with
  | nil => simp
  | append_singleton b d ih =>
    have hd := d.toNat_lt
    rw [toNat_concat, List.length_append, List.length_singleton, Nat.pow_succ]
    omega

/-! ## A fixed number of digits -/

@[simp] theorem toNat_ofNat (width n : Nat) : toNat (ofNat width n) = n % 256 ^ width := by
  induction width generalizing n with
  | zero => simp [ofNat, Nat.mod_one]
  | succ width ih =>
    have hp : 256 ^ (width + 1) = 256 * 256 ^ width := Nat.pow_succ'
    rw [ofNat, toNat_concat, ih, UInt8.toNat_ofNat', hp, Nat.mod_mul]
    omega

theorem ofNat_toNat (b : Bytes) : ofNat b.length (toNat b) = b := by
  induction b using List.reverseRecOn with
  | nil => rfl
  | append_singleton b d ih =>
    have hd := d.toNat_lt
    rw [List.length_append, List.length_singleton, ofNat, toNat_concat]
    have hq : (256 * toNat b + d.toNat) / 256 = toNat b := by omega
    have hr : UInt8.ofNat (256 * toNat b + d.toNat) = d := by
      apply UInt8.toNat_inj.mp
      rw [UInt8.toNat_ofNat']
      omega
    rw [hq, hr, ih]

theorem word_toNat_ofNat (x : BitVec 256) : BitVec.ofNat 256 (toNat (ofNat 32 x.toNat)) = x := by
  have bound : x.toNat < 256 ^ 32 := x.isLt
  rw [toNat_ofNat, Nat.mod_eq_of_lt bound, BitVec.ofNat_toNat, BitVec.setWidth_eq]

/-! ## The shortest digits -/

@[simp] theorem ofNatMinimal_zero : ofNatMinimal 0 = [] := by
  rw [ofNatMinimal]
  rfl

theorem ofNatMinimal_of_pos {n : Nat} (h : n ≠ 0) :
    ofNatMinimal n = ofNatMinimal (n / 256) ++ [UInt8.ofNat n] := by
  rw [ofNatMinimal, if_neg h]

@[simp] theorem toNat_ofNatMinimal (n : Nat) : toNat (ofNatMinimal n) = n := by
  induction n using Nat.strongRecOn with
  | ind n ih =>
    by_cases h : n = 0
    · simp [h]
    · rw [ofNatMinimal_of_pos h, toNat_concat, ih (n / 256) (by omega), UInt8.toNat_ofNat']
      omega

theorem ofNatMinimal_inj {m n : Nat} : ofNatMinimal m = ofNatMinimal n ↔ m = n := by
  constructor
  · intro h
    rw [← toNat_ofNatMinimal m, h, toNat_ofNatMinimal]
  · rintro rfl
    rfl

theorem head?_ofNatMinimal (n : Nat) : (ofNatMinimal n).head? ≠ some 0 := by
  induction n using Nat.strongRecOn with
  | ind n ih =>
    by_cases h : n = 0
    · simp [h]
    rw [ofNatMinimal_of_pos h]
    by_cases hq : n / 256 = 0
    · have hd : UInt8.ofNat n ≠ 0 := by
        intro h0
        have := congrArg UInt8.toNat h0
        rw [UInt8.toNat_ofNat'] at this
        simp at this
        omega
      simpa [hq] using hd
    · have hne : ofNatMinimal (n / 256) ≠ [] := by
        rw [ofNatMinimal_of_pos hq]
        simp
      rw [head?_concat hne]
      exact ih (n / 256) (by omega)

theorem ofNatMinimal_toNat {b : Bytes} (h : b.head? ≠ some 0) : ofNatMinimal (toNat b) = b := by
  induction b using List.reverseRecOn with
  | nil => simp
  | append_singleton b d ih =>
    have hd := d.toNat_lt
    have hq : (256 * toNat b + d.toNat) / 256 = toNat b := by omega
    have hr : UInt8.ofNat (256 * toNat b + d.toNat) = d := by
      apply UInt8.toNat_inj.mp
      rw [UInt8.toNat_ofNat']
      omega
    have hb : ofNatMinimal (toNat b) = b := by
      by_cases hne : b = []
      · simp [hne]
      · exact ih (by rwa [head?_concat hne] at h)
    have hpos : toNat (b ++ [d]) ≠ 0 := by
      intro h0
      rw [toNat_concat] at h0
      have h0b : toNat b = 0 := by omega
      rw [h0b, ofNatMinimal_zero] at hb
      subst hb
      have h0d : d = 0 := UInt8.toNat_inj.mp (by simp; omega)
      simp [h0d] at h
    rw [ofNatMinimal_of_pos hpos, toNat_concat, hq, hr, hb]

theorem lt_pow_length_ofNatMinimal (n : Nat) : n < 256 ^ (ofNatMinimal n).length := by
  have h := toNat_lt (ofNatMinimal n)
  rwa [toNat_ofNatMinimal] at h

theorem length_ofNatMinimal_le {n k : Nat} (h : n < 256 ^ k) : (ofNatMinimal n).length ≤ k := by
  induction k generalizing n with
  | zero =>
    have h0 : n = 0 := by simpa using h
    simp [h0]
  | succ k ih =>
    by_cases h0 : n = 0
    · simp [h0]
    have hq : n / 256 < 256 ^ k := by
      rw [Nat.pow_succ] at h
      exact Nat.div_lt_of_lt_mul (by omega)
    rw [ofNatMinimal_of_pos h0, List.length_append, List.length_singleton]
    exact Nat.succ_le_succ (ih hq)

theorem length_ofNatMinimal_pos {n : Nat} (h : n ≠ 0) : 0 < (ofNatMinimal n).length := by
  rw [ofNatMinimal_of_pos h]
  simp

theorem length_ofNatMinimal_mono {m n : Nat} (h : m ≤ n) :
    (ofNatMinimal m).length ≤ (ofNatMinimal n).length :=
  length_ofNatMinimal_le (Nat.lt_of_le_of_lt h (lt_pow_length_ofNatMinimal n))

end Dispatch.Bytes

namespace Dispatch

theorem FixedBytes.toList_inj {n : Nat} {a b : FixedBytes n} : a.toList = b.toList ↔ a = b := by
  constructor
  · intro h
    cases a
    cases b
    cases h
    rfl
  · rintro rfl
    rfl

end Dispatch

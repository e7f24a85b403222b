import Dispatch.Text.Lossy

/-!
# Bytes of a text

The bytes of a text are read back as that text, also by the reading that replaces what is broken.
-/

set_option autoImplicit false

namespace Dispatch

namespace Bytes

theorem toNat_ofNat_byte {n : Nat} (h : n < 256) : (UInt8.ofNat n).toNat = n := by
  rw [UInt8.toNat_ofNat']
  exact Nat.mod_eq_of_lt h

theorem toListLoop_eq (b : ByteArray) (i : Nat) (acc : Bytes) :
    ByteArray.toList.loop b i acc = acc.reverse ++ b.data.toList.drop i := by
  fun_induction ByteArray.toList.loop b i acc with
  | case1 i acc h ih =>
    have hi : i < b.data.toList.length := by rwa [Array.length_toList]
    rw [ih, List.drop_eq_getElem_cons hi]
    simp [ByteArray.get!, h]
  | case2 i acc h =>
    have hi : b.data.toList.length ≤ i := by rw [Array.length_toList]; exact Nat.le_of_not_lt h
    rw [List.drop_of_length_le hi, List.append_nil]

theorem ofText_eq_data (s : String) : ofText s = s.toByteArray.data.toList := by
  unfold ofText String.toUTF8 ByteArray.toList
  rw [toListLoop_eq]
  rfl

theorem ofText_eq_flatMap (s : String) : ofText s = s.toList.flatMap String.utf8EncodeChar := by
  rw [ofText_eq_data, ← String.utf8Encode_toList, List.utf8Encode, List.toList_data_toByteArray]

theorem toText?_ofText (s : String) : toText? (ofText s) = some s := by
  unfold toText?
  rw [ofText_eq_data, String.fromUTF8?]
  exact dif_pos s.isValidUTF8

theorem toText?_eq_some_iff {b : Bytes} {s : String} : toText? b = some s ↔ b = ofText s := by
  constructor
  · intro h
    rw [toText?, String.fromUTF8?] at h
    split at h
    · cases h
      rw [ofText_eq_data, String.fromUTF8]
    · cases h
  · rintro rfl
    exact toText?_ofText s

end Bytes

namespace Text
open Bytes (toNat_ofNat_byte)

/-! ## The classes of bytes, by their numbers -/

theorem isContinuation_iff {b : UInt8} : isContinuation b = true ↔ 128 ≤ b.toNat ∧
    b.toNat ≤ 191 := by
  simp only [isContinuation, UInt8.le_iff_toNat_le, UInt8.reduceToNat, Bool.and_eq_true,
    decide_eq_true_eq]

theorem startsThree_iff {a b : UInt8} :
    startsThree a b = true ↔
      (a.toNat = 224 ∧ 160 ≤ b.toNat ∧ b.toNat ≤ 191) ∨
      (225 ≤ a.toNat ∧ a.toNat ≤ 236 ∧ 128 ≤ b.toNat ∧ b.toNat ≤ 191) ∨
      (a.toNat = 237 ∧ 128 ≤ b.toNat ∧ b.toNat ≤ 159) ∨
      (238 ≤ a.toNat ∧ a.toNat ≤ 239 ∧ 128 ≤ b.toNat ∧ b.toNat ≤ 191) := by
  simp only [startsThree, Bool.or_eq_true, Bool.and_eq_true, isContinuation_iff, decide_eq_true_eq,
    UInt8.le_iff_toNat_le, ← UInt8.toNat_inj, UInt8.reduceToNat, and_assoc, or_assoc]

theorem startsFour_iff {a b : UInt8} :
    startsFour a b = true ↔
      (a.toNat = 240 ∧ 144 ≤ b.toNat ∧ b.toNat ≤ 191) ∨
      (241 ≤ a.toNat ∧ a.toNat ≤ 243 ∧ 128 ≤ b.toNat ∧ b.toNat ≤ 191) ∨
      (a.toNat = 244 ∧ 128 ≤ b.toNat ∧ b.toNat ≤ 143) := by
  simp only [startsFour, Bool.or_eq_true, Bool.and_eq_true, isContinuation_iff, decide_eq_true_eq,
    UInt8.le_iff_toNat_le, ← UInt8.toNat_inj, UInt8.reduceToNat, and_assoc, or_assoc]

/-! ## One character, by the number of its bytes -/

section
variable {v : Nat} {a b c d : UInt8} (mark : Char) (rest : Bytes)

theorem firstBy_one (ha : a.toNat = v) (hv : v ≤ 127) :
    firstBy mark a rest = (Char.ofNat v, 1) := by
  have low : a < 0x80 := by
    simp only [UInt8.lt_iff_toNat_lt, UInt8.reduceToNat]
    omega
  unfold firstBy
  rw [if_pos low, ha]

theorem not_lt_of_toNat (ha : 192 ≤ a.toNat) : ¬ a < 0x80 := by
  simp only [UInt8.lt_iff_toNat_lt, UInt8.reduceToNat]
  omega

theorem firstBy_two (ha : a.toNat = v / 64 % 32 + 192) (hb : b.toNat = v % 64 + 128) (hv : 127 < v)
    (hv' : v ≤ 2047) : firstBy mark a (b :: rest) = (Char.ofNat v, 2) := by
  have char : assemble 5 a [b] = Char.ofNat v := by
    have : 64 * (a.toNat % 32) + b.toNat % 64 = v := by omega
    exact congrArg Char.ofNat this
  have two : 0xc2 ≤ a ∧ a ≤ 0xdf ∧ isContinuation b := by
    simp only [UInt8.le_iff_toNat_le, UInt8.reduceToNat, isContinuation_iff]
    omega
  unfold firstBy
  rw [if_neg (not_lt_of_toNat (by omega))]
  simp only [if_pos two, char]

theorem not_two (ha : 224 ≤ a.toNat) : ¬ (0xc2 ≤ a ∧ a ≤ 0xdf ∧ isContinuation b) := by
  rintro ⟨-, h, -⟩
  simp only [UInt8.le_iff_toNat_le, UInt8.reduceToNat] at h
  omega

theorem firstBy_three (ha : a.toNat = v / 4096 % 16 + 224) (hb : b.toNat = v / 64 % 64 + 128)
    (hc : c.toNat = v % 64 + 128) (hv : 2047 < v) (hv' : v ≤ 65535)
    (valid : v < 0xd800 ∨ 0xdfff < v) :
    firstBy mark a (b :: c :: rest) = (Char.ofNat v, 3) := by
  have char : assemble 4 a [b, c] = Char.ofNat v := by
    have : 64 * (64 * (a.toNat % 16) + b.toNat % 64) + c.toNat % 64 = v := by omega
    exact congrArg Char.ofNat this
  have three : startsThree a b = true := by
    rw [startsThree_iff]
    omega
  have last : isContinuation c = true := by
    rw [isContinuation_iff]
    omega
  unfold firstBy
  rw [if_neg (not_lt_of_toNat (by omega))]
  simp only [if_neg (not_two (b := b) (a := a) (by omega)), if_pos three, if_pos last, char]

theorem firstBy_four (ha : a.toNat = v / 262144 % 8 + 240) (hb : b.toNat = v / 4096 % 64 + 128)
    (hc : c.toNat = v / 64 % 64 + 128) (hd : d.toNat = v % 64 + 128) (hv : 65535 < v)
    (valid : v < 0x110000) : firstBy mark a (b :: c :: d :: rest) = (Char.ofNat v, 4) := by
  have char : assemble 3 a [b, c, d] = Char.ofNat v := by
    have : 64 * (64 * (64 * (a.toNat % 8) + b.toNat % 64) + c.toNat % 64) + d.toNat % 64 =
      v := by omega
    exact congrArg Char.ofNat this
  have three : ¬ startsThree a b = true := by
    rw [startsThree_iff]
    omega
  have four : startsFour a b = true := by
    rw [startsFour_iff]
    omega
  have third : isContinuation c = true := by
    rw [isContinuation_iff]
    omega
  have last : isContinuation d = true := by
    rw [isContinuation_iff]
    omega
  unfold firstBy
  rw [if_neg (not_lt_of_toNat (by omega))]
  simp only [if_neg (not_two (b := b) (a := a) (by omega)), if_neg three, if_pos four, if_pos third,
    if_pos last, char]

end

theorem utf8EncodeChar_eq (c : Char) :
    String.utf8EncodeChar c =
      if c.toNat ≤ 127 then [.ofNat c.toNat]
      else if c.toNat ≤ 2047 then [.ofNat (c.toNat / 64 % 32 + 192), .ofNat (c.toNat % 64 + 128)]
      else if c.toNat ≤ 65535 then
        [.ofNat (c.toNat / 4096 % 16 + 224), .ofNat (c.toNat / 64 % 64 + 128),
          .ofNat (c.toNat % 64 + 128)]
      else
        [.ofNat (c.toNat / 262144 % 8 + 240), .ofNat (c.toNat / 4096 % 64 + 128),
          .ofNat (c.toNat / 64 % 64 + 128), .ofNat (c.toNat % 64 + 128)] := rfl

theorem firstBy_encoded (mark c : Char) (rest : Bytes) :
    ∃ a tail, String.utf8EncodeChar c = a :: tail ∧
      firstBy mark a (tail ++ rest) = (c, tail.length + 1) := by
  have valid : c.toNat < 0xd800 ∨ 0xdfff < c.toNat ∧ c.toNat < 0x110000 := c.valid
  have char : Char.ofNat c.toNat = c := Char.ofNat_toNat c
  have byte {n : Nat} (h : n < 256) : (UInt8.ofNat n).toNat = n := toNat_ofNat_byte h
  rw [utf8EncodeChar_eq]
  generalize c.toNat = v at valid char ⊢
  subst char
  split
  next one =>
    refine ⟨_, _, rfl, firstBy_one mark _ (byte ?_) one⟩
    omega
  split
  next one two =>
    refine ⟨_, _, rfl, firstBy_two mark _ (byte ?_) (byte ?_) ?_ two⟩ <;> omega
  split
  next two three =>
    refine ⟨_, _, rfl, firstBy_three mark _ (byte ?_) (byte ?_) (byte ?_) ?_ three ?_⟩ <;> omega
  next three =>
    refine ⟨_, _, rfl, firstBy_four mark _ (byte ?_) (byte ?_) (byte ?_) (byte ?_) ?_ ?_⟩ <;> omega

theorem charsBy_ofText (mark : Char) (s : String) : charsBy mark (Bytes.ofText s) = s.toList := by
  rw [Bytes.ofText_eq_flatMap]
  induction s.toList with
  | nil => rw [List.flatMap_nil, charsBy]
  | cons c cs ih =>
    obtain ⟨a, tail, encoded, first⟩ := firstBy_encoded mark c (cs.flatMap String.utf8EncodeChar)
    rw [List.flatMap_cons, encoded, List.cons_append, charsBy, first]
    simp only [Nat.add_sub_cancel, List.drop_left', ih]

theorem lossy_ofText (s : String) : lossy (Bytes.ofText s) = s.toList := charsBy_ofText _ s

end Text

end Dispatch

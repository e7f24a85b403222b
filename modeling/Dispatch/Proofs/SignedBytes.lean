import Dispatch.Proofs.RlpForm
import Dispatch.Envelope

/-!
# What the signed bytes determine

The bytes under a signature determine all of a draft but its sender. The two forms of drafts end in
different bytes, each number and the recipient can be told apart from what follows, and of the data
and the chain behind it only one of the two can be long.
-/

set_option autoImplicit false

namespace Dispatch

namespace Rlp

theorem encodeAll_append (xs ys : List Item) :
    encodeAll (xs ++ ys) = encodeAll xs ++ encodeAll ys := by
  induction xs with
  | nil => rfl
  | cons x xs ih => rw [List.cons_append, encodeAll, encodeAll, ih, List.append_assoc]

theorem encode_list (items : List Item) :
    encode (.list items) = header 0xc0 (encodeAll items).length ++ encodeAll items := by
  rw [encode]

theorem encode_bytes_append_inj {x y s t : Bytes} (hx : x.length ≤ 32) (hy : y.length ≤ 32)
    (h : encode (.bytes x) ++ s = encode (.bytes y) ++ t) : x = y ∧ s = t := by
  rw [encode, encode] at h
  exact encodeBytes_append_inj (by omega) (by omega) h

theorem length_ofNatMinimal_word {n : Nat} (h : n < 2 ^ 256) : (Bytes.ofNatMinimal n).length ≤ 32 :=
  Bytes.length_ofNatMinimal_le (k := 32) (by omega)

theorem encode_ofNat_append_inj {m n : Nat} {s t : Bytes} (hm : m < 2 ^ 256) (hn : n < 2 ^ 256)
    (h : encode (ofNat m) ++ s = encode (ofNat n) ++ t) : m = n ∧ s = t := by
  obtain ⟨hmn, hst⟩ :=
    encode_bytes_append_inj (length_ofNatMinimal_word hm) (length_ofNatMinimal_word hn) h
  exact ⟨Bytes.ofNatMinimal_inj.mp hmn, hst⟩

theorem encode_word64_append_inj {m n : UInt64} {s t : Bytes}
    (h : encode (ofNat m.toNat) ++ s = encode (ofNat n.toNat) ++ t) : m = n ∧ s = t := by
  have hm := m.toNat_lt
  have hn := n.toNat_lt
  obtain ⟨hmn, hst⟩ := encode_ofNat_append_inj (by omega) (by omega) h
  exact ⟨UInt64.toNat_inj.mp hmn, hst⟩

theorem encode_bitVec_append_inj {w : Nat} (hw : w ≤ 256) {m n : BitVec w} {s t : Bytes}
    (h : encode (ofNat m.toNat) ++ s = encode (ofNat n.toNat) ++ t) : m = n ∧ s = t := by
  have hp : 2 ^ w ≤ 2 ^ 256 := Nat.pow_le_pow_right (by omega) hw
  have hm := m.isLt
  have hn := n.isLt
  obtain ⟨hmn, hst⟩ := encode_ofNat_append_inj (by omega) (by omega) h
  exact ⟨BitVec.eq_of_toNat_eq hmn, hst⟩

/-- Between bytes of any number, what follows must be short to be told apart. -/
theorem encode_data_append_inj {x y s t : Bytes} (hs : s.length ≤ 64) (ht : t.length ≤ 64)
    (h : encode (.bytes x) ++ s = encode (.bytes y) ++ t) : x = y ∧ s = t := by
  rw [encode, encode] at h
  have hlen := congrArg List.length h
  rw [List.length_append, List.length_append] at hlen
  have hxy := length_le_of_encodeBytes (x := x) (y := y) (k := 64) (by omega)
  have hyx := length_le_of_encodeBytes (x := y) (y := x) (k := 64) (by omega)
  exact encodeBytes_append_inj (by omega) (by omega) h

end Rlp

namespace Draft

/-- What stands in the list that is signed. -/
def signedContent (tx : Draft) : Bytes :=
  Rlp.encodeAll (tx.payload.items ++ Payload.chainItems tx.form)

theorem signingBytes_eq (tx : Draft) :
    tx.signingBytes =
      Payload.marker tx.form ++ (Rlp.header 0xc0 tx.signedContent.length ++ tx.signedContent) := by
  change _ ++ Rlp.encode _ = _
  rw [Rlp.encode_list]
  rfl

/-- The fields that both forms have, from the gas limit to the data, with what follows them. -/
def commonBytes (tx : Draft) (rest : Bytes) : Bytes :=
  Rlp.encode (Rlp.ofNat tx.gasLimit.toNat) ++ (Rlp.encode (.bytes tx.recipient.toList) ++
    (Rlp.encode (Rlp.ofNat tx.value.toNat) ++ (Rlp.encode (.bytes tx.data) ++ rest)))

theorem signedContent_legacy {tx : Draft} {gasPrice : BitVec 128} (h : tx.fees = .legacy gasPrice) :
    tx.signedContent =
      Rlp.encode (Rlp.ofNat tx.nonce.toNat) ++ (Rlp.encode (Rlp.ofNat gasPrice.toNat) ++
        tx.commonBytes (Rlp.encode (Rlp.ofNat tx.chainId.toNat) ++ [0x80, 0x80])) := by
  have hz : Rlp.encode (Rlp.ofNat 0) = [0x80] := by
    rw [Rlp.ofNat, Bytes.ofNatMinimal_zero]
    rfl
  simp only [signedContent, payload, form, h, Payload.items, Payload.chainItems,
    Payload.recipientItem,
    Rlp.encodeAll_append, Rlp.encodeAll, commonBytes, hz, List.append_assoc, List.append_nil]
  rfl

theorem signedContent_dynamic {tx : Draft} {maxFee tip : BitVec 128}
    (h : tx.fees = .dynamic maxFee tip) :
    tx.signedContent =
      Rlp.encode (Rlp.ofNat tx.chainId.toNat) ++ (Rlp.encode (Rlp.ofNat tx.nonce.toNat) ++
        (Rlp.encode (Rlp.ofNat tip.toNat) ++ (Rlp.encode (Rlp.ofNat maxFee.toNat) ++
          tx.commonBytes [0xc0]))) := by
  simp only [signedContent, payload, form, h, Payload.items, Payload.chainItems,
    Payload.recipientItem,
    Rlp.encodeAll_append, Rlp.encodeAll, commonBytes, List.append_assoc, List.append_nil]
  rfl

theorem commonBytes_inj {a b : Draft} {s t : Bytes} (hs : s.length ≤ 64) (ht : t.length ≤ 64)
    (h : a.commonBytes s = b.commonBytes t) :
    a.gasLimit = b.gasLimit ∧ a.recipient = b.recipient ∧ a.value = b.value ∧ a.data = b.data ∧
      s = t := by
  have hra := a.recipient.length_eq
  have hrb := b.recipient.length_eq
  obtain ⟨hgas, h⟩ := Rlp.encode_word64_append_inj h
  obtain ⟨hto, h⟩ := Rlp.encode_bytes_append_inj (by omega) (by omega) h
  obtain ⟨hvalue, h⟩ := Rlp.encode_bitVec_append_inj (Nat.le_refl 256) h
  obtain ⟨hdata, hst⟩ := Rlp.encode_data_append_inj hs ht h
  exact ⟨hgas, FixedBytes.toList_inj.mp hto, hvalue, hdata, hst⟩

theorem length_chainBytes (tx : Draft) :
    (Rlp.encode (Rlp.ofNat tx.chainId.toNat) ++ [0x80, 0x80]).length ≤ 64 := by
  have hid := tx.chainId.toNat_lt
  have hle := Rlp.length_encodeBytes_le (n := 32) (by decide)
    (Rlp.length_ofNatMinimal_word (n := tx.chainId.toNat) (by omega))
  rw [Rlp.ofNat, Rlp.encode, List.length_append]
  exact Nat.le_trans (Nat.add_le_add_right hle 2) (by decide)

/-- Both ask for the same, whoever sends them. -/
structure Agrees (a b : Draft) : Prop where
  recipient : a.recipient = b.recipient
  value : a.value = b.value
  data : a.data = b.data
  gasLimit : a.gasLimit = b.gasLimit
  nonce : a.nonce = b.nonce
  chainId : a.chainId = b.chainId
  fees : a.fees = b.fees

theorem Agrees.signingBytes {a b : Draft} (h : Agrees a b) : a.signingBytes = b.signingBytes := by
  obtain ⟨recipient, value, data, gasLimit, nonce, chainId, fees⟩ := h
  simp only [Draft.signingBytes, payload, form, recipient, value, data, gasLimit, nonce,
    chainId, fees]

theorem agrees_of_legacy {a b : Draft} {p q : BitVec 128} (ha : a.fees = .legacy p)
    (hb : b.fees = .legacy q) (h : a.signingBytes = b.signingBytes) : Agrees a b := by
  rw [signingBytes_eq, signingBytes_eq] at h
  simp only [form, ha, hb, Payload.marker, List.nil_append] at h
  have hc := Rlp.header_append_inj h
  rw [signedContent_legacy ha, signedContent_legacy hb] at hc
  obtain ⟨hnonce, hc⟩ := Rlp.encode_word64_append_inj hc
  obtain ⟨hprice, hc⟩ := Rlp.encode_bitVec_append_inj (by decide) hc
  obtain ⟨hgas, hto, hvalue, hdata, hc⟩ :=
    commonBytes_inj (length_chainBytes a) (length_chainBytes b) hc
  obtain ⟨hchain, -⟩ := Rlp.encode_word64_append_inj hc
  exact ⟨hto, hvalue, hdata, hgas, hnonce, hchain, by rw [ha, hb, hprice]⟩

theorem agrees_of_dynamic {a b : Draft} {maxFee tip maxFee' tip' : BitVec 128}
    (ha : a.fees = .dynamic maxFee tip) (hb : b.fees = .dynamic maxFee' tip')
    (h : a.signingBytes = b.signingBytes) : Agrees a b := by
  rw [signingBytes_eq, signingBytes_eq] at h
  simp only [form, ha, hb, Payload.marker] at h
  have hc := Rlp.header_append_inj (List.append_cancel_left h)
  rw [signedContent_dynamic ha, signedContent_dynamic hb] at hc
  obtain ⟨hchain, hc⟩ := Rlp.encode_word64_append_inj hc
  obtain ⟨hnonce, hc⟩ := Rlp.encode_word64_append_inj hc
  obtain ⟨htip, hc⟩ := Rlp.encode_bitVec_append_inj (by decide) hc
  obtain ⟨hmax, hc⟩ := Rlp.encode_bitVec_append_inj (by decide) hc
  obtain ⟨hgas, hto, hvalue, hdata, -⟩ := commonBytes_inj (by decide) (by decide) hc
  exact ⟨hto, hvalue, hdata, hgas, hnonce, hchain, by rw [ha, hb, hmax, htip]⟩

theorem getLast?_signingBytes (tx : Draft) :
    tx.signingBytes.getLast? =
      match tx.fees with
      | .legacy _ => some 0x80
      | .dynamic _ _ => some 0xc0 := by
  rw [signingBytes_eq]
  cases h : tx.fees with
  | legacy gasPrice => simp [signedContent_legacy h, commonBytes]
  | dynamic maxFee tip => simp [signedContent_dynamic h, commonBytes]

theorem agrees_of_signingBytes {a b : Draft} (h : a.signingBytes = b.signingBytes) :
    Agrees a b := by
  have hlast := congrArg List.getLast? h
  rw [getLast?_signingBytes, getLast?_signingBytes] at hlast
  cases ha : a.fees with
  | legacy p =>
    cases hb : b.fees with
    | legacy q => exact agrees_of_legacy ha hb h
    | dynamic maxFee tip =>
      rw [ha, hb] at hlast
      cases hlast
  | dynamic maxFee tip =>
    cases hb : b.fees with
    | legacy q =>
      rw [ha, hb] at hlast
      cases hlast
    | dynamic maxFee' tip' => exact agrees_of_dynamic ha hb h

end Draft

def Keccak.Collide (x y : Bytes) : Prop := x ≠ y ∧ hash x = hash y

/-- Drafts have the same signed bytes just when they agree, and so, but for collisions, the same
digest to be signed. -/
theorem signingBytes_eq_iff_agrees (a b : Draft) :
    (a.signingBytes = b.signingBytes ↔ a.Agrees b) ∧
      (a.signingHash = b.signingHash ↔
        a.Agrees b ∨ Keccak.Collide a.signingBytes b.signingBytes) := by
  have bytes : a.signingBytes = b.signingBytes ↔ a.Agrees b :=
    ⟨Draft.agrees_of_signingBytes, Draft.Agrees.signingBytes⟩
  refine ⟨bytes, ?_⟩
  constructor
  · intro h
    by_cases he : a.signingBytes = b.signingBytes
    · exact .inl (bytes.mp he)
    · exact .inr ⟨he, h⟩
  · rintro (h | ⟨-, h⟩)
    · exact congrArg Keccak.hash (bytes.mpr h)
    · exact h

end Dispatch

import Dispatch.Proofs.EnvelopeForm
import Dispatch.Proofs.RlpReading
import Dispatch.Proofs.SignedBytes

/-!
# Reading back envelopes

Each field is read from the form in which it is written, and so is an envelope, with nothing left
over, if the length of its bytes is a number of 64 bits. A draft with data that fits in memory is
never longer.
-/

set_option autoImplicit false

namespace Dispatch

open Rlp (Item)

/-! ## Fields -/

theorem Rlp.Item.nat?_ofNat {n width : Nat} (h : n < 256 ^ width) :
    (Rlp.ofNat n).nat? width = some n := by
  have shortest : (Bytes.ofNatMinimal n).length ≤ width ∧ (Bytes.ofNatMinimal n).head? ≠ some 0 :=
    ⟨Bytes.length_ofNatMinimal_le h, Bytes.head?_ofNatMinimal n⟩
  rw [Rlp.ofNat, nat?, if_pos shortest, Bytes.toNat_ofNatMinimal]

theorem Rlp.Item.fixed?_bytes {n : Nat} (x : FixedBytes n) :
    (Item.bytes x.toList).fixed? n = some x :=
  FixedBytes.ofBytes?_toList x

theorem mapM_map {α β : Type} {read : β → Option α} {write : α → β}
    (h : ∀ a, read (write a) = some a) (as : List α) : (as.map write).mapM read = some as := by
  induction as with
  | nil => rfl
  | cons a as ih => rw [List.map_cons, List.mapM_cons, h, ih]; rfl

namespace Envelope

theorem word8?_ofNat (x : UInt8) : word8? (Rlp.ofNat x.toNat) = some x := by
  rw [word8?, Rlp.Item.nat?_ofNat (by have := x.toNat_lt; omega), Option.map_some,
    UInt8.ofNat_toNat]

theorem word64?_ofNat (x : UInt64) : word64? (Rlp.ofNat x.toNat) = some x := by
  rw [word64?, Rlp.Item.nat?_ofNat (by have := x.toNat_lt; omega), Option.map_some,
    UInt64.ofNat_toNat]

theorem word128?_ofNat (x : BitVec 128) : word128? (Rlp.ofNat x.toNat) = some x := by
  rw [word128?, Rlp.Item.nat?_ofNat (by have := x.isLt; omega), Option.map_some, BitVec.ofNat_toNat,
    BitVec.setWidth_eq]

theorem word256?_ofNat (x : BitVec 256) : word256? (Rlp.ofNat x.toNat) = some x := by
  rw [word256?, Rlp.Item.nat?_ofNat (by have := x.isLt; omega), Option.map_some, BitVec.ofNat_toNat,
    BitVec.setWidth_eq]

theorem recipient?_recipientItem (p : Payload) : recipient? p.recipientItem = some p.recipient := by
  unfold Payload.recipientItem
  cases p.recipient with
  | none => rfl
  | some a =>
    have filled : a.toList.isEmpty = false := by
      have := a.length_eq
      cases ha : a.toList with
      | nil => rw [ha] at this; cases this
      | cons d rest => rfl
    show (if a.toList.isEmpty then some none else (FixedBytes.ofBytes? a.toList).map some) = _
    rw [filled, FixedBytes.ofBytes?_toList]
    rfl

theorem odd?_ofNat (odd : Bool) : odd? (Rlp.ofNat odd.toNat) = some odd := by
  have read : (Rlp.ofNat odd.toNat).nat? 1 = some odd.toNat :=
    Rlp.Item.nat?_ofNat (by have := Bool.toNat_le odd; omega)
  rw [odd?, read]
  cases odd <;> rfl

theorem recoveryNumber_lt (form : Form) (odd : Bool) : recoveryNumber form odd < 256 ^ 16 := by
  have parity := Bool.toNat_le odd
  match form with
  | .plain none _ =>
    rw [recoveryNumber]
    omega
  | .plain (some chainId) _ =>
    have size := chainId.toNat_lt
    rw [recoveryNumber]
    omega
  | .listed _ _ _ | .dynamic _ _ _ _ | .blobs _ _ _ _ _ _ _ | .delegating _ _ _ _ _ =>
    show odd.toNat < _
    omega

theorem chainAndParity?_recoveryNumber (chainId : Option UInt64) (gasPrice : BitVec 128)
    (odd : Bool) :
    chainAndParity? (recoveryNumber (.plain chainId gasPrice) odd) = some (chainId, odd) := by
  cases chainId with
  | none => cases odd <;> rfl
  | some chainId =>
    have parity := Bool.toNat_le odd
    have size := chainId.toNat_lt
    have half : (35 + 2 * chainId.toNat + odd.toNat - 35) / 2 = chainId.toNat := by omega
    have rest : (35 + 2 * chainId.toNat + odd.toNat - 35) % 2 = odd.toNat := by omega
    have bound : chainId.toNat < UInt64.size := size
    have bit : (odd.toNat == 1) = odd := by cases odd <;> rfl
    rw [recoveryNumber, chainAndParity?, if_neg (by omega), if_neg (by omega),
      if_pos (by omega), half, rest, if_pos bound, UInt64.ofNat_toNat, bit]

theorem fixedItems?_fixedItems {n : Nat} (l : List (FixedBytes n)) :
    fixedItems? n (fixedItems l) = some l :=
  mapM_map Rlp.Item.fixed?_bytes l

theorem accessPlaces?_item (a : Address) (places : List Hash) :
    accessPlaces? (.list [.bytes a.toList, .list (places.map fun p => .bytes p.toList)]) =
      some (a, places) := by
  have read : fixedItems? 32 (.list (places.map fun p => .bytes p.toList)) = some places :=
    fixedItems?_fixedItems places
  rw [accessPlaces?, Rlp.Item.fixed?_bytes, read]
  rfl

theorem accessList?_item (l : AccessList) : accessList? l.item = some l :=
  mapM_map (fun (a, places) => accessPlaces?_item a places) l

theorem delegation?_item (d : Delegation) : delegation? d.item = some d := by
  simp only [delegation?, Delegation.item, word8?_ofNat, word64?_ofNat, word256?_ofNat,
    Rlp.Item.fixed?_bytes, Option.bind_eq_bind, Option.bind_some]

theorem delegations?_items (l : List Delegation) :
    delegations? (.list (l.map Delegation.item)) = some l :=
  mapM_map delegation?_item l

theorem sidecar?_items (s : Sidecar) : sidecar? s.items = some s := by
  obtain ⟨perCell, blobs, commitments, proofs⟩ := s
  cases perCell with
  | true =>
    show (do some (Sidecar.mk true (← fixedItems? 131072 (fixedItems blobs))
      (← fixedItems? 48 (fixedItems commitments)) (← fixedItems? 48 (fixedItems proofs)))) = _
    simp only [fixedItems?_fixedItems, Option.bind_eq_bind, Option.bind_some]
  | false =>
    show (do some (Sidecar.mk false (← fixedItems? 131072 (fixedItems blobs))
      (← fixedItems? 48 (fixedItems commitments)) (← fixedItems? 48 (fixedItems proofs)))) = _
    simp only [fixedItems?_fixedItems, Option.bind_eq_bind, Option.bind_some]

theorem signature?_items (signature : Signature) :
    signature? (Rlp.ofNat signature.odd.toNat) (Rlp.ofNat signature.r.toNat)
      (Rlp.ofNat signature.s.toNat) = some signature := by
  simp only [signature?, word256?_ofNat, odd?_ofNat, Option.bind_eq_bind, Option.bind_some]

/-! ## Forms -/

/-- Only the first three forms can be without a recipient. -/
def Directed (p : Payload) : Prop :=
  match p.form with
  | .plain _ _ | .listed _ _ _ | .dynamic _ _ _ _ => True
  | .blobs _ _ _ _ _ _ _ | .delegating _ _ _ _ _ => p.recipient.isSome

theorem directed_of_recipient {p : Payload} (h : p.recipient.isSome) : Directed p := by
  unfold Directed
  split <;> trivial

def reader : Form → List Item → Option Envelope
  | .plain _ _ => plain?
  | .listed _ _ _ => listed?
  | .dynamic _ _ _ _ => dynamic?
  | .blobs _ _ _ _ _ _ _ => blobs?
  | .delegating _ _ _ _ _ => delegating?

theorem bare?_signedItems {e : Envelope} {chainId : UInt64} {maxFee tip blobFee : BitVec 128}
    {l : AccessList} {hashes : List Hash} {sidecar : Option Sidecar} (directed : Directed e.payload)
    (form : e.payload.form = .blobs chainId maxFee tip l blobFee hashes sidecar) :
    bare? sidecar e.signedItems = some e := by
  obtain ⟨⟨_, nonce, gasLimit, recipient, value, data⟩, signature⟩ := e
  cases form
  obtain ⟨account, rfl⟩ := Option.isSome_iff_exists.mp directed
  have bytes : (Item.bytes data).bytes? = some data := rfl
  simp only [bare?, signedItems, Payload.items, Payload.recipientItem, signatureItems,
    List.cons_append, List.nil_append, word64?_ofNat, word128?_ofNat, word256?_ofNat, bytes,
    Rlp.Item.fixed?_bytes, accessList?_item, fixedItems?_fixedItems, recoveryNumber,
    signature?_items, Option.bind_eq_bind, Option.bind_some]

theorem blobs?_items {e : Envelope} {chainId : UInt64} {maxFee tip blobFee : BitVec 128}
    {l : AccessList} {hashes : List Hash} {sidecar : Option Sidecar} (directed : Directed e.payload)
    (form : e.payload.form = .blobs chainId maxFee tip l blobFee hashes sidecar) :
    blobs? e.items = some e := by
  have bare := bare?_signedItems directed form
  rw [items, form]
  cases sidecar with
  | some sidecar =>
    show (sidecar? sidecar.items).bind (fun s => bare? (some s) e.signedItems) = _
    rw [sidecar?_items, Option.bind_some, bare]
  | none =>
    -- The first field is a number, so the list is not taken for a nested one.
    have first : ∃ n rest, e.signedItems = .bytes n :: rest := by
      unfold signedItems Payload.items
      rw [form]
      exact ⟨_, _, rfl⟩
    obtain ⟨n, rest, split⟩ := first
    show blobs? e.signedItems = _
    rw [split] at bare ⊢
    exact bare

theorem reader_items {e : Envelope} (directed : Directed e.payload) :
    reader e.payload.form e.items = some e := by
  obtain ⟨⟨form, nonce, gasLimit, recipient, value, data⟩, signature⟩ := e
  have target := recipient?_recipientItem ⟨form, nonce, gasLimit, recipient, value, data⟩
  have bytes : (Item.bytes data).bytes? = some data := rfl
  cases form with
  | plain chainId gasPrice =>
    have number := Rlp.Item.nat?_ofNat (recoveryNumber_lt (.plain chainId gasPrice) signature.odd)
    simp only [reader, items, Form.sidecar?, signedItems, Payload.items, signatureItems,
      List.cons_append, List.nil_append, plain?, word64?_ofNat, word128?_ofNat, word256?_ofNat,
      target, bytes, number, chainAndParity?_recoveryNumber, Option.bind_eq_bind, Option.bind_some]
  | listed chainId gasPrice l =>
    simp only [reader, items, Form.sidecar?, signedItems, Payload.items, signatureItems,
      List.cons_append, List.nil_append, listed?, word64?_ofNat, word128?_ofNat, word256?_ofNat,
      target, bytes, accessList?_item, recoveryNumber, signature?_items, Option.bind_eq_bind,
      Option.bind_some]
  | dynamic chainId maxFee tip l =>
    simp only [reader, items, Form.sidecar?, signedItems, Payload.items, signatureItems,
      List.cons_append, List.nil_append, dynamic?, word64?_ofNat, word128?_ofNat, word256?_ofNat,
      target, bytes, accessList?_item, recoveryNumber, signature?_items, Option.bind_eq_bind,
      Option.bind_some]
  | blobs chainId maxFee tip l blobFee hashes sidecar => exact blobs?_items directed rfl
  | delegating chainId maxFee tip l delegations =>
    obtain ⟨account, rfl⟩ := Option.isSome_iff_exists.mp directed
    simp only [reader, items, Form.sidecar?, signedItems, Payload.items, Payload.recipientItem,
      signatureItems, List.cons_append, List.nil_append, delegating?, word64?_ofNat,
      word128?_ofNat, word256?_ofNat, bytes, Rlp.Item.fixed?_bytes, accessList?_item,
      delegations?_items, recoveryNumber, signature?_items, Option.bind_eq_bind, Option.bind_some]

theorem fromList?_encode {read : List Item → Option Envelope} {items : List Item} {e : Envelope}
    (h : (Rlp.encode (.list items)).length < 2 ^ 64) (reads : read items = some e) (rest : Bytes) :
    fromList? read (Rlp.encode (.list items) ++ rest) = some (e, rest) := by
  rw [fromList?, Rlp.read?_encode h, Option.bind_eq_bind, Option.bind_some]
  show (read items).bind (fun e => some (e, rest)) = _
  rw [reads]
  rfl

theorem encode_list_head {items : List Item} (h : (Rlp.encode (.list items)).length < 2 ^ 64) :
    ∃ d tail, Rlp.encode (.list items) = d :: tail ∧ 0x7f < d := by
  have inner : (Rlp.encodeAll items).length < 2 ^ 64 :=
    Nat.lt_trans (Rlp.length_lt_encode_list items) h
  rw [Rlp.encode_list]
  rcases Rlp.header_cases (Nat.le_refl 0xc0) inner with
    ⟨-, d, hd, first⟩ | ⟨-, d, hd, first, -, -⟩
  · refine ⟨d, _, by rw [hd, List.singleton_append], UInt8.lt_iff_toNat_lt.mpr ?_⟩
    show 0x7f < d.toNat
    omega
  · refine ⟨d, _, by rw [hd, List.cons_append], UInt8.lt_iff_toNat_lt.mpr ?_⟩
    show 0x7f < d.toNat
    omega

/-- An envelope is read from its bytes. -/
theorem decode?_encode {e : Envelope} (directed : Directed e.payload) (h : e.encode.length < 2 ^ 64)
    (rest : Bytes) :
    decode? (e.encode ++ rest) = some (e, rest) := by
  have reads := reader_items directed
  rw [encode, List.length_append] at h
  have bound : (Rlp.encode (.list e.items)).length < 2 ^ 64 := by omega
  have list {read : List Item → Option Envelope} (reads : read e.items = some e) :=
    fromList?_encode bound reads rest
  rw [encode]
  cases hf : e.payload.form with
  | plain chainId gasPrice =>
    rw [hf] at reads
    obtain ⟨d, tail, hd, first⟩ := encode_list_head bound
    have plain : fromList? plain? _ = some (e, rest) := list reads
    rw [hd, List.cons_append] at plain
    rw [Payload.marker, List.nil_append, hd, List.cons_append, decode?, if_pos first, plain]
  | listed | dynamic | blobs | delegating =>
    rw [hf] at reads
    exact list reads

end Envelope

/-! ## Lengths -/

namespace Rlp

theorem length_encode_short_le {b : Bytes} (h : b.length ≤ 32) :
    (encode (.bytes b)).length ≤ 33 := by
  rw [encode]
  exact length_encodeBytes_le (by decide) h

theorem length_encode_ofNat_le {n : Nat} (h : n < 2 ^ 256) : (encode (ofNat n)).length ≤ 33 :=
  length_encode_short_le (length_ofNatMinimal_word h)

end Rlp

theorem Payload.length_marker_le (form : Form) : (marker form).length ≤ 1 := by
  cases form <;> simp [marker]

theorem Envelope.length_encode_le {e : Envelope} (h : (Rlp.encodeAll e.items).length < 2 ^ 64) :
    e.encode.length ≤ (Rlp.encodeAll e.items).length + 10 := by
  have mark := Payload.length_marker_le e.payload.form
  have front := Rlp.length_header_le 0xc0 h
  rw [encode, Rlp.encode_list, List.length_append, List.length_append]
  omega

namespace Draft

/-- Whether the data can stand in memory, where no byte string has `2 ^ 63` bytes. -/
def FitsMemory (tx : Draft) : Prop := tx.data.length < 2 ^ 63

theorem length_content_le {tx : Draft} (fits : tx.FitsMemory) (signature : Signature) :
    (Rlp.encodeAll (Envelope.items ⟨tx.payload, signature⟩)).length ≤ tx.data.length + 400 := by
  rw [Envelope.items_eq_signedItems tx.sidecar?_form]
  have small : tx.data.length < 2 ^ 63 := fits
  have nonce := Rlp.length_encode_ofNat_le (n := tx.nonce.toNat)
    (by have := tx.nonce.toNat_lt; omega)
  have gas := Rlp.length_encode_ofNat_le (n := tx.gasLimit.toNat)
    (by have := tx.gasLimit.toNat_lt; omega)
  have target := Rlp.length_encode_short_le (b := tx.recipient.toList)
    (by have := tx.recipient.length_eq; omega)
  have value := Rlp.length_encode_ofNat_le tx.value.isLt
  have data := Rlp.length_encode_bytes_le (b := tx.data) (by omega)
  have r := Rlp.length_encode_ofNat_le signature.r.isLt
  have s := Rlp.length_encode_ofNat_le signature.s.isLt
  have number := Rlp.length_encode_ofNat_le (n := Envelope.recoveryNumber tx.form signature.odd)
    (by have := Envelope.recoveryNumber_lt tx.form signature.odd; omega)
  cases hf : tx.fees with
  | legacy gasPrice =>
    have price := Rlp.length_encode_ofNat_le (n := gasPrice.toNat)
      (by have := gasPrice.isLt; omega)
    simp only [form, hf] at number
    simp only [Envelope.signedItems, payload, form, hf, Payload.items, Payload.recipientItem,
      Envelope.signatureItems,
      List.cons_append, List.nil_append, Rlp.encodeAll, List.length_append, List.length_nil]
    omega
  | dynamic maxFee tip =>
    have chain := Rlp.length_encode_ofNat_le (n := tx.chainId.toNat)
      (by have := tx.chainId.toNat_lt; omega)
    have most := Rlp.length_encode_ofNat_le (n := maxFee.toNat) (by have := maxFee.isLt; omega)
    have extra := Rlp.length_encode_ofNat_le (n := tip.toNat) (by have := tip.isLt; omega)
    have storage : (Rlp.encode (AccessList.item [])).length = 1 := by decide
    simp only [form, hf] at number
    simp only [Envelope.signedItems, payload, form, hf, Payload.items, Payload.recipientItem,
      Envelope.signatureItems,
      List.cons_append, List.nil_append, Rlp.encodeAll, List.length_append,
        List.length_nil, storage]
    omega

theorem length_encode_lt {tx : Draft} (fits : tx.FitsMemory) (signature : Signature) :
    (Envelope.encode ⟨tx.payload, signature⟩).length < 2 ^ 64 := by
  have small : tx.data.length < 2 ^ 63 := fits
  have content := length_content_le fits signature
  have whole := Envelope.length_encode_le (e := ⟨tx.payload, signature⟩) (by omega)
  omega

theorem decode?_signed {tx : Draft} (fits : tx.FitsMemory) (signature : Signature) :
    Envelope.decode? (tx.signed signature).raw = some (⟨tx.payload, signature⟩, []) := by
  have read := Envelope.decode?_encode (Envelope.directed_of_recipient (p := tx.payload) rfl)
    (length_encode_lt fits signature) []
  rwa [List.append_nil] at read

end Draft

end Dispatch

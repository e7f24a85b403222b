import Dispatch.Proofs.RlpForm
import Dispatch.Envelope

/-!
# The written form of an envelope

Each field that is read was written in the one way in which that field is written, so the bytes of
an envelope that was read are those that the envelope is encoded by.
-/

set_option autoImplicit false

namespace Dispatch

open Rlp (Item)

theorem Rlp.Item.nat?_written {item : Item} {width n : Nat} (h : item.nat? width = some n) :
    item = Rlp.ofNat n ∧ n < 256 ^ width := by
  cases item with
  | list items => cases h
  | bytes b =>
    by_cases hb : b.length ≤ width ∧ b.head? ≠ some 0
    · rw [Rlp.Item.nat?, if_pos hb] at h
      cases h
      have hlt := Bytes.toNat_lt b
      have hp : 256 ^ b.length ≤ 256 ^ width := Nat.pow_le_pow_right (by omega) hb.1
      exact ⟨by rw [Rlp.ofNat, Bytes.ofNatMinimal_toNat hb.2], by omega⟩
    · rw [Rlp.Item.nat?, if_neg hb] at h
      cases h

theorem Rlp.Item.bytes?_written {item : Item} {b : Bytes} (h : item.bytes? = some b) :
    item = .bytes b := by
  cases item with
  | bytes b' => cases h; rfl
  | list items => cases h

theorem Rlp.Item.list?_written {item : Item} {items : List Item} (h : item.list? = some items) :
    item = .list items := by
  cases item with
  | bytes b => cases h
  | list items' => cases h; rfl

theorem Rlp.Item.fixed?_written {item : Item} {n : Nat} {x : FixedBytes n}
    (h : item.fixed? n = some x) : item = .bytes x.toList := by
  obtain ⟨b, hb, hx⟩ := Option.bind_eq_some_iff.mp h
  rw [bytes?_written hb, FixedBytes.ofBytes?_eq_some_iff.mp hx]

namespace Envelope

theorem word8?_written {item : Item} {x : UInt8} (h : word8? item = some x) :
    item = Rlp.ofNat x.toNat := by
  obtain ⟨n, hn, rfl⟩ := Option.map_eq_some_iff.mp h
  obtain ⟨rfl, hlt⟩ := Rlp.Item.nat?_written hn
  rw [UInt8.toNat_ofNat', Nat.mod_eq_of_lt (by omega)]

theorem word64?_written {item : Item} {x : UInt64} (h : word64? item = some x) :
    item = Rlp.ofNat x.toNat := by
  obtain ⟨n, hn, rfl⟩ := Option.map_eq_some_iff.mp h
  obtain ⟨rfl, hlt⟩ := Rlp.Item.nat?_written hn
  rw [UInt64.toNat_ofNat', Nat.mod_eq_of_lt (by omega)]

theorem word128?_written {item : Item} {x : BitVec 128} (h : word128? item = some x) :
    item = Rlp.ofNat x.toNat := by
  obtain ⟨n, hn, rfl⟩ := Option.map_eq_some_iff.mp h
  obtain ⟨rfl, hlt⟩ := Rlp.Item.nat?_written hn
  rw [BitVec.toNat_ofNat, Nat.mod_eq_of_lt (by omega)]

theorem word256?_written {item : Item} {x : BitVec 256} (h : word256? item = some x) :
    item = Rlp.ofNat x.toNat := by
  obtain ⟨n, hn, rfl⟩ := Option.map_eq_some_iff.mp h
  obtain ⟨rfl, hlt⟩ := Rlp.Item.nat?_written hn
  rw [BitVec.toNat_ofNat, Nat.mod_eq_of_lt (by omega)]

theorem recipient?_written {item : Item} {r : Option Address} :
    recipient? item = some r → item = .bytes (match r with | some a => a.toList | none => []) := by
  intro h
  obtain ⟨b, hb, hr⟩ := Option.bind_eq_some_iff.mp h
  rw [Rlp.Item.bytes?_written hb]
  by_cases he : b.isEmpty
  · rw [if_pos he] at hr
    cases hr
    rw [List.isEmpty_iff.mp he]
  · rw [if_neg he] at hr
    obtain ⟨a, ha, rfl⟩ := Option.map_eq_some_iff.mp hr
    exact congrArg Item.bytes (FixedBytes.ofBytes?_eq_some_iff.mp ha).symm

theorem odd?_written {item : Item} {odd : Bool} (h : odd? item = some odd) :
    item = Rlp.ofNat odd.toNat := by
  unfold odd? at h
  split at h
  · next hn => cases h; exact (Rlp.Item.nat?_written hn).1
  · next hn => cases h; exact (Rlp.Item.nat?_written hn).1
  · cases h

theorem chainAndParity?_written {v : Nat} {chainId : Option UInt64} {odd : Bool}
    (gasPrice : BitVec 128) (h : chainAndParity? v = some (chainId, odd)) :
    v = recoveryNumber (.plain chainId gasPrice) odd := by
  unfold chainAndParity? at h
  by_cases h27 : v = 27
  · rw [if_pos h27] at h
    cases h
    exact h27
  rw [if_neg h27] at h
  by_cases h28 : v = 28
  · rw [if_pos h28] at h
    cases h
    exact h28
  rw [if_neg h28] at h
  by_cases h35 : 35 ≤ v
  · rw [if_pos h35] at h
    by_cases hid : (v - 35) / 2 < UInt64.size
    · rw [if_pos hid] at h
      obtain ⟨rfl, rfl⟩ := Prod.mk.inj (Option.some.inj h)
      have hto : (UInt64.ofNat ((v - 35) / 2)).toNat = (v - 35) / 2 := UInt64.toNat_ofNat_of_lt hid
      rw [recoveryNumber, hto]
      rcases Nat.mod_two_eq_zero_or_one (v - 35) with hm | hm <;> rw [hm]
      · change v = 35 + 2 * ((v - 35) / 2) + 0
        omega
      · change v = 35 + 2 * ((v - 35) / 2) + 1
        omega
    · rw [if_neg hid] at h
      cases h
  · rw [if_neg h35] at h
    cases h

theorem mapM_written {α : Type} {read : Item → Option α} (write : α → Item)
    (written : ∀ {item a}, read item = some a → item = write a) {items : List Item} {as : List α}
    (h : items.mapM read = some as) : items = as.map write := by
  induction items generalizing as with
  | nil =>
    cases h
    rfl
  | cons item items ih =>
    rw [List.mapM_cons] at h
    obtain ⟨a, ha, h⟩ := Option.bind_eq_some_iff.mp h
    obtain ⟨rest, hrest, h⟩ := Option.bind_eq_some_iff.mp h
    cases h
    rw [List.map_cons, ← written ha, ← ih hrest]

theorem fixedItems?_written {item : Item} {n : Nat} {l : List (FixedBytes n)}
    (h : fixedItems? n item = some l) : item = fixedItems l := by
  obtain ⟨items, hi, h⟩ := Option.bind_eq_some_iff.mp h
  rw [Rlp.Item.list?_written hi, mapM_written _ Rlp.Item.fixed?_written h]
  rfl

theorem accessPlaces?_written {item : Item} {entry : Address × List Hash}
    (h : accessPlaces? item = some entry) :
    item = .list [.bytes entry.1.toList, .list (entry.2.map fun p => .bytes p.toList)] := by
  unfold accessPlaces? at h
  split at h
  · obtain ⟨a, ha, h⟩ := Option.bind_eq_some_iff.mp h
    obtain ⟨places, hp, h⟩ := Option.bind_eq_some_iff.mp h
    cases h
    rw [Rlp.Item.fixed?_written ha, fixedItems?_written hp]
    rfl
  · cases h

theorem accessList?_written {item : Item} {l : AccessList} (h : accessList? item = some l) :
    item = l.item := by
  obtain ⟨items, hi, h⟩ := Option.bind_eq_some_iff.mp h
  rw [Rlp.Item.list?_written hi, mapM_written _ accessPlaces?_written h]
  rfl

theorem delegation?_written {item : Item} {d : Delegation} (h : delegation? item = some d) :
    item = d.item := by
  unfold delegation? at h
  split at h
  · simp only [Option.bind_eq_bind, Option.bind_eq_some_iff] at h
    obtain ⟨chainId, hchain, target, ht, nonce, hnonce, parity, hp, r, hr, s, hs, h⟩ := h
    cases h
    rw [word256?_written hchain, Rlp.Item.fixed?_written ht, word64?_written hnonce,
      word8?_written hp, word256?_written hr, word256?_written hs]
    rfl
  · cases h

theorem delegations?_written {item : Item} {l : List Delegation} (h : delegations? item = some l) :
    item = .list (l.map Delegation.item) := by
  obtain ⟨items, hi, h⟩ := Option.bind_eq_some_iff.mp h
  rw [Rlp.Item.list?_written hi, mapM_written _ delegation?_written h]

theorem sidecar?_written {items : List Item} {sidecar : Sidecar}
    (h : sidecar? items = some sidecar) : items = sidecar.items := by
  unfold sidecar? at h
  split at h
  case h_3 => cases h
  all_goals
    simp only [Option.bind_eq_bind, Option.bind_eq_some_iff] at h
    obtain ⟨blobs, hb, commitments, hc, proofs, hp, h⟩ := h
    cases h
    rw [fixedItems?_written hb, fixedItems?_written hc, fixedItems?_written hp]
    rfl

theorem signature?_written {v r s : Item} {signature : Signature}
    (h : signature? v r s = some signature) :
    [v, r, s] = [Rlp.ofNat signature.odd.toNat, Rlp.ofNat signature.r.toNat,
      Rlp.ofNat signature.s.toNat] := by
  unfold signature? at h
  simp only [Option.bind_eq_bind, Option.bind_eq_some_iff] at h
  obtain ⟨x, hr, y, hs, odd, hodd, h⟩ := h
  cases h
  rw [odd?_written hodd, word256?_written hr, word256?_written hs]

/-! ## Envelopes without blobs beside them -/

theorem items_eq_signedItems {e : Envelope} (h : e.payload.form.sidecar? = none) :
    e.items = e.signedItems := by
  rw [items, h]

theorem hash_eq_keccak {e : Envelope} (h : e.payload.form.sidecar? = none) :
    e.hash = Keccak.hash e.encode := by
  rw [hash, encode, items_eq_signedItems h]

/-! ## Forms -/

/-- What a form's reader accepts has the number of the form and was written by the form's fields. -/
def Reads (read : List Item → Option Envelope) (mark : Bytes) : Prop :=
  ∀ {items e}, read items = some e → Payload.marker e.payload.form = mark ∧ items = e.items

theorem plain?_written : Reads plain? [] := by
  intro items e h
  unfold plain? at h
  split at h
  · simp only [Option.bind_eq_bind, Option.bind_eq_some_iff] at h
    obtain ⟨nonce, hnonce, gasPrice, hprice, gasLimit, hgas, account, hto, value, hvalue, data,
      hdata, v, hv, ⟨chainId, odd⟩, hchain, r, hr, s, hs, h⟩ := h
    cases h
    rw [word64?_written hnonce, word128?_written hprice, word64?_written hgas,
      recipient?_written hto, word256?_written hvalue, Rlp.Item.bytes?_written hdata,
      (Rlp.Item.nat?_written hv).1, chainAndParity?_written gasPrice hchain, word256?_written hr,
      word256?_written hs]
    exact ⟨rfl, rfl⟩
  · cases h

theorem listed?_written : Reads listed? [1] := by
  intro items e h
  unfold listed? at h
  split at h
  · simp only [Option.bind_eq_bind, Option.bind_eq_some_iff] at h
    obtain ⟨chainId, hchain, gasPrice, hprice, l, hl, nonce, hnonce, gasLimit, hgas, account, hto,
      value, hvalue, data, hdata, signature, hsign, h⟩ := h
    cases h
    rw [signature?_written hsign, word64?_written hchain, word64?_written hnonce,
      word128?_written hprice, word64?_written hgas, recipient?_written hto,
      word256?_written hvalue, Rlp.Item.bytes?_written hdata, accessList?_written hl]
    exact ⟨rfl, rfl⟩
  · cases h

theorem dynamic?_written : Reads dynamic? [2] := by
  intro items e h
  unfold dynamic? at h
  split at h
  · simp only [Option.bind_eq_bind, Option.bind_eq_some_iff] at h
    obtain ⟨chainId, hchain, maxFee, hmax, tip, htip, l, hl, nonce, hnonce, gasLimit, hgas,
      account, hto, value, hvalue, data, hdata, signature, hsign, h⟩ := h
    cases h
    rw [signature?_written hsign, word64?_written hchain, word64?_written hnonce,
      word128?_written htip, word128?_written hmax, word64?_written hgas, recipient?_written hto,
      word256?_written hvalue, Rlp.Item.bytes?_written hdata, accessList?_written hl]
    exact ⟨rfl, rfl⟩
  · cases h

theorem bare?_written {sidecar : Option Sidecar} {items : List Item} {e : Envelope}
    (h : bare? sidecar items = some e) :
    Payload.marker e.payload.form = [3] ∧ e.payload.form.sidecar? = sidecar ∧
      items = e.signedItems := by
  unfold bare? at h
  split at h
  · simp only [Option.bind_eq_bind, Option.bind_eq_some_iff] at h
    obtain ⟨chainId, hchain, maxFee, hmax, tip, htip, l, hl, blobFee, hblob, hashes, hhashes,
      nonce, hnonce, gasLimit, hgas, account, hto, value, hvalue, data, hdata, signature, hsign,
      h⟩ := h
    cases h
    rw [signature?_written hsign, word64?_written hchain, word64?_written hnonce,
      word128?_written htip, word128?_written hmax, word64?_written hgas,
      Rlp.Item.fixed?_written hto, word256?_written hvalue, Rlp.Item.bytes?_written hdata,
      accessList?_written hl, word128?_written hblob, fixedItems?_written hhashes]
    exact ⟨rfl, rfl, rfl⟩
  · cases h

theorem blobs?_written : Reads blobs? [3] := by
  intro items e h
  unfold blobs? at h
  split at h
  · obtain ⟨sidecar, hs, h⟩ := Option.bind_eq_some_iff.mp h
    obtain ⟨mark, carried, rfl⟩ := bare?_written h
    rw [Envelope.items, carried, sidecar?_written hs]
    exact ⟨mark, rfl⟩
  · obtain ⟨mark, carried, rfl⟩ := bare?_written h
    rw [Envelope.items, carried]
    exact ⟨mark, rfl⟩

theorem delegating?_written : Reads delegating? [4] := by
  intro items e h
  unfold delegating? at h
  split at h
  · simp only [Option.bind_eq_bind, Option.bind_eq_some_iff] at h
    obtain ⟨chainId, hchain, maxFee, hmax, tip, htip, l, hl, delegations, hd, nonce, hnonce,
      gasLimit, hgas, account, hto, value, hvalue, data, hdata, signature, hsign, h⟩ := h
    cases h
    rw [signature?_written hsign, word64?_written hchain, word64?_written hnonce,
      word128?_written htip, word128?_written hmax, word64?_written hgas,
      Rlp.Item.fixed?_written hto, word256?_written hvalue, Rlp.Item.bytes?_written hdata,
      accessList?_written hl, delegations?_written hd]
    exact ⟨rfl, rfl⟩
  · cases h

theorem fromList?_written {read : List Item → Option Envelope} {mark b rest : Bytes} {e : Envelope}
    (written : Reads read mark) (h : fromList? read b = some (e, rest)) :
    mark ++ b = e.encode ++ rest := by
  obtain ⟨⟨item, tail⟩, hitem, h⟩ := Option.bind_eq_some_iff.mp h
  obtain ⟨items, hitems, h⟩ := Option.bind_eq_some_iff.mp h
  obtain ⟨e', he, h⟩ := Option.bind_eq_some_iff.mp h
  cases h
  obtain ⟨hmark, rfl⟩ := written he
  rw [Rlp.read?_written hitem, Rlp.Item.list?_written hitems, encode, hmark, List.append_assoc]

/-- The bytes of an envelope that was read are its encoding, and what followed it. -/
theorem decode?_written {raw rest : Bytes} {e : Envelope} (h : decode? raw = some (e, rest)) :
    raw = e.encode ++ rest := by
  cases raw with
  | nil => cases h
  | cons d tail =>
    rw [decode?] at h
    split at h
    · exact fromList?_written plain?_written h
    split at h
    case isTrue same => exact same ▸ fromList?_written listed?_written h
    split at h
    case isTrue same => exact same ▸ fromList?_written dynamic?_written h
    split at h
    case isTrue same => exact same ▸ fromList?_written blobs?_written h
    split at h
    case isTrue same => exact same ▸ fromList?_written delegating?_written h
    · cases h

end Envelope

theorem Draft.sidecar?_form (tx : Draft) : tx.form.sidecar? = none := by
  unfold form
  cases tx.fees <;> rfl

end Dispatch

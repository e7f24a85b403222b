import Dispatch.Proofs.Digits
import Dispatch.Rlp

/-!
# The written form of an item

The header of a content tells how long the content is, so what is written can be told apart from
what follows it. What is read was written in the one form that its item has.
-/

set_option autoImplicit false

namespace Dispatch.Rlp

/-! ## Headers -/

theorem header_short {base n : Nat} (h : n ≤ 55) : header base n = [UInt8.ofNat (base + n)] := by
  rw [header, if_pos h]

theorem header_long {base n : Nat} (h : 55 < n) :
    header base n =
      UInt8.ofNat (base + 55 + (Bytes.ofNatMinimal n).length) :: Bytes.ofNatMinimal n := by
  rw [header, if_neg (by omega)]

theorem mod_eq_of_ofNat_eq {m n : Nat} (h : UInt8.ofNat m = UInt8.ofNat n) : m % 256 = n % 256 := by
  have := congrArg UInt8.toNat h
  rwa [UInt8.toNat_ofNat', UInt8.toNat_ofNat'] at this

theorem length_digits_near {m n : Nat} (near : n < m + 2 ^ 64) :
    (Bytes.ofNatMinimal n).length ≤ (Bytes.ofNatMinimal m).length + 9 := by
  refine Bytes.length_ofNatMinimal_le ?_
  have hm := Bytes.lt_pow_length_ofNatMinimal m
  have hp : 0 < 256 ^ (Bytes.ofNatMinimal m).length := Nat.pow_pos (by omega)
  have hq : 256 ^ ((Bytes.ofNatMinimal m).length + 9) = 256 ^ (Bytes.ofNatMinimal m).length *
    256 ^ 9 :=
    Nat.pow_add _ _ _
  rw [hq]
  omega

theorem header_short_ne_long {base m n : Nat} {s t : Bytes} (hm : m ≤ 55) (hn : 55 < n)
    (near : n < m + 2 ^ 64) : header base m ++ s ≠ header base n ++ t := by
  intro h
  rw [header_short hm, header_long hn] at h
  have hd := mod_eq_of_ofNat_eq (List.cons.inj h).1
  have hk : (Bytes.ofNatMinimal n).length ≤ 9 := Bytes.length_ofNatMinimal_le (by omega)
  have hpos := Bytes.length_ofNatMinimal_pos (show n ≠ 0 by omega)
  omega

/-- A header tells the length from any other one that is not very far from it. The bound is there
because the count of digits is written in one byte. -/
theorem header_inj {base m n : Nat} {s t : Bytes} (near : m < n + 2 ^ 64) (near' : n < m + 2 ^ 64)
    (h : header base m ++ s = header base n ++ t) : m = n ∧ s = t := by
  have hmn : m = n := by
    by_cases hm : m ≤ 55
    · by_cases hn : n ≤ 55
      · rw [header_short hm, header_short hn] at h
        have hd := mod_eq_of_ofNat_eq (List.cons.inj h).1
        omega
      · exact (header_short_ne_long hm (by omega) near' h).elim
    · by_cases hn : n ≤ 55
      · exact (header_short_ne_long hn (by omega) near h.symm).elim
      · rw [header_long (by omega), header_long (by omega)] at h
        obtain ⟨hd, hs⟩ := List.cons.inj h
        have hd := mod_eq_of_ofNat_eq hd
        have hk := length_digits_near near
        have hk' := length_digits_near near'
        have hlen : (Bytes.ofNatMinimal m).length = (Bytes.ofNatMinimal n).length := by omega
        exact Bytes.ofNatMinimal_inj.mp (List.append_inj_left hs hlen)
  subst hmn
  exact ⟨rfl, List.append_cancel_left h⟩

theorem length_header_mono (base : Nat) {m n : Nat} (h : m ≤ n) :
    (header base m).length ≤ (header base n).length := by
  have hk := Bytes.length_ofNatMinimal_mono h
  by_cases hm : m ≤ 55
  · rw [header_short hm]
    by_cases hn : n ≤ 55
    · rw [header_short hn]
      exact Nat.le_refl 1
    · rw [header_long (by omega), List.length_cons]
      exact Nat.le_add_left 1 _
  · rw [header_long (by omega), header_long (by omega), List.length_cons, List.length_cons]
    omega

theorem header_append_inj {base : Nat} {s t : Bytes}
    (h : header base s.length ++ s = header base t.length ++ t) : s = t := by
  have hlen := congrArg List.length h
  rw [List.length_append, List.length_append] at hlen
  have hst : s.length = t.length := by
    rcases Nat.le_total s.length t.length with hle | hle
    · have := length_header_mono base hle
      omega
    · have := length_header_mono base hle
      omega
  rw [hst] at h
  exact List.append_cancel_left h

/-! ## Byte strings -/

theorem encodeBytes_cases (b : Bytes) :
    (∃ d, d < 0x80 ∧ b = [d] ∧ encodeBytes b = [d]) ∨
      encodeBytes b = header 0x80 b.length ++ b := by
  match b with
  | [] => exact .inr rfl
  | [d] =>
    by_cases hd : d < 0x80
    · exact .inl ⟨d, hd, rfl, by rw [encodeBytes, if_pos hd]⟩
    · exact .inr (by rw [encodeBytes, if_neg hd]; rfl)
  | _ :: _ :: _ => exact .inr rfl

theorem single_ne_header {d : UInt8} {n : Nat} {s t : Bytes} (hd : d < 0x80) (hn : n < 2 ^ 64) :
    d :: s ≠ header 0x80 n ++ t := by
  intro h
  have hd : d.toNat < 0x80 := UInt8.lt_iff_toNat_lt.mp hd
  by_cases hs : n ≤ 55
  · rw [header_short hs] at h
    have hh := congrArg UInt8.toNat (List.cons.inj h).1
    rw [UInt8.toNat_ofNat'] at hh
    omega
  · rw [header_long (by omega)] at h
    have hh := congrArg UInt8.toNat (List.cons.inj h).1
    rw [UInt8.toNat_ofNat'] at hh
    have hk : (Bytes.ofNatMinimal n).length ≤ 8 := Bytes.length_ofNatMinimal_le (by omega)
    omega

theorem encodeBytes_append_inj {x y s t : Bytes} (near : x.length < y.length + 2 ^ 63)
    (near' : y.length < x.length + 2 ^ 63) (h : encodeBytes x ++ s = encodeBytes y ++ t) :
    x = y ∧ s = t := by
  rcases encodeBytes_cases x with ⟨d, hd, rfl, hx⟩ | hx <;>
    rcases encodeBytes_cases y with ⟨e, he, rfl, hy⟩ | hy <;> rw [hx, hy] at h
  · obtain ⟨rfl, rfl⟩ := List.cons.inj h
    exact ⟨rfl, rfl⟩
  · rw [List.append_assoc] at h
    exact (single_ne_header hd (by simp only [List.length_singleton] at near'; omega) h).elim
  · rw [List.append_assoc] at h
    exact (single_ne_header he (by simp only [List.length_singleton] at near; omega) h.symm).elim
  · rw [List.append_assoc, List.append_assoc] at h
    obtain ⟨hlen, h⟩ := header_inj (by omega) (by omega) h
    exact List.append_inj h hlen

theorem length_le_of_encodeBytes {x y : Bytes} {k : Nat}
    (h : (encodeBytes y).length ≤ (encodeBytes x).length + k) : y.length ≤ x.length + k + 1 := by
  rcases encodeBytes_cases y with ⟨e, -, rfl, -⟩ | hy
  · exact Nat.le_add_left 1 _
  by_contra hlt
  have hmono := length_header_mono 0x80 (show x.length ≤ y.length by omega)
  rcases encodeBytes_cases x with ⟨d, -, rfl, hx⟩ | hx
  · rw [hx, hy, List.length_append] at h
    omega
  · rw [hx, hy, List.length_append, List.length_append] at h
    omega

theorem length_encodeBytes_le {b : Bytes} {n : Nat} (hn : n ≤ 55) (h : b.length ≤ n) :
    (encodeBytes b).length ≤ n + 1 := by
  rcases encodeBytes_cases b with ⟨d, -, rfl, hb⟩ | hb
  · rw [hb]
    omega
  · rw [hb, header_short (by omega), List.length_append, List.length_singleton]
    omega

theorem encodeBytes_of_ne {b : Bytes} (h : ∀ d, b = [d] → ¬d < 0x80) :
    encodeBytes b = header 0x80 b.length ++ b := by
  rcases encodeBytes_cases b with ⟨d, hd, rfl, -⟩ | hb
  · exact (h d rfl hd).elim
  · exact hb

/-! ## What is read -/

theorem take?_eq_some {n : Nat} {b x rest : Bytes} (h : take? n b = some (x, rest)) :
    b = x ++ rest ∧ x.length = n := by
  by_cases hn : n ≤ b.length
  · rw [take?, if_pos hn] at h
    obtain ⟨rfl, rfl⟩ := Prod.mk.inj (Option.some.inj h)
    exact ⟨(List.take_append_drop n b).symm, List.length_take_of_le hn⟩
  · rw [take?, if_neg hn] at h
    cases h

theorem longContent?_eq_some {k : Nat} {b x rest : Bytes} (h : longContent? k b = some (x, rest)) :
    55 < x.length ∧ (Bytes.ofNatMinimal x.length).length = k ∧
      b = Bytes.ofNatMinimal x.length ++ x ++ rest := by
  obtain ⟨⟨size, tail⟩, hsize, ht⟩ := Option.bind_eq_some_iff.mp h
  obtain ⟨rfl, hk⟩ := take?_eq_some hsize
  change (if size.head? = some 0 ∨ Bytes.toNat size ≤ 55 then none
    else take? (Bytes.toNat size) tail) = some (x, rest) at ht
  by_cases hbad : size.head? = some 0 ∨ Bytes.toNat size ≤ 55
  · rw [if_pos hbad] at ht
    cases ht
  rw [if_neg hbad] at ht
  obtain ⟨hhead, hlong⟩ := not_or.mp hbad
  obtain ⟨rfl, hx⟩ := take?_eq_some ht
  rw [hx, Bytes.ofNatMinimal_toNat hhead]
  exact ⟨by omega, hk, (List.append_assoc _ _ _).symm⟩

theorem header_of_long {base k : Nat} {d : UInt8} {b x rest : Bytes}
    (h : longContent? k b = some (x, rest)) (hd : d.toNat = base + 55 + k) :
    d :: b = header base x.length ++ x ++ rest := by
  obtain ⟨hlong, hk, rfl⟩ := longContent?_eq_some h
  rw [header_long hlong, hk, ← hd, UInt8.ofNat_toNat]
  simp

theorem header_of_short {base n : Nat} {d : UInt8} {b x rest : Bytes}
    (h : take? n b = some (x, rest))
    (hn : n ≤ 55) (hd : d.toNat = base + n) : d :: b = header base x.length ++ x ++ rest := by
  obtain ⟨rfl, rfl⟩ := take?_eq_some h
  rw [header_short hn, ← hd, UInt8.ofNat_toNat]
  simp

/-- What was read as an item, or as the items of a content, is their written form. -/
theorem decode?_written (fuel : Nat) :
    (∀ b item rest, decode? fuel b = some (item, rest) → b = encode item ++ rest) ∧
      ∀ b items, decodeAll? fuel b = some items → b = encodeAll items := by
  induction fuel with
  | zero =>
    constructor
    · intro b item rest h
      cases h
    · intro b items h
      cases b with
      | nil =>
        cases h
        rfl
      | cons d b => cases h
  | succ fuel ih =>
    obtain ⟨one, many⟩ := ih
    constructor
    · intro b item rest h
      cases b with
      | nil => cases h
      | cons d b =>
        have hlt := d.toNat_lt
        simp only [decode?] at h
        by_cases h1 : d.toNat < 0x80
        · simp only [h1, if_true] at h
          obtain ⟨rfl, rfl⟩ := Prod.mk.inj (Option.some.inj h)
          have hd : d < 0x80 := UInt8.lt_iff_toNat_lt.mpr h1
          simp [encode, encodeBytes, hd]
        simp only [h1, if_false] at h
        by_cases h2 : d.toNat ≤ 0xb7
        · simp only [h2, if_true] at h
          have content {x : Bytes} {tail : Bytes} (ht : take? (d.toNat - 0x80) b = some (x, tail))
              (hx : ∀ e, x = [e] → ¬e < 0x80) : d :: b = encode (.bytes x) ++ tail := by
            rw [encode, encodeBytes_of_ne hx]
            exact header_of_short ht (by omega) (by omega)
          split at h
          · next e tail ht =>
            by_cases he : e < 0x80
            · simp [he] at h
            · simp only [he, if_false] at h
              obtain ⟨rfl, rfl⟩ := Prod.mk.inj (Option.some.inj h)
              exact content ht (by rintro e' he'; cases he'; exact he)
          · next x tail hne ht =>
            obtain ⟨rfl, rfl⟩ := Prod.mk.inj (Option.some.inj h)
            exact content ht (by rintro e rfl; exact (hne e rfl).elim)
          · cases h
        simp only [h2, if_false] at h
        by_cases h3 : d.toNat ≤ 0xbf
        · simp only [h3, if_true] at h
          obtain ⟨⟨x, tail⟩, ht, heq⟩ := Option.map_eq_some_iff.mp h
          obtain ⟨rfl, rfl⟩ := Prod.mk.inj heq
          have hlong := (longContent?_eq_some ht).1
          rw [encode, encodeBytes_of_ne (by rintro e rfl; simp at hlong)]
          exact header_of_long ht (by omega)
        simp only [h3, if_false] at h
        have content {x tail : Bytes} (hx : d :: b = header 0xc0 x.length ++ x ++ tail)
            (h : (decodeAll? fuel x).map (fun items => (Item.list items, tail)) =
              some (item, rest)) :
            d :: b = encode item ++ rest := by
          obtain ⟨items, hi, heq⟩ := Option.map_eq_some_iff.mp h
          obtain ⟨rfl, rfl⟩ := Prod.mk.inj heq
          rw [encode, ← many x items hi]
          exact hx
        by_cases h4 : d.toNat ≤ 0xf7
        · simp only [h4, if_true] at h
          split at h
          · next x tail ht => exact content (header_of_short ht (by omega) (by omega)) h
          · cases h
        · simp only [h4, if_false] at h
          split at h
          · next x tail ht => exact content (header_of_long ht (by omega)) h
          · cases h
    · intro b items h
      cases b with
      | nil =>
        cases h
        rfl
      | cons d b =>
        simp only [decodeAll?] at h
        split at h
        · next item rest hi =>
          obtain ⟨tail, ht, rfl⟩ := Option.map_eq_some_iff.mp h
          rw [encodeAll, ← many rest tail ht]
          exact one _ _ _ hi
        · cases h

theorem read?_written {b rest : Bytes} {item : Item} (h : read? b = some (item, rest)) :
    b = encode item ++ rest := (decode?_written _).1 _ _ _ h

end Dispatch.Rlp

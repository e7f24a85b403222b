import Dispatch.Proofs.RlpForm

/-!
# Reading back items

An item is read from its written form, with what follows it left over, if the length of the form is
a number of 64 bits. Longer lengths have no header.
-/

set_option autoImplicit false

namespace Dispatch.Rlp

/-! ## Headers -/

theorem take?_append (x rest : Bytes) : take? x.length (x ++ rest) = some (x, rest) := by
  rw [take?, if_pos (by rw [List.length_append]; exact Nat.le_add_right _ _), List.take_left,
    List.drop_left]

theorem longContent?_written {x : Bytes} (long : 55 < x.length) (rest : Bytes) :
    longContent? (Bytes.ofNatMinimal x.length).length (Bytes.ofNatMinimal x.length ++ (x ++ rest)) =
      some (x, rest) := by
  have legal : ¬ ((Bytes.ofNatMinimal x.length).head? = some 0 ∨ x.length ≤ 55) :=
    not_or.mpr ⟨Bytes.head?_ofNatMinimal _, by omega⟩
  rw [longContent?, take?_append, Option.bind_eq_bind, Option.bind_some]
  simp only [Bytes.toNat_ofNatMinimal, legal, if_false, take?_append]

theorem header_cases {base n : Nat} (small : base ≤ 0xc0) (h : n < 2 ^ 64) :
    (n ≤ 55 ∧ ∃ d : UInt8, header base n = [d] ∧ d.toNat = base + n) ∨
      55 < n ∧ ∃ d : UInt8, header base n = d :: Bytes.ofNatMinimal n ∧
        d.toNat = base + 55 + (Bytes.ofNatMinimal n).length ∧
        0 < (Bytes.ofNatMinimal n).length ∧ (Bytes.ofNatMinimal n).length ≤ 8 := by
  by_cases short : n ≤ 55
  · refine .inl ⟨short, _, header_short short, ?_⟩
    rw [UInt8.toNat_ofNat', Nat.mod_eq_of_lt (by omega)]
  · have pos : 0 < (Bytes.ofNatMinimal n).length := Bytes.length_ofNatMinimal_pos (by omega)
    have le : (Bytes.ofNatMinimal n).length ≤ 8 := Bytes.length_ofNatMinimal_le (by omega)
    refine .inr ⟨by omega, _, header_long (by omega), ?_, pos, le⟩
    rw [UInt8.toNat_ofNat', Nat.mod_eq_of_lt (by omega)]

/-! ## Items -/

theorem length_le_encodeBytes (b : Bytes) : b.length ≤ (encodeBytes b).length := by
  rcases encodeBytes_cases b with ⟨d, -, rfl, hb⟩ | hb
  · exact Nat.le_of_eq (by rw [hb])
  · rw [hb, List.length_append]
    omega

theorem decode?_bytes {b : Bytes} (h : b.length < 2 ^ 64) (fuel : Nat) (rest : Bytes) :
    decode? (fuel + 1) (encodeBytes b ++ rest) = some (.bytes b, rest) := by
  by_cases small : ∃ d, b = [d] ∧ d < 0x80
  · obtain ⟨d, rfl, hd⟩ := small
    have low : d.toNat < 0x80 := UInt8.lt_iff_toNat_lt.mp hd
    rw [encodeBytes, if_pos hd, List.singleton_append, decode?]
    simp only [low, if_true]
  have plain : ∀ d, b = [d] → ¬ d < 0x80 := fun d hb hd => small ⟨d, hb, hd⟩
  rw [encodeBytes_of_ne plain, List.append_assoc]
  rcases header_cases (by decide : 0x80 ≤ 0xc0) h with ⟨short, d, hd, first⟩ |
    ⟨long, d, hd, first, pos, le⟩
  · have size : d.toNat - 0x80 = b.length := by omega
    rw [hd, List.singleton_append, decode?]
    simp only [size, take?_append, if_neg (show ¬ d.toNat < 0x80 by omega),
      if_pos (show d.toNat ≤ 0xb7 by omega)]
    split
    next e tail heq =>
      cases heq
      exact if_neg (plain e rfl)
    next heq =>
      cases heq
      rfl
    next heq => cases heq
  · have size : d.toNat - 0xb7 = (Bytes.ofNatMinimal b.length).length := by omega
    rw [hd, List.cons_append, decode?]
    simp only [size, longContent?_written long, Option.map_some,
      if_neg (show ¬ d.toNat < 0x80 by omega),
      if_neg (show ¬ d.toNat ≤ 0xb7 by omega), if_pos (show d.toNat ≤ 0xbf by omega)]

theorem decode?_list {content : Bytes} (h : content.length < 2 ^ 64) (fuel : Nat) (rest : Bytes) :
    decode? (fuel + 1) (header 0xc0 content.length ++ (content ++ rest)) =
      (decodeAll? fuel content).map fun items => (.list items, rest) := by
  rcases header_cases (Nat.le_refl 0xc0) h with ⟨short, d, hd, first⟩ |
    ⟨long, d, hd, first, pos, le⟩
  · have size : d.toNat - 0xc0 = content.length := by omega
    rw [hd, List.singleton_append, decode?]
    simp only [size, take?_append, if_neg (show ¬ d.toNat < 0x80 by omega),
      if_neg (show ¬ d.toNat ≤ 0xb7 by omega),
      if_neg (show ¬ d.toNat ≤ 0xbf by omega), if_pos (show d.toNat ≤ 0xf7 by omega)]
  · have size : d.toNat - 0xf7 = (Bytes.ofNatMinimal content.length).length := by omega
    rw [hd, List.cons_append, decode?]
    simp only [size, longContent?_written long, if_neg (show ¬ d.toNat < 0x80 by omega),
      if_neg (show ¬ d.toNat ≤ 0xb7 by omega), if_neg (show ¬ d.toNat ≤ 0xbf by omega),
      if_neg (show ¬ d.toNat ≤ 0xf7 by omega)]

theorem decodeAll?_cons {fuel : Nat} {b rest : Bytes} {item : Item} {items : List Item}
    (first : decode? fuel b = some (item, rest)) (more : decodeAll? fuel rest = some items) :
    decodeAll? (fuel + 1) b = some (item :: items) := by
  cases b with
  | nil => cases fuel <;> cases first
  | cons d b => simp only [decodeAll?, first, more, Option.map_some]

theorem length_header_pos (base n : Nat) : 0 < (header base n).length := by
  unfold header
  split <;> exact Nat.succ_pos _

theorem length_header_le (base : Nat) {n : Nat} (h : n < 2 ^ 64) : (header base n).length ≤ 9 := by
  by_cases short : n ≤ 55
  · rw [header_short short, List.length_singleton]
    omega
  · have size : (Bytes.ofNatMinimal n).length ≤ 8 := Bytes.length_ofNatMinimal_le (by omega)
    rw [header_long (by omega), List.length_cons]
    omega

theorem length_encode_bytes_le {b : Bytes} (h : b.length < 2 ^ 64) :
    (encode (.bytes b)).length ≤ b.length + 9 := by
  have front := length_header_le 0x80 h
  rw [encode]
  rcases encodeBytes_cases b with ⟨d, -, rfl, hb⟩ | hb
  · rw [hb]
    omega
  · rw [hb, List.length_append]
    omega

theorem length_lt_encode_list (items : List Item) :
    (encodeAll items).length < (encode (.list items)).length := by
  have := length_header_pos 0xc0 (encodeAll items).length
  rw [encode, List.length_append]
  omega

theorem length_encode_pos (item : Item) : 0 < (encode item).length := by
  cases item with
  | bytes b =>
    rw [encode]
    rcases encodeBytes_cases b with ⟨d, -, rfl, hb⟩ | hb
    · rw [hb]
      exact Nat.one_pos
    · have := length_header_pos 0x80 b.length
      rw [hb, List.length_append]
      omega
  | list items => exact Nat.zero_lt_of_lt (length_lt_encode_list items)

/-- With fuel for each byte twice, items are read from their written forms. -/
theorem decode?_encode (fuel : Nat) :
    (∀ item rest, (encode item).length < 2 ^ 64 → 2 * (encode item).length ≤ fuel + 1 →
      decode? fuel (encode item ++ rest) = some (item, rest)) ∧
    ∀ items, (encodeAll items).length < 2 ^ 64 → 2 * (encodeAll items).length ≤ fuel →
      decodeAll? fuel (encodeAll items) = some items := by
  induction fuel with
  | zero =>
    constructor
    · intro item rest _ enough
      have := length_encode_pos item
      omega
    · intro items _ enough
      cases items with
      | nil => rfl
      | cons item items =>
        have := length_encode_pos item
        rw [encodeAll, List.length_append] at enough
        omega
  | succ fuel ih =>
    obtain ⟨one, many⟩ := ih
    constructor
    · intro item rest bound enough
      cases item with
      | bytes b =>
        have short := length_le_encodeBytes b
        rw [encode] at bound ⊢
        exact decode?_bytes (by omega) fuel rest
      | list items =>
        have inner := length_lt_encode_list items
        have content := many items (by omega) (by omega)
        rw [encode, List.append_assoc, decode?_list (by omega), content, Option.map_some]
    · intro items bound enough
      cases items with
      | nil => rfl
      | cons item items =>
        have pos := length_encode_pos item
        rw [encodeAll, List.length_append] at bound enough
        rw [encodeAll]
        exact decodeAll?_cons (one item _ (by omega) (by omega)) (many items (by omega) (by omega))

theorem read?_encode {item : Item} (h : (encode item).length < 2 ^ 64) (rest : Bytes) :
    read? (encode item ++ rest) = some (item, rest) := by
  refine (decode?_encode _).1 item rest h ?_
  rw [List.length_append]
  omega

end Dispatch.Rlp

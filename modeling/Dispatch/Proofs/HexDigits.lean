import Dispatch.Json.Decode

/-!
# Reading back hexadecimal text
-/

set_option autoImplicit false

namespace Dispatch.Hex

theorem digitValue?_digit {n : Nat} (h : n < 16) : digitValue? (digit n) = some n := by
  have all : ∀ n < 16, digitValue? (digit n) = some n := by decide
  exact all n h

theorem digit_cases {c : Char} {d : Nat} (h : digitValue? c = some d) :
    d < 16 ∧ (48 ≤ c.toNat ∧ c.toNat ≤ 57 ∧ d = c.toNat - 48 ∨ 97 ≤ c.toNat ∧ c.toNat ≤ 102 ∧
      d = c.toNat - 87 ∨
      65 ≤ c.toNat ∧ c.toNat ≤ 70 ∧ d = c.toNat - 55) := by
  unfold digitValue? at h
  split at h
  next range =>
    cases h
    have low : 48 ≤ c.toNat := range.1
    have high : c.toNat ≤ 57 := range.2
    omega
  split at h
  next range =>
    cases h
    have low : 97 ≤ c.toNat := range.1
    have high : c.toNat ≤ 102 := range.2
    omega
  split at h
  next range =>
    cases h
    have low : 65 ≤ c.toNat := range.1
    have high : c.toNat ≤ 70 := range.2
    omega
  · cases h

/-! ## Digits of either case -/

/-- A text writes bytes: two digits for each, the letters of either case. -/
def Writes (text : List Char) (b : Bytes) : Prop := text.map Char.toLower = b.flatMap pair

theorem digitValue?_toLower (c : Char) : digitValue? c.toLower = digitValue? c := by
  by_cases upper : c.val ≥ 'A'.val ∧ c.val ≤ 'Z'.val
  · have letters : ∀ n < 91, digitValue? (Char.ofNat n).toLower = digitValue? (Char.ofNat n) := by
      decide
    have letter := letters c.toNat (Nat.lt_succ_of_le upper.2)
    rwa [Char.ofNat_toNat] at letter
  · rw [show c.toLower = c from dif_neg upper]

theorem digitValue?_eq_some_iff {c : Char} {n : Nat} : digitValue? c = some n ↔ n < 16 ∧
    c.toLower = digit n := by
  constructor
  · intro h
    have lowered : ∀ m < 103, ∀ n ∈ digitValue? (Char.ofNat m), (Char.ofNat m).toLower =
      digit n := by decide
    obtain ⟨bound, range⟩ := digit_cases h
    have here := lowered c.toNat (by omega)
    rw [Char.ofNat_toNat] at here
    exact ⟨bound, here n h⟩
  · rintro ⟨bound, lowered⟩
    rw [← digitValue?_toLower, lowered, digitValue?_digit bound]

theorem writes_nil_iff {b : Bytes} : Writes [] b ↔ b = [] := by
  cases b <;> simp [Writes, pair]

theorem not_writes_singleton {c : Char} {b : Bytes} : ¬ Writes [c] b := by
  cases b <;> simp [Writes, pair]

theorem writes_cons_cons_iff {hi lo : Char} {text : List Char} {b : Bytes} :
    Writes (hi :: lo :: text) b ↔ ∃ d rest, b = d :: rest ∧ digitValue? hi = some (d.toNat / 16) ∧
      digitValue? lo = some (d.toNat % 16) ∧ Writes text rest := by
  constructor
  · intro written
    cases b with
    | nil => cases written
    | cons d rest =>
      have same : hi.toLower :: lo.toLower :: text.map Char.toLower =
        digit (d.toNat / 16) :: digit (d.toNat % 16) :: rest.flatMap pair := written
      injection same with high same
      injection same with low written
      have bound := d.toNat_lt
      exact ⟨d, rest, rfl, digitValue?_eq_some_iff.mpr ⟨by omega, high⟩,
        digitValue?_eq_some_iff.mpr ⟨by omega, low⟩, written⟩
  · rintro ⟨d, rest, rfl, high, low, written⟩
    show hi.toLower :: lo.toLower :: text.map Char.toLower =
      digit (d.toNat / 16) :: digit (d.toNat % 16) :: rest.flatMap pair
    rw [(digitValue?_eq_some_iff.mp high).2, (digitValue?_eq_some_iff.mp low).2, written]

/-- Just the texts that write bytes are read, as the bytes that they write. -/
theorem readBare?_eq_some_iff {text : List Char} {b : Bytes} : readBare? text = some b ↔
    Writes text b := by
  fun_induction readBare? text generalizing b with
  | case1 => rw [writes_nil_iff, Option.some.injEq, eq_comm]
  | case2 c => exact iff_of_false nofun not_writes_singleton
  | case3 hi lo text h l low high ih =>
    rw [writes_cons_cons_iff, Option.map_eq_some_iff]
    constructor
    · rintro ⟨rest, read, rfl⟩
      have bound := (digitValue?_eq_some_iff.mp low).1
      have bound' := (digitValue?_eq_some_iff.mp high).1
      have byte : (UInt8.ofNat (16 * h + l)).toNat = 16 * h + l := by
        rw [UInt8.toNat_ofNat']
        omega
      refine ⟨_, rest, rfl, ?_, ?_, ih.mp read⟩
      · rw [high, byte, show (16 * h + l) / 16 = h by omega]
      · rw [low, byte, show (16 * h + l) % 16 = l by omega]
    · rintro ⟨d, rest, rfl, high', low', written⟩
      cases high.symm.trans high'
      cases low.symm.trans low'
      exact ⟨rest, ih.mpr written, by rw [Nat.div_add_mod, UInt8.ofNat_toNat]⟩
  | case4 hi lo text unread =>
    refine iff_of_false nofun fun written => ?_
    obtain ⟨d, rest, -, high, low, -⟩ := writes_cons_cons_iff.mp written
    exact unread _ _ high low

theorem mem_pairs {c : Char} {b : Bytes} (h : c ∈ b.flatMap pair) : ∃ n < 16, c = digit n := by
  obtain ⟨d, -, here⟩ := List.mem_flatMap.mp h
  have := d.toNat_lt
  rcases List.mem_cons.mp here with rfl | here
  · exact ⟨d.toNat / 16, by omega, rfl⟩
  · exact ⟨d.toNat % 16, by omega, List.mem_singleton.mp here⟩

theorem writes_pairs (b : Bytes) : Writes (b.flatMap pair) b := by
  have lower : ∀ n < 16, (digit n).toLower = digit n := by decide
  refine (List.map_congr_left fun c among => ?_).trans (List.map_id (b.flatMap pair))
  obtain ⟨n, bound, rfl⟩ := mem_pairs among
  exact lower n bound

theorem readBare?_pairs (b : Bytes) : readBare? (b.flatMap pair) = some b :=
  readBare?_eq_some_iff.mpr (writes_pairs b)

def capitals (chosen : Nat → Bool) (b : Bytes) : List Char :=
  (b.flatMap pair).mapIdx fun i c => if chosen i then c.toUpper else c

theorem writes_capitals (chosen : Nat → Bool) (b : Bytes) : Writes (capitals chosen b) b := by
  have cases : ∀ n < 16, (digit n).toLower = digit n ∧
    (digit n).toUpper.toLower = digit n := by decide
  refine List.ext_getElem (by simp [capitals]) fun i _ inside => ?_
  obtain ⟨n, bound, here⟩ := mem_pairs (List.getElem_mem inside)
  obtain ⟨lower, capital⟩ := cases n bound
  simp only [capitals, List.getElem_map, List.getElem_mapIdx, here]
  split
  · exact capital
  · exact lower

theorem read?_marked (b : Bytes) : read? (marked b).toList = some b := by
  have marked_eq : (marked b).toList = '0' :: 'x' :: b.flatMap pair := by
    simp [marked, bare]
  rw [marked_eq]
  exact readBare?_pairs b

/-- The digits, of either case and perhaps with zeros in front, have this value. -/
def Spells (digits : List Char) (n : Nat) : Prop :=
  digits.foldlM (fun n c => (digitValue? c).map fun d => 16 * n + d) 0 = some n

theorem spells_pairs (b : Bytes) : Spells (b.flatMap pair) (Bytes.toNat b) := by
  have read : ∀ m, (b.flatMap pair).foldlM (fun n c => (digitValue? c).map fun d => 16 * n + d) m =
      some (b.foldl (fun n d => 256 * n + d.toNat) m) := by
    induction b with
    | nil => intro m; rfl
    | cons d rest ih =>
      intro m
      have high : digitValue? (digit (d.toNat / 16)) = some (d.toNat / 16) :=
        digitValue?_digit (by have := d.toNat_lt; omega)
      have low : digitValue? (digit (d.toNat % 16)) = some (d.toNat % 16) :=
        digitValue?_digit (by omega)
      have byte : 16 * (16 * m + d.toNat / 16) + d.toNat % 16 = 256 * m + d.toNat := by omega
      show (digit (d.toNat / 16) :: digit (d.toNat % 16) :: rest.flatMap pair).foldlM _ m = _
      simp only [List.foldlM_cons, high, low, Option.map_some, Option.bind_eq_bind,
        Option.bind_some, byte]
      exact ih _
  exact read 0

/-! ## Scalars -/

theorem json_digitValue? {c : Char} {d : Nat} (h : digitValue? c = some d) :
    Json.digitValue? c = some d := by
  rcases (digit_cases h).2 with ⟨low, high, rfl⟩ | ⟨low, high, rfl⟩ | ⟨low, high, rfl⟩
  · exact if_pos ⟨low, high⟩
  · have digit : ¬ ('0' ≤ c ∧ c ≤ '9') := by
      intro range
      have : c.toNat ≤ 57 := range.2
      omega
    have letter : 'a' ≤ c ∧ c ≤ 'z' := by
      constructor
      · exact low
      · show c.toNat ≤ 122
        omega
    rw [Json.digitValue?, if_neg digit, if_pos letter]
  · have digit : ¬ ('0' ≤ c ∧ c ≤ '9') := by
      intro range
      have : c.toNat ≤ 57 := range.2
      omega
    have letter : ¬ ('a' ≤ c ∧ c ≤ 'z') := by
      intro range
      have : 97 ≤ c.toNat := range.1
      omega
    have capital : 'A' ≤ c ∧ c ≤ 'Z' := by
      constructor
      · exact low
      · show c.toNat ≤ 90
        omega
    rw [Json.digitValue?, if_neg digit, if_neg letter, if_pos capital]

theorem ne_of_digit {c x : Char} {d : Nat} (h : digitValue? c = some d)
    (hx : digitValue? x = none) : c ≠ x := by
  rintro rfl
  rw [h] at hx
  cases hx

theorem spelled_from {digits : List Char} {m n : Nat}
    (h : digits.foldlM (fun n c => (digitValue? c).map fun d => 16 * n + d) m = some n) :
    (∀ c ∈ digits, ∃ d, digitValue? c = some d) ∧
      digits.foldlM (fun n c => (Json.digitValue? c).bind fun d =>
        if d < 16 then some (n * 16 + d) else none) m = some n := by
  induction digits generalizing m with
  | nil => exact ⟨by simp, h⟩
  | cons c cs ih =>
    rw [List.foldlM_cons] at h ⊢
    obtain ⟨k, hk, h⟩ := Option.bind_eq_some_iff.mp h
    obtain ⟨d, hd, rfl⟩ := Option.map_eq_some_iff.mp hk
    obtain ⟨all, read⟩ := ih h
    constructor
    · intro c' hc'
      rcases List.mem_cons.mp hc' with rfl | hc'
      · exact ⟨d, hd⟩
      · exact all c' hc'
    · rw [json_digitValue? hd, Option.bind_some, if_pos (digit_cases hd).1, Nat.mul_comm m 16]
      exact read

theorem Spells.digits {digits : List Char} {n : Nat} (h : Spells digits n) :
    ∀ c ∈ digits, ∃ d, digitValue? c = some d := (spelled_from h).1

theorem Spells.scalar? {digits : List Char} {x : BitVec 256} (h : Spells digits x.toNat) :
    Json.scalar? 16 digits = some x := by
  have plain : digits.filter (· != '_') = digits := by
    apply List.filter_eq_self.mpr
    intro c hc
    obtain ⟨d, hd⟩ := h.digits c hc
    exact bne_iff_ne.mpr (ne_of_digit hd (by decide))
  have bound : x.toNat < Nat.pow 2 256 := x.isLt
  rw [Json.scalar?, Json.readRadix?, plain, (spelled_from h).2, Option.bind_some, if_pos bound,
    BitVec.ofNat_toNat, BitVec.setWidth_eq]

theorem spells_quantityDigits (n : Nat) : Spells (quantityDigits n) n := by
  induction n using Nat.strongRecOn with
  | ind n ih =>
    rw [quantityDigits]
    split
    next small =>
      rw [Spells, List.foldlM_cons, digitValue?_digit small]
      simp
    next large =>
      have front : Spells (quantityDigits (n / 16)) (n / 16) := ih (n / 16) (by omega)
      have last : digitValue? (digit (n % 16)) = some (n % 16) := digitValue?_digit (by omega)
      have whole : 16 * (n / 16) + n % 16 = n := by omega
      rw [Spells] at front ⊢
      simp only [List.foldlM_append, front, last, List.foldlM_cons, List.foldlM_nil,
        Option.map_some,
        Option.bind_eq_bind, Option.bind_some, Option.pure_def, whole]

end Dispatch.Hex

import Dispatch.Binary64
import Mathlib.Algebra.Order.Floor.Semifield
import Mathlib.Data.Rat.Floor
import Mathlib.Tactic.Linarith
import Mathlib.Tactic.NormNum
import Mathlib.Tactic.Positivity
import Mathlib.Tactic.Ring

/-!
# Amounts times a multiplier

Amount and product are rounded to 53 bits, so the product is off by a few units in its last bits and
no more. It is taken to the nearest whole amount after that.
-/

set_option autoImplicit false

namespace Dispatch

namespace Binary64

variable {num den a b m : Nat} {e : Int} {negative : Bool}

theorem two_zpow_pos (e : Int) : (0 : ℚ) < 2 ^ e := zpow_pos (by norm_num) e

theorem ratio_eq (m : Nat) (e : Int) :
    ((ratio m e).1 : ℚ) / (ratio m e).2 = m * 2 ^ e ∧ 0 < (ratio m e).2 := by
  unfold ratio
  by_cases h : 0 ≤ e
  · obtain ⟨n, rfl⟩ := Int.eq_ofNat_of_zero_le h
    simp
  · obtain ⟨n, rfl⟩ := Int.eq_negSucc_of_lt_zero (not_le.mp h)
    simp [h, zpow_negSucc, div_eq_mul_inv, Int.neg_negSucc]

theorem scaled_eq (num : Nat) (hd : 0 < den) (e : Int) :
    ((scaled num den e).1 : ℚ) / (scaled num den e).2 = num / den / 2 ^ e ∧
      0 < (scaled num den e).2 := by
  unfold scaled
  by_cases h : 0 ≤ e
  · obtain ⟨n, rfl⟩ := Int.eq_ofNat_of_zero_le h
    simp [hd, div_div]
  · obtain ⟨n, rfl⟩ := Int.eq_negSucc_of_lt_zero (not_le.mp h)
    simp [h, hd, zpow_negSucc, Int.neg_negSucc, mul_div_right_comm]

theorem divEven_near (hb : 0 < b) : |(divEven a b : ℚ) - a / b| ≤ 1 / 2 := by
  have parts := Nat.div_add_mod a b
  have rest := Nat.mod_lt a hb
  have near : 2 * (b * divEven a b) ≤ 2 * a + b ∧ 2 * a ≤ 2 * (b * divEven a b) + b := by
    have next : b * (a / b + 1) = b * (a / b) + b := Nat.mul_succ b (a / b)
    unfold divEven
    dsimp only
    rcases Nat.mod_two_eq_zero_or_one (a / b) with even | odd
    · rw [even]
      grind
    · rw [odd]
      grind
  have below : (2 * (b * divEven a b) : ℚ) ≤ 2 * a + b := by exact_mod_cast near.1
  have above : (2 * a : ℚ) ≤ 2 * (b * divEven a b) + b := by exact_mod_cast near.2
  have positive : (0 : ℚ) < b := by exact_mod_cast hb
  have exact : (b : ℚ) * (a / b) = a := by field_simp
  rw [abs_le]
  constructor <;> nlinarith

/-- The power of two that a quotient has 53 bits above. -/
def topExponent (num den : Nat) : Int :=
  let e : Int := (num.log2 : Int) - den.log2 - 52
  let (a, b) := scaled num den e
  if a / b < hidden then e - 1 else e

theorem gridExponent_eq (num den : Nat) :
    gridExponent num den = if topExponent num den < -1074 then -1074 else topExponent num den := rfl

theorem topExponent_le (hn : num ≠ 0) (hd : 0 < den) :
    (2 : ℚ) ^ (52 + topExponent num den) ≤ num / den := by
  have positive : (0 : ℚ) < den := by exact_mod_cast hd
  obtain ⟨value, divisor⟩ := scaled_eq num hd (num.log2 - den.log2 - 52)
  unfold topExponent
  dsimp only
  split
  case isTrue =>
    -- Each of the logarithms is off by less than one.
    have low : (2 : ℚ) ^ num.log2 ≤ num := by exact_mod_cast Nat.log2_self_le hn
    have high : (den : ℚ) ≤ 2 ^ (den.log2 + 1) := by exact_mod_cast Nat.lt_log2_self.le
    have power : (2 : ℚ) ^ (52 + (num.log2 - den.log2 - 52 - 1) : Int) =
        2 ^ num.log2 / 2 ^ (den.log2 + 1) := by
      rw [← zpow_natCast, ← zpow_natCast, ← zpow_sub₀ (by norm_num)]
      congr 1
      push_cast
      omega
    rw [power]
    exact div_le_div₀ (by positivity) low positive high
  case isFalse full =>
    have whole := (Nat.le_div_iff_mul_le divisor).mp (not_lt.mp full)
    have enough : (hidden : ℚ) ≤ num / den / 2 ^ (num.log2 - den.log2 - 52 : Int) := by
      rw [← value, le_div_iff₀ (by exact_mod_cast divisor)]
      exact_mod_cast whole
    rw [le_div_iff₀ (two_zpow_pos _)] at enough
    rw [zpow_add₀ (by norm_num)]
    refine le_trans (le_of_eq ?_) enough
    norm_num [hidden]

theorem gridExponent_fine (hn : num ≠ 0) (hd : 0 < den) :
    gridExponent num den = -1074 ∨ (2 : ℚ) ^ (52 + gridExponent num den) ≤ num / den := by
  rw [gridExponent_eq]
  split
  · exact .inl rfl
  · exact .inr (topExponent_le hn hd)

theorem half_gridExponent_le (hn : num ≠ 0) (hd : 0 < den) :
    (2 : ℚ) ^ gridExponent num den / 2 ≤ num / den / 2 ^ 53 + 2 ^ (-1075 : Int) := by
  have amount : (0 : ℚ) ≤ num / den := by positivity
  rcases gridExponent_fine hn hd with finest | fine
  · have half : (2 : ℚ) ^ (-1074 : Int) / 2 = 2 ^ (-1075 : Int) := by
      rw [show (-1074 : Int) = -1075 + 1 by rfl, zpow_add₀ (by norm_num)]
      ring
    rw [finest, half]
    linarith [div_nonneg amount (by norm_num : (0 : ℚ) ≤ 2 ^ 53)]
  · have bits : (2 : ℚ) ^ (52 : Int) = 2 ^ 52 := by norm_cast
    rw [zpow_add₀ (by norm_num), bits] at fine
    have finest := two_zpow_pos (-1075)
    linarith

def onGrid (num den : Nat) : Nat :=
  divEven (scaled num den (gridExponent num den)).1 (scaled num den (gridExponent num den)).2

theorem onGrid_near (hn : num ≠ 0) (hd : 0 < den) :
    |(onGrid num den : ℚ) * 2 ^ gridExponent num den - num / den| ≤
      num / den / 2 ^ 53 + 2 ^ (-1075 : Int) := by
  obtain ⟨value, divisor⟩ := scaled_eq num hd (gridExponent num den)
  have off := divEven_near (a := (scaled num den (gridExponent num den)).1) divisor
  rw [value] at off
  have step := two_zpow_pos (gridExponent num den)
  have factor : (onGrid num den : ℚ) * 2 ^ gridExponent num den - num / den =
      (onGrid num den - num / den / 2 ^ gridExponent num den) * 2 ^ gridExponent num den := by
    rw [sub_mul, div_mul_cancel₀ _ step.ne']
  rw [factor, abs_mul, abs_of_pos step]
  calc _ ≤ 1 / 2 * (2 : ℚ) ^ gridExponent num den := mul_le_mul_of_nonneg_right off step.le
    _ = 2 ^ gridExponent num den / 2 := by ring
    _ ≤ _ := half_gridExponent_le hn hd

theorem ofRatio_eq (negative : Bool) (hn : num ≠ 0) :
    ofRatio negative num den =
      if onGrid num den = 2 * hidden then
        if 971 < gridExponent num den + 1 then .infinite negative
        else .finite negative hidden (gridExponent num den + 1)
      else
        if 971 < gridExponent num den then .infinite negative
        else .finite negative (onGrid num den) (gridExponent num den) := by
  rw [ofRatio, if_neg hn]
  unfold onGrid
  dsimp only
  split <;> rfl

/-- A quotient is rounded by half a unit of its last bit at most, unless it is too large. -/
theorem ofRatio_near (negative : Bool) (num : Nat) (hd : 0 < den) :
    (∃ m e, ofRatio negative num den = .finite negative m e ∧
      |(m : ℚ) * 2 ^ e - num / den| ≤ num / den / 2 ^ 53 + 2 ^ (-1075 : Int)) ∨
    ofRatio negative num den = .infinite negative ∧ (2 : ℚ) ^ (1023 : Int) ≤ num / den := by
  by_cases hn : num = 0
  · exact .inl ⟨0, -1074, by rw [ofRatio, if_pos hn]; rfl, by simp [hn]⟩
  have near := onGrid_near hn hd
  have large (wide : 971 ≤ gridExponent num den) : (2 : ℚ) ^ (1023 : Int) ≤ num / den := by
    rcases gridExponent_fine hn hd with finest | fine
    · omega
    · exact (zpow_le_zpow_right₀ (by norm_num) (by omega)).trans fine
  rw [ofRatio_eq negative hn]
  by_cases carry : onGrid num den = 2 * hidden
  · rw [if_pos carry]
    by_cases tooWide : 971 < gridExponent num den + 1
    · exact .inr ⟨if_pos tooWide, large (by omega)⟩
    · refine .inl ⟨hidden, gridExponent num den + 1, if_neg tooWide, ?_⟩
      have same : (hidden : ℚ) * 2 ^ (gridExponent num den + 1) =
          onGrid num den * 2 ^ gridExponent num den := by
        rw [carry, zpow_add₀ (by norm_num)]
        push_cast
        ring
      rw [same]
      exact near
  · rw [if_neg carry]
    by_cases tooWide : 971 < gridExponent num den
    · exact .inr ⟨if_pos tooWide, large tooWide.le⟩
    · exact .inl ⟨_, _, if_neg tooWide, near⟩

/-! ## Products -/

theorem toNatWithin_finite (cap m : Nat) (e : Int) :
    toNatWithin cap (.finite false m e) = min cap ⌊(m : ℚ) * 2 ^ e + 1 / 2⌋₊ := by
  obtain ⟨value, divisor⟩ := ratio_eq m e
  have positive : ((ratio m e).2 : ℚ) ≠ 0 := by exact_mod_cast divisor.ne'
  have nearest : (m : ℚ) * 2 ^ e + 1 / 2 =
      ((2 * (ratio m e).1 + (ratio m e).2 : Nat) : ℚ) / (2 * (ratio m e).2 : Nat) := by
    rw [← value]
    push_cast
    field_simp
  rw [nearest, Nat.floor_div_eq_div]
  rfl

/-- A whole amount times a multiplier, and kept within a limit. A multiplier that is negative or no
number leaves nothing, and an infinite one everything. Else the product is the exact one but for
what two roundings to 53 bits change in it, and goes to the nearest whole amount, a half upwards. -/
inductive Scaled (limit amount : Nat) : Binary64 → Nat → Prop
  | nan : Scaled limit amount .nan 0
  | infinite {negative : Bool} :
      Scaled limit amount (.infinite negative) (if negative ∨ amount = 0 then 0 else limit)
  | negative {m : Nat} {e : Int} : Scaled limit amount (.finite true m e) 0
  | finite {m m' : Nat} {e e' : Int}
      (product : (ofNat amount).mul (.finite false m e) = .finite false m' e')
      (near : |(m' : ℚ) * 2 ^ e' - amount * (m * 2 ^ e)| ≤
        amount * (m * 2 ^ e) / 2 ^ 51 + 2 ^ (-1074 : Int)) :
      Scaled limit amount (.finite false m e) (min limit ⌊(m' : ℚ) * 2 ^ e' + 1 / 2⌋₊)
  | boundless {m : Nat} {e : Int} (large : 2 ^ (1022 : Int) ≤ (amount : ℚ) * (m * 2 ^ e)) :
      Scaled limit amount (.finite false m e) limit

theorem ofNat_near {amount : Nat} (small : amount < 2 ^ 128) :
    ∃ m e, ofNat amount = .finite false m e ∧ |(m : ℚ) * 2 ^ e - amount| ≤ amount / 2 ^ 52 := by
  rcases Nat.eq_zero_or_pos amount with rfl | positive
  · exact ⟨0, -1074, rfl, by simp⟩
  rcases ofRatio_near false amount Nat.one_pos with ⟨m, e, same, near⟩ | ⟨-, large⟩
  · refine ⟨m, e, same, ?_⟩
    rw [Nat.cast_one, div_one] at near
    have one : (1 : ℚ) ≤ amount := by exact_mod_cast positive
    have tiny : (2 : ℚ) ^ (-1075 : Int) ≤ 2 ^ (-53 : Int) :=
      zpow_le_zpow_right₀ (by norm_num) (by decide)
    have bits : (2 : ℚ) ^ (-53 : Int) = 1 / 2 ^ 53 := by norm_num
    rw [bits] at tiny
    generalize (2 : ℚ) ^ (-1075 : Int) = unit at near tiny
    linarith
  · have small' : (amount : ℚ) < 2 ^ (128 : Int) := by exact_mod_cast small
    have wide : (2 : ℚ) ^ (128 : Int) ≤ 2 ^ (1023 : Int) :=
      zpow_le_zpow_right₀ (by norm_num) (by decide)
    rw [Nat.cast_one, div_one] at large
    exact absurd (wide.trans large) (not_le.mpr small')

section
variable {amount : Nat}

theorem ofNat_mul_finite (small : amount < 2 ^ 128) (negative : Bool) (m : Nat) (e : Int) :
    ∃ n f, (ofNat amount).mul (.finite negative m e) =
        ofRatio negative (ratio (n * m) (f + e)).1 (ratio (n * m) (f + e)).2 ∧
      |(n : ℚ) * 2 ^ f - amount| ≤ amount / 2 ^ 52 := by
  obtain ⟨n, f, same, near⟩ := ofNat_near small
  refine ⟨n, f, ?_, near⟩
  rw [same]
  cases negative <;> rfl

theorem ofNat_mul_near (small : amount < 2 ^ 128) (m : Nat) (e : Int) :
    (∃ m' e', (ofNat amount).mul (.finite false m e) = .finite false m' e' ∧
      |(m' : ℚ) * 2 ^ e' - amount * (m * 2 ^ e)| ≤
        amount * (m * 2 ^ e) / 2 ^ 51 + 2 ^ (-1074 : Int)) ∨
    (ofNat amount).mul (.finite false m e) = .infinite false ∧
      2 ^ (1022 : Int) ≤ (amount : ℚ) * (m * 2 ^ e) := by
  obtain ⟨n, f, product, near⟩ := ofNat_mul_finite small false m e
  obtain ⟨value, divisor⟩ := ratio_eq (n * m) (f + e)
  have factors : ((ratio (n * m) (f + e)).1 : ℚ) / (ratio (n * m) (f + e)).2 =
      n * 2 ^ f * (m * 2 ^ e) := by
    rw [value, zpow_add₀ (by norm_num)]
    push_cast
    ring
  have multiplier : (0 : ℚ) ≤ m * 2 ^ e := mul_nonneg m.cast_nonneg (two_zpow_pos e).le
  have exact : (0 : ℚ) ≤ amount * (m * 2 ^ e) := mul_nonneg amount.cast_nonneg multiplier
  have first : |(n : ℚ) * 2 ^ f * (m * 2 ^ e) - amount * (m * 2 ^ e)| ≤
      amount * (m * 2 ^ e) / 2 ^ 52 := by
    rw [← sub_mul, abs_mul, abs_of_nonneg multiplier]
    exact (mul_le_mul_of_nonneg_right near multiplier).trans_eq (by ring)
  rw [abs_le] at first
  rw [product]
  rcases ofRatio_near false (ratio (n * m) (f + e)).1 divisor with
    ⟨m', e', rounded, second⟩ | ⟨boundless, large⟩
  · refine .inl ⟨m', e', rounded, ?_⟩
    rw [factors] at second
    have unit := two_zpow_pos (-1075)
    have twice : (2 : ℚ) ^ (-1074 : Int) = 2 ^ (-1075 : Int) * 2 := by
      rw [← zpow_add_one₀ (by norm_num)]
      rfl
    rw [twice]
    generalize (2 : ℚ) ^ (-1075 : Int) = step at second unit ⊢
    rw [abs_le] at second ⊢
    constructor <;> linarith
  · refine .inr ⟨boundless, ?_⟩
    rw [factors] at large
    have twice : (2 : ℚ) ^ (1023 : Int) = 2 ^ (1022 : Int) * 2 := by
      rw [← zpow_add_one₀ (by norm_num)]
      rfl
    rw [twice] at large
    generalize (2 : ℚ) ^ (1022 : Int) = bound at large ⊢
    linarith

theorem ofNat_mul_infinite (small : amount < 2 ^ 128) (negative : Bool) :
    (ofNat amount).mul (.infinite negative) = if amount = 0 then .nan else .infinite negative := by
  obtain ⟨n, f, same, near⟩ := ofNat_near small
  have none : n = 0 ↔ amount = 0 := by
    constructor
    · rintro rfl
      rw [Nat.cast_zero, zero_mul, zero_sub, abs_neg, Nat.abs_cast] at near
      by_contra some
      have positive : (0 : ℚ) < amount := by exact_mod_cast Nat.pos_of_ne_zero some
      linarith
    · rintro rfl
      exact (Binary64.finite.inj same).2.1.symm
  rw [same]
  simp only [mul, none, Bool.false_bne]

theorem scaled_toNatWithin (limit : Nat) (small : amount < 2 ^ 128) (x : Binary64) :
    Scaled limit amount x (((ofNat amount).mul x).toNatWithin limit) := by
  cases x with
  | nan =>
    obtain ⟨n, f, same, -⟩ := ofNat_near small
    rw [same]
    exact .nan
  | infinite negative =>
    have whole : ((ofNat amount).mul (.infinite negative)).toNatWithin limit =
        if negative ∨ amount = 0 then 0 else limit := by
      rw [ofNat_mul_infinite small]
      by_cases zero : amount = 0 <;> cases negative <;> simp [toNatWithin, zero]
    rw [whole]
    exact .infinite
  | finite negative m e =>
    cases negative with
    | true =>
      obtain ⟨n, f, product, -⟩ := ofNat_mul_finite small true m e
      have divisor := (ratio_eq (n * m) (f + e)).2
      have whole : ((ofNat amount).mul (.finite true m e)).toNatWithin limit = 0 := by
        rw [product]
        rcases ofRatio_near true (ratio (n * m) (f + e)).1 divisor with ⟨_, _, h, -⟩ | ⟨h, -⟩ <;>
          rw [h] <;> rfl
      rw [whole]
      exact .negative
    | false =>
      rcases ofNat_mul_near small m e with ⟨m', e', product, near⟩ | ⟨boundless, large⟩
      · rw [product, toNatWithin_finite]
        exact .finite product near
      · rw [boundless]
        exact .boundless large

end

theorem min_toNatWithin {limit bound : Nat} (lower : limit ≤ bound) (x : Binary64) :
    min (x.toNatWithin bound) limit = x.toNatWithin limit := by
  cases x with
  | nan => exact Nat.min_eq_left (Nat.zero_le _)
  | infinite negative => cases negative <;> simp [toNatWithin, lower]
  | finite negative m e =>
    cases negative with
    | true => exact Nat.min_eq_left (Nat.zero_le _)
    | false =>
      unfold toNatWithin
      dsimp only
      omega

theorem toNatWithin_le (limit : Nat) (x : Binary64) : x.toNatWithin limit ≤ limit := by
  cases x with
  | nan => exact Nat.zero_le _
  | infinite negative => cases negative <;> simp [toNatWithin]
  | finite negative m e =>
    cases negative with
    | true => exact Nat.zero_le _
    | false => exact Nat.min_le_left _ _

end Binary64

theorem toNat_applyMultiplier (value : BitVec 128) (multiplier : Binary64) :
    (applyMultiplier value multiplier).toNat =
      ((Binary64.ofNat value.toNat).mul multiplier).toNatWithin (2 ^ 128 - 1) := by
  have fits := Binary64.toNatWithin_le (2 ^ 128 - 1) ((Binary64.ofNat value.toNat).mul multiplier)
  rw [applyMultiplier, BitVec.toNat_ofNat, Nat.mod_eq_of_lt]
  · rfl
  · exact Nat.lt_of_le_pred (by decide) fits

end Dispatch

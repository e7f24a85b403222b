import Dispatch.Queue.Score
import Mathlib.Data.Nat.Digits.Lemmas

/-!
# The order in which queued transactions stand

The score of a transaction is its priority in front of the digits of its time, cut off at the
greatest word. Among times of one length it therefore orders by the priority, then by the time; and
for one priority it never falls as time goes on.
-/

set_option autoImplicit false

namespace Dispatch.Queue

/-! ## The length of a number -/

theorem digitCount_le_iff {n k : Nat} (hk : 0 < k) : digitCount n ≤ k ↔ n < 10 ^ k :=
  Nat.length_toDigits_le_iff (by decide) hk

theorem digitCount_pos (n : Nat) : 0 < digitCount n := Nat.length_toDigits_pos

theorem lt_pow_digitCount (n : Nat) : n < 10 ^ digitCount n :=
  (digitCount_le_iff (digitCount_pos n)).mp le_rfl

theorem digitCount_mono {m n : Nat} (h : m ≤ n) : digitCount m ≤ digitCount n :=
  (digitCount_le_iff (digitCount_pos n)).mpr (h.trans_lt (lt_pow_digitCount n))

theorem digitCount_eq (n : Nat) : digitCount n = max 1 (Nat.digits 10 n).length := by
  refine eq_of_forall_ge_iff fun k => ?_
  rw [max_le_iff]
  by_cases hk : 0 < k
  · rw [digitCount_le_iff hk, Nat.digits_length_le_iff (by decide)]
    exact ⟨fun h => ⟨hk, h⟩, And.right⟩
  · have := digitCount_pos n
    omega

theorem digitCount_word_le (t : UInt64) : digitCount t.toNat ≤ 20 :=
  (digitCount_le_iff (by decide)).mpr (t.toNat_lt.trans (by decide))

/-! ## The rank -/

/-- The priority in front of the digits of the time, as a number of any size. -/
def rank (priority : UInt32) (timestamp : UInt64) : Nat :=
  priority.toNat * 10 ^ digitCount timestamp.toNat + timestamp.toNat

section
variable {p p₁ p₂ : UInt32} {t t₁ t₂ : UInt64}

theorem rank_lt_of_lex (same : digitCount t₁.toNat = digitCount t₂.toNat)
    (h : Prod.Lex (· < ·) (· < ·) (p₁, t₁) (p₂, t₂)) : rank p₁ t₁ < rank p₂ t₂ := by
  have small := lt_pow_digitCount t₁.toNat
  rw [rank, rank, ← same]
  generalize 10 ^ digitCount t₁.toNat = power at small
  rcases Prod.lex_def.mp h with lower | ⟨equal, older⟩
  · have above : (p₁.toNat + 1) * power ≤ p₂.toNat * power :=
      Nat.mul_le_mul_right power (UInt32.lt_iff_toNat_lt.mp lower)
    rw [Nat.succ_mul] at above
    omega
  · rw [show p₁ = p₂ from equal]
    exact Nat.add_lt_add_left (UInt64.lt_iff_toNat_lt.mp older) _

theorem rank_mono (p : UInt32) (h : t₁ ≤ t₂) : rank p t₁ ≤ rank p t₂ := by
  have time : t₁.toNat ≤ t₂.toNat := UInt64.le_iff_toNat_le.mp h
  have power : 10 ^ digitCount t₁.toNat ≤ 10 ^ digitCount t₂.toNat :=
    Nat.pow_le_pow_right (by decide) (digitCount_mono time)
  exact Nat.add_le_add (Nat.mul_le_mul_left _ power) time

theorem rank_div (p : UInt32) (t : UInt64) : rank p t / 10 ^ digitCount t.toNat = p.toNat := by
  have small := lt_pow_digitCount t.toNat
  rw [rank, Nat.mul_comm, Nat.mul_add_div (by omega), Nat.div_eq_of_lt small, Nat.add_zero]

theorem rank_mod (p : UInt32) (t : UInt64) : rank p t % 10 ^ digitCount t.toNat = t.toNat := by
  rw [rank, Nat.mul_comm, Nat.mul_add_mod, Nat.mod_eq_of_lt (lt_pow_digitCount t.toNat)]

/-! ## The score -/

theorem clamp_each (p power t limit : Nat) :
    min (min (p * min power limit) limit + t) limit = min (p * power + t) limit := by
  by_cases fits : power ≤ limit
  · rw [min_eq_left fits]
    omega
  · rw [min_eq_right (Nat.le_of_not_le fits)]
    rcases Nat.eq_zero_or_pos p with rfl | some
    · simp
    · have cut : limit ≤ p * limit := Nat.le_mul_of_pos_left limit some
      have whole : power ≤ p * power := Nat.le_mul_of_pos_left power some
      omega

/-- No operation on the way to a score goes round: it is the rank, or the greatest word. -/
theorem toNat_score (p : UInt32) (t : UInt64) :
    (score p t).toNat = min (rank p t) (UInt64.size - 1) := by
  have word : min (rank p t) (UInt64.size - 1) < UInt64.size :=
    (Nat.min_le_right _ _).trans_lt (by decide)
  rw [score, clamp_each, UInt64.toNat_ofNat']
  exact Nat.mod_eq_of_lt word

theorem toNat_score_of_lt (h : rank p t < UInt64.size) : (score p t).toNat = rank p t := by
  rw [toNat_score, min_eq_left (by omega)]

end

/-- Scores order by priority, then by time, among times of one length: a later place never scores
less, and scores more as long as its rank is a word, which then tells both parts. For one priority
the score never falls with the time, whatever its length. A score is the rank cut off at the
greatest word. -/
theorem scores_order_by_priority_then_time :
    (∀ p₁ p₂ t₁ t₂, digitCount t₁.toNat = digitCount t₂.toNat →
      Prod.Lex (· < ·) (· < ·) (p₁, t₁) (p₂, t₂) →
      score p₁ t₁ ≤ score p₂ t₂ ∧
      (p₂.toNat * 10 ^ digitCount t₂.toNat + t₂.toNat < 2 ^ 64 → score p₁ t₁ < score p₂ t₂)) ∧
    (∀ p t, p.toNat * 10 ^ digitCount t.toNat + t.toNat < 2 ^ 64 →
      (score p t).toNat / 10 ^ digitCount t.toNat = p.toNat ∧
        (score p t).toNat % 10 ^ digitCount t.toNat = t.toNat) ∧
    (∀ p t₁ t₂, t₁ ≤ t₂ → score p t₁ ≤ score p t₂) ∧
    (∀ p t, (score p t).toNat = min (p.toNat * 10 ^ digitCount t.toNat + t.toNat) (2 ^ 64 - 1)) ∧
    ∀ t : UInt64, digitCount t.toNat = max 1 (Nat.digits 10 t.toNat).length ∧
      digitCount t.toNat ≤ 20 := by
  refine ⟨fun p₁ p₂ t₁ t₂ same lex => ?order, fun p t fits => ?parts, fun p t₁ t₂ time => ?time,
    toNat_score,
    fun t => ⟨digitCount_eq t.toNat, digitCount_word_le t⟩⟩
  case order =>
    have below := rank_lt_of_lex same lex
    rw [UInt64.le_iff_toNat_le, UInt64.lt_iff_toNat_lt, toNat_score, toNat_score]
    refine ⟨min_le_min_right _ below.le, fun fits => ?_⟩
    have fits : rank p₂ t₂ < UInt64.size := fits
    omega
  case parts =>
    rw [toNat_score_of_lt fits]
    exact ⟨rank_div p t, rank_mod p t⟩
  case time =>
    rw [UInt64.le_iff_toNat_le, toNat_score, toNat_score]
    exact min_le_min_right _ (rank_mono p time)

theorem longest_times_order :
    digitCount (18446744073709551614 : UInt64).toNat =
      digitCount (18446744073709551615 : UInt64).toNat ∧
    Prod.Lex (· < ·) (· < ·) ((0 : UInt32), (18446744073709551614 : UInt64))
    (0, 18446744073709551615) ∧
    score 0 18446744073709551614 < score 0 18446744073709551615 ∧
    (score 0 18446744073709551615).toNat % 10 ^ digitCount (18446744073709551615 : UInt64).toNat =
      18446744073709551615 := by
  obtain ⟨order, parts, -⟩ := scores_order_by_priority_then_time
  have same : digitCount (18446744073709551614 : UInt64).toNat =
    digitCount (18446744073709551615 : UInt64).toNat := by
    decide +kernel
  have lex : Prod.Lex (· < ·) (· < ·) ((0 : UInt32), (18446744073709551614 : UInt64))
    (0, 18446744073709551615) :=
    .right 0 (by decide)
  have fits : (0 : UInt32).toNat * 10 ^ digitCount (18446744073709551615 : UInt64).toNat +
      (18446744073709551615 : UInt64).toNat < 2 ^ 64 := by simp
  exact ⟨same, lex, (order _ _ _ _ same lex).2 fits, (parts _ _ fits).2⟩

end Dispatch.Queue

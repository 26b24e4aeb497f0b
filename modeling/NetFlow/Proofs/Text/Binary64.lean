import Mathlib.Algebra.Ring.Nat
import NetFlow.Text.Binary64

/-! Integers of at most 53 bits are numbers of the format. They are taken in without rounding,
and their integer part is what they were. -/
namespace NetFlow.Binary64

theorem roundDiv_one (n : Nat) : roundDiv n 1 = n := by
  simp [roundDiv, Nat.mod_one]

theorem scaleDiv_neg (n k : Nat) : scaleDiv n 1 (-(k : Int)) = n * 2 ^ k := by
  cases k with
  | zero => simp [scaleDiv, roundDiv_one]
  | succ k =>
    have hneg : ¬ (0 : Int) ≤ -((k + 1 : Nat) : Int) := by omega
    rw [scaleDiv, if_neg hneg, roundDiv_one, Int.neg_neg, Int.toNat_natCast, Nat.pow_eq]

theorem floorLog_one {n : Nat} (hn : n ≠ 0) : floorLog n 1 = n.log2 := by
  have hone : Nat.log2 1 = 0 := by decide
  have hle := Nat.log2_self_le hn
  simp [floorLog, hone, hle]

theorem mul_two_pow_lt {n k : Nat} (hk : n.log2 + k = 52) : n * 2 ^ k < 2 ^ 53 := by
  have hlog : n < 2 ^ (n.log2 + 1) := Nat.lt_log2_self
  have hmul := Nat.mul_lt_mul_of_pos_right hlog (Nat.two_pow_pos k)
  have hsum : n.log2 + 1 + k = 53 := by omega
  rwa [← Nat.pow_add, hsum] at hmul

theorem ofRatio_nat {n k : Nat} (hn : n ≠ 0) (hk : n.log2 + k = 52) :
    ofRatio false n 1 0 = .finite false (n * 2 ^ k) (-(k : Int)) := by
  have he : max (floorLog n 1 + 0 - 52) leastExponent = -(k : Int) := by
    rw [floorLog_one hn, leastExponent]
    omega
  have hm : scaleDiv n 1 (-(k : Int) - 0) = n * 2 ^ k := by
    rw [Int.sub_zero, scaleDiv_neg]
  have hcarry : n * 2 ^ k ≠ Nat.pow 2 53 := Nat.ne_of_lt (mul_two_pow_lt hk)
  have hfits : ¬ greatestExponent < -(k : Int) := by
    rw [greatestExponent]
    omega
  simp only [ofRatio, hn, he, hm, hcarry, hfits, ↓reduceIte]

theorem clamp_zero (max : Nat) (e : Int) : clamp max (.finite false 0 e) = 0 := by
  simp [clamp]

theorem clamp_nat (max n k : Nat) :
    clamp max (.finite false (n * 2 ^ k) (-(k : Int))) = min max n := by
  cases k with
  | zero => simp [clamp]
  | succ k =>
    have hneg : ¬ (0 : Int) ≤ -((k + 1 : Nat) : Int) := by omega
    rw [clamp, if_neg hneg, Int.neg_neg, Int.toNat_natCast, Nat.pow_eq,
      Nat.mul_div_cancel _ (Nat.two_pow_pos (k + 1))]

/-- An integer of at most 53 bits, written without a point, is read as what it is. -/
theorem ofDecimal_nat {n : Nat} (h : n < 2 ^ 53) :
    (ofDecimal false n 0).isFinite = true ∧
      ∀ max, (ofDecimal false n 0).clamp max = min max n := by
  by_cases hn : n = 0
  · subst hn
    have h0 : ofDecimal false 0 0 = .finite false 0 leastExponent := by simp [ofDecimal]
    rw [h0]
    exact ⟨rfl, fun max => by rw [clamp_zero, Nat.min_zero]⟩
  · have hlog : n.log2 < 53 := (Nat.log2_lt hn).mpr h
    obtain ⟨k, hk⟩ : ∃ k, n.log2 + k = 52 := ⟨52 - n.log2, by omega⟩
    have hdigits : (Decimal.digits n).length ≤ 16 := by
      rw [Decimal.digits, Nat.length_toDigits_le_iff (by decide) (by decide)]
      exact Nat.lt_of_lt_of_le h (by decide)
    have hlow : ¬ ((Decimal.digits n).length : Int) < -400 := by omega
    have hhigh : ¬ (400 : Int) < ((Decimal.digits n).length : Int) := by omega
    have he : ofDecimal false n 0 = .finite false (n * 2 ^ k) (-(k : Int)) := by
      rw [← ofRatio_nat hn hk]
      simp [ofDecimal, hn, hlow, hhigh]
    rw [he]
    exact ⟨rfl, fun max => clamp_nat max n k⟩

end NetFlow.Binary64

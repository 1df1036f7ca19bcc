import DiceLang.Proofs.Division

/-!
# Exact arithmetic

Sums, differences, products, quotients and powers are those of the integers, and to fit is all that
is asked of them. For powers this is a matter of growth: with a base beyond one in size, each factor
at least doubles the result, so that no exponent of 64 or more is left to try. Only the powers of
zero, one and minus one exist for every exponent, and these are told from the exponent at once.
-/

namespace DiceLang

set_option autoImplicit false

namespace Integer

variable {base exponent : Int}

theorem pow_leaves_range (several : 2 ≤ base.natAbs) {count : Nat} (large : 64 ≤ count) :
    ¬Fits (base ^ count) := by
  have grown : 2 ^ 64 ≤ (base ^ count).natAbs := by
    rw [Int.natAbs_pow]
    calc 2 ^ 64 ≤ 2 ^ count := Nat.pow_le_pow_right (by decide) large
      _ ≤ base.natAbs ^ count := Nat.pow_le_pow_left several count
  simp only [Fits, lowest, highest]
  omega

theorem pow_of_zero (nonneg : 0 ≤ exponent) :
    (0 : Int) ^ exponent.toNat = if exponent = 0 then 1 else 0 := by
  rw [zero_pow_eq]
  have same : exponent.toNat = 0 ↔ exponent = 0 := by omega
  simp only [same]

theorem pow_of_minus_one (nonneg : 0 ≤ exponent) :
    (-1 : Int) ^ exponent.toNat = if exponent % 2 = 0 then 1 else -1 := by
  rw [neg_one_pow_eq_ite]
  have same : Even exponent.toNat ↔ exponent % 2 = 0 := by
    rw [Nat.even_iff]
    omega
  simp only [same]

theorem power_eq_checked (nonneg : 0 ≤ exponent) :
    power base exponent = checked (base ^ exponent.toNat) := by
  rw [power, if_neg (Int.not_lt.mpr nonneg)]
  by_cases one : base = 1
  · rw [if_pos one, one, one_pow]
    rfl
  rw [if_neg one]
  by_cases zero : base = 0
  · rw [if_pos zero, zero, pow_of_zero nonneg]
    split
    · rfl
    · rfl
  rw [if_neg zero]
  by_cases minusOne : base = -1
  · rw [if_pos minusOne, minusOne, pow_of_minus_one nonneg]
    split
    · rfl
    · rfl
  rw [if_neg minusOne]
  split
  · rename_i large
    rw [checked, if_neg (pow_leaves_range (by omega) (by omega))]
  · rfl

theorem remainder_of_parity (fits : Fits exponent) (nonneg : 0 ≤ exponent) :
    remainder exponent 2 = some (exponent % 2) := by
  rw [remainder_eq fits (by decide), if_neg (by simp), Int.tmod_eq_emod_of_nonneg nonneg]

theorem power_stepwise (fits : Fits exponent) (base : Int) :
    powerStepwise base exponent = some (power base exponent) := by
  by_cases negative : exponent < 0
  · rw [powerStepwise, power, if_pos negative, if_pos negative]
  have nonneg : 0 ≤ exponent := Int.not_lt.mp negative
  rw [powerStepwise, power, if_neg negative, if_neg negative]
  by_cases one : base = 1
  · rw [if_pos one, if_pos one]
  rw [if_neg one, if_neg one]
  by_cases zero : base = 0
  · rw [if_pos zero, if_pos zero]
  rw [if_neg zero, if_neg zero]
  by_cases minusOne : base = -1
  · rw [if_pos minusOne, if_pos minusOne, remainder_of_parity fits nonneg]
    rfl
  rw [if_neg minusOne, if_neg minusOne]
  -- The two bounds on the exponent agree, since no power between them fits.
  by_cases large : 64 ≤ exponent
  · have outside : ¬Fits (Int.pow base exponent.toNat) :=
      pow_leaves_range (by omega) (by omega)
    rw [if_pos large, checked, if_neg outside]
    split
    · rfl
    · rfl
  · have word : exponent < wordCount := by
      simp only [wordCount]
      omega
    rw [if_neg large, if_pos word]

end Integer

namespace BinaryOperator

open Integer (Fits checked lowest)

theorem additive_gives (op : Additive) (a b : Int) : (additive op).Gives a b (op.apply a b) :=
  Gives.of_apply fun _ => rfl

theorem power_gives (base exponent : Int) :
    power.Gives base exponent (Integer.power base exponent) :=
  Gives.of_apply fun _ => rfl

/-- The operators of arithmetic give the true result of two numbers if it fits, in every context.
Carried out in single steps, division and power always come to an outcome, and to the same. -/
theorem arithmetic_exact {a b : Int} (aFits : Fits a) (bFits : Fits b) :
    ((additive .add).Gives a b (checked (a + b)) ∧
      (additive .subtract).Gives a b (checked (a - b)) ∧
      (multiplicative .multiply).Gives a b (checked (a * b))) ∧
    ((b = 0 → (multiplicative .divide).Gives a b (.error .zeroDivision)) ∧
      (b ≠ 0 → (multiplicative .divide).Gives a b (checked ⌊(a : ℚ) / b⌋) ∧
        (Fits ⌊(a : ℚ) / b⌋ ↔ ¬(a = lowest ∧ b = -1)))) ∧
    ((b < 0 → power.Gives a b (.error .negativeExponent)) ∧
      (0 ≤ b → power.Gives a b (checked (a ^ b.toNat)))) ∧
    (∃ result, Integer.floorDivStepwise a b = some result ∧
      (multiplicative .divide).Gives a b result) ∧
    ∃ result, Integer.powerStepwise a b = some result ∧ power.Gives a b result := by
  have divided := multiplicative_gives .divide a b
  have raised := power_gives a b
  change (multiplicative .divide).Gives a b (Integer.floorDiv a b) at divided
  refine ⟨⟨additive_gives .add a b, additive_gives .subtract a b,
    multiplicative_gives .multiply a b⟩, ⟨fun zero => ?_, fun nonzero => ⟨?_, ?_⟩⟩,
    ⟨fun negative => ?_, fun nonneg => ?_⟩,
    ⟨_, Integer.floor_div_stepwise aFits b, divided⟩,
    ⟨_, Integer.power_stepwise bFits a, raised⟩⟩
  · rwa [Integer.floorDiv, if_pos zero] at divided
  · rwa [Integer.floor_div_eq nonzero] at divided
  · rw [← Integer.fdiv_eq_floor]
    exact Integer.fdiv_fits_iff aFits nonzero
  · rwa [Integer.power, if_pos negative] at raised
  · rwa [Integer.power_eq_checked nonneg] at raised

/-- The lowest number is a power of minus two, but the next power is none; divided by minus one it
is one too large. Nothing raised to nothing is one. -/
theorem arithmetic_exact_lowest :
    (Fits (-2) ∧ Fits 63 ∧ power.Gives (-2) 63 (.ok lowest)) ∧
    (Fits 64 ∧ power.Gives (-2) 64 (.error .overflow)) ∧
    (Fits 0 ∧ power.Gives 0 0 (.ok 1)) ∧
    Fits lowest ∧ Fits (-1) ∧
      (multiplicative .divide).Gives lowest (-1) (.error .overflow) := by
  have base : Fits (-2) := by decide
  have exponent : Fits 63 := by decide
  have next : Fits 64 := by decide
  have zero : Fits 0 := by decide
  have dividend : Fits lowest := by decide
  have divisor : Fits (-1) := by decide
  have reached := (arithmetic_exact base exponent).2.2.1.2 (by decide)
  have passed := (arithmetic_exact base next).2.2.1.2 (by decide)
  have nothing := (arithmetic_exact zero zero).2.2.1.2 (by decide)
  obtain ⟨divided, fits⟩ := (arithmetic_exact dividend divisor).2.1.2 (by decide)
  rw [Integer.checked_unless fits] at divided
  exact ⟨⟨base, exponent, reached⟩, ⟨next, passed⟩, ⟨zero, nothing⟩, dividend, divisor, divided⟩

end BinaryOperator

end DiceLang

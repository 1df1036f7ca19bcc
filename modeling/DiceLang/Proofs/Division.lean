import DiceLang.Integer.Stepwise
import DiceLang.Proofs.Mappings
import Mathlib.Data.Rat.Floor

/-!
# Division rounded down

Quotients are rounded down, and the remainder is what the rounded quotient leaves of the dividend.
Computed in single steps, the quotient comes rounded towards zero; it is too large by one exactly
where the division leaves a remainder and the signs differ. No unchecked step ever leaves the range,
because a quotient that has to be corrected belongs to a divisor beyond one, and is at most half of
its dividend.

Of all quotients only that of the lowest number by minus one does not fit. Remainders always fit,
but they are found along with the quotient, so the remainder of this one division is refused as
well, although it is zero.
-/

namespace DiceLang

set_option autoImplicit false

namespace Integer

variable {a b : Int}

section Rounding

theorem fdiv_eq_corrected (a : Int) (nonzero : b ≠ 0) :
    Int.fdiv a b =
      if Int.tmod a b ≠ 0 ∧ ¬(a < 0 ↔ b < 0) then Int.tdiv a b - 1 else Int.tdiv a b := by
  rw [Int.fdiv_eq_tdiv]
  simp only [Int.dvd_iff_tmod_eq_zero]
  rcases Int.lt_or_gt_of_ne nonzero with negative | positive
  · rw [Int.sign_eq_neg_one_of_neg negative]
    split_ifs <;> omega
  · rw [Int.sign_eq_one_of_pos positive]
    split_ifs <;> omega

theorem tmod_neg_iff (left : Int.tmod a b ≠ 0) : Int.tmod a b < 0 ↔ a < 0 := by
  have sign := Int.sign_tmod a b
  rw [if_neg (mt Int.dvd_iff_tmod_eq_zero.mp left)] at sign
  rw [← Int.sign_eq_neg_one_iff_neg, ← Int.sign_eq_neg_one_iff_neg, sign]

theorem fmod_eq_corrected (a : Int) (nonzero : b ≠ 0) :
    Int.fmod a b =
      if Int.tmod a b ≠ 0 ∧ ¬(Int.tmod a b < 0 ↔ b < 0) then Int.tmod a b + b
      else Int.tmod a b := by
  have sameSigns : (Int.tmod a b ≠ 0 ∧ ¬(Int.tmod a b < 0 ↔ b < 0)) ↔
      (Int.tmod a b ≠ 0 ∧ ¬(a < 0 ↔ b < 0)) :=
    and_congr_right fun left => by rw [tmod_neg_iff left]
  have truncated := Int.tmod_def a b
  rw [Int.fmod_def, fdiv_eq_corrected a nonzero]
  simp only [sameSigns]
  split
  · rw [Int.mul_sub, Int.mul_one]
    omega
  · exact truncated.symm

theorem fdiv_eq_floor (a b : Int) : Int.fdiv a b = ⌊(a : ℚ) / b⌋ := by
  -- Both sides stay the same if the signs of both numbers are changed.
  wlog nonneg : 0 ≤ b generalizing a b
  · have turned := this (-a) (-b) (by omega)
    rwa [Int.neg_fdiv_neg, Int.cast_neg, Int.cast_neg, neg_div_neg_eq] at turned
  · obtain ⟨n, rfl⟩ := Int.eq_ofNat_of_zero_le nonneg
    rw [Int.fdiv_eq_ediv_of_nonneg a nonneg, Int.cast_natCast, Rat.floor_intCast_div_natCast]

/-- The true remainder. -/
def floorRemainder (a b : Int) : Int :=
  a - b * ⌊(a : ℚ) / b⌋

theorem floor_remainder_eq_fmod (a b : Int) : floorRemainder a b = Int.fmod a b := by
  rw [floorRemainder, ← fdiv_eq_floor, Int.fmod_def]

theorem floor_remainder_bounds (a b : Int) :
    (0 < b → 0 ≤ floorRemainder a b ∧ floorRemainder a b < b) ∧
      (b < 0 → b < floorRemainder a b ∧ floorRemainder a b ≤ 0) := by
  rw [floor_remainder_eq_fmod]
  refine ⟨fun positive => ⟨Int.fmod_nonneg_of_pos a positive, Int.fmod_lt_of_pos a positive⟩,
    fun negative => ?_⟩
  have opposite : 0 < -b := by omega
  have turned := Int.neg_fmod_neg a b
  have atLeast := Int.fmod_nonneg_of_pos (-a) opposite
  have below := Int.fmod_lt_of_pos (-a) opposite
  omega

theorem floor_remainder_sign (a : Int) (nonzero : b ≠ 0) :
    floorRemainder a b = 0 ∨ (floorRemainder a b).sign = b.sign := by
  obtain ⟨byPositive, byNegative⟩ := floor_remainder_bounds a b
  by_cases left : floorRemainder a b = 0
  · exact .inl left
  · right
    rcases Int.lt_or_gt_of_ne nonzero with negative | positive
    · rw [Int.sign_eq_neg_one_of_neg negative, Int.sign_eq_neg_one_of_neg (by omega)]
    · rw [Int.sign_eq_one_of_pos positive, Int.sign_eq_one_of_pos (by omega)]

theorem floor_remainder_abs_lt (a : Int) (nonzero : b ≠ 0) : |floorRemainder a b| < |b| := by
  obtain ⟨byPositive, byNegative⟩ := floor_remainder_bounds a b
  rw [Int.abs_eq_natAbs, Int.abs_eq_natAbs]
  omega

end Rounding

section Range

theorem tdiv_small (fits : Fits a) (several : 2 ≤ b.natAbs) :
    -0x4000000000000000 ≤ Int.tdiv a b ∧ Int.tdiv a b ≤ 0x4000000000000000 := by
  have half : (Int.tdiv a b).natAbs ≤ a.natAbs / 2 := by
    rw [Int.natAbs_tdiv]
    exact Nat.div_le_div_left several (by decide)
  simp only [Fits, lowest, highest] at fits
  omega

theorem tdiv_fits_iff (fits : Fits a) (nonzero : b ≠ 0) :
    Fits (Int.tdiv a b) ↔ ¬(a = lowest ∧ b = -1) := by
  simp only [Fits, lowest, highest] at fits ⊢
  have divisors : b = 1 ∨ b = -1 ∨ 2 ≤ b.natAbs := by omega
  rcases divisors with rfl | rfl | several
  · rw [Int.tdiv_one]
    omega
  · rw [Int.tdiv_neg, Int.tdiv_one]
    omega
  · have small := tdiv_small fits several
    omega

/-- The correction does not lead out of the range. -/
theorem fdiv_fits_iff (fits : Fits a) (nonzero : b ≠ 0) :
    Fits (Int.fdiv a b) ↔ ¬(a = lowest ∧ b = -1) := by
  rw [← tdiv_fits_iff fits nonzero, fdiv_eq_corrected a nonzero]
  have divisors : b = 1 ∨ b = -1 ∨ 2 ≤ b.natAbs := by omega
  rcases divisors with rfl | rfl | several
  · simp
  · simp
  · have small := tdiv_small fits several
    simp only [Fits, lowest, highest]
    split <;> omega

theorem floor_remainder_fits (fits : Fits b) (nonzero : b ≠ 0) : Fits (floorRemainder a b) := by
  obtain ⟨byPositive, byNegative⟩ := floor_remainder_bounds a b
  simp only [Fits, lowest, highest] at fits ⊢
  omega

end Range

section Exact

theorem checked_unless {n : Int} {refused : Prop} [Decidable refused] (fits : Fits n ↔ ¬refused) :
    checked n = if refused then .error .overflow else .ok n := by
  rw [checked]
  simp only [fits, ite_not]

theorem in_range_unless {n : Int} {refused : Prop} [Decidable refused]
    (fits : Fits n ↔ ¬refused) : inRange n = if refused then none else some n := by
  rw [inRange]
  simp only [fits, ite_not]

theorem floor_div_eq (nonzero : b ≠ 0) : floorDiv a b = checked ⌊(a : ℚ) / b⌋ := by
  rw [floorDiv, if_neg nonzero, fdiv_eq_floor]

theorem floor_mod_eq (fits : Fits a) (nonzero : b ≠ 0) :
    floorMod a b =
      if a = lowest ∧ b = -1 then .error .overflow else .ok (floorRemainder a b) := by
  rw [floorMod, if_neg nonzero, checked_unless (fdiv_fits_iff fits nonzero),
    floor_remainder_eq_fmod]
  split
  · rfl
  · rfl

theorem quotient_eq (fits : Fits a) (nonzero : b ≠ 0) :
    quotient a b = if a = lowest ∧ b = -1 then none else some (Int.tdiv a b) := by
  rw [quotient, if_neg nonzero, in_range_unless (tdiv_fits_iff fits nonzero)]

theorem remainder_eq (fits : Fits a) (nonzero : b ≠ 0) :
    remainder a b = if a = lowest ∧ b = -1 then none else some (Int.tmod a b) := by
  rw [remainder, quotient_eq fits nonzero]
  split
  · rfl
  · rfl

/-- The corrected quotient is the one rounded down, so it fits. -/
theorem floor_div_stepwise (fits : Fits a) (b : Int) :
    floorDivStepwise a b = some (floorDiv a b) := by
  by_cases zero : b = 0
  · rw [floorDivStepwise, floorDiv, if_pos zero, if_pos zero]
  · have representable := fdiv_fits_iff fits zero
    rw [floorDivStepwise, floorDiv, if_neg zero, if_neg zero, quotient_eq fits zero,
      remainder_eq fits zero, checked_unless representable]
    by_cases exception : a = lowest ∧ b = -1
    · rw [if_pos exception, if_pos exception, if_pos exception]
    · have inside := representable.mpr exception
      rw [if_neg exception, if_neg exception, if_neg exception]
      rw [fdiv_eq_corrected a zero] at inside ⊢
      dsimp only [Option.bind_eq_bind, Option.bind_some]
      split
      · rename_i corrected
        rw [if_pos corrected] at inside
        rw [inRange, if_pos inside]
        rfl
      · rfl

theorem floor_mod_stepwise (aFits : Fits a) (bFits : Fits b) :
    floorModStepwise a b = some (floorMod a b) := by
  by_cases zero : b = 0
  · rw [floorModStepwise, floorMod, if_pos zero, if_pos zero]
  · rw [floorModStepwise, if_neg zero, floor_mod_eq aFits zero, remainder_eq aFits zero]
    by_cases exception : a = lowest ∧ b = -1
    · rw [if_pos exception, if_pos exception]
    · have inside : Fits (floorRemainder a b) := floor_remainder_fits bFits zero
      rw [if_neg exception, if_neg exception]
      rw [floor_remainder_eq_fmod, fmod_eq_corrected a zero] at inside ⊢
      dsimp only
      split
      · rename_i corrected
        rw [if_pos corrected] at inside
        rw [inRange, if_pos inside]
        rfl
      · rfl

end Exact

end Integer

/-- The first member that is refused decides, and members are refused for one reason alone. -/
theorem Pool.modulo_eq {pool : Pool} {b : Int} (fits : ∀ x ∈ pool, Integer.Fits x)
    (nonzero : b ≠ 0) :
    pool.modulo b =
      if Integer.lowest ∈ pool ∧ b = -1 then .error .overflow
      else .ok (pool.map fun x => Integer.floorRemainder x b) := by
  induction pool with
  | nil =>
      rw [if_neg (by simp)]
      rfl
  | cons x rest ih =>
      obtain ⟨firstFits, restFits⟩ := List.forall_mem_cons.mp fits
      have others := ih restFits
      rw [modulo] at others
      rw [modulo, List.mapM_cons, Integer.floor_mod_eq firstFits nonzero]
      by_cases refused : x = Integer.lowest ∧ b = -1
      · rw [if_pos refused, if_pos ⟨refused.1 ▸ List.mem_cons_self, refused.2⟩]
        rfl
      · have later : (Integer.lowest ∈ x :: rest ∧ b = -1) ↔
            (Integer.lowest ∈ rest ∧ b = -1) := by
          rw [List.mem_cons]
          constructor
          · rintro ⟨first | behind, minusOne⟩
            · exact absurd ⟨first.symm, minusOne⟩ refused
            · exact ⟨behind, minusOne⟩
          · rintro ⟨behind, minusOne⟩
            exact ⟨.inr behind, minusOne⟩
        simp only [later, if_neg refused]
        change (rest.mapM _ >>= fun remainders => Except.ok (_ :: remainders)) = _
        rw [others]
        split
        · rfl
        · rfl

namespace BinaryOperator

/-- Applied to two numbers in any context, the operator gives this and does nothing else. -/
def Gives (op : BinaryOperator) (a b : Int) (result : Except RollError Int) : Prop :=
  ∀ (σ : Type) [Roller σ] (context : Context σ),
    (op.apply context.maps (.number a) (.number b)).run context =
      ⟨result.map .number, context, []⟩

theorem Gives.of_apply {op : BinaryOperator} {a b : Int} {result : Except RollError Int}
    (applied : ∀ maps, op.apply maps (.number a) (.number b) =
      Plan.ofExcept (result >>= fun n => pure (.number n))) : op.Gives a b result := by
  intro σ _ context
  rw [applied, Plan.run_ofExcept]
  cases result with
  | ok n => rfl
  | error e => rfl

theorem multiplicative_gives (op : Multiplicative) (a b : Int) :
    (multiplicative op).Gives a b (op.apply a b) :=
  Gives.of_apply fun _ => rfl

open Integer in
/-- Remainders follow the quotient rounded down: each is zero or has the sign of the divisor, is
smaller than it, and fits. They are found without leaving the range, one by one or for all members
of a pool, with one exception: the lowest number is not divided by minus one. -/
theorem remainders_follow_floor {b : Int} (fits : Fits b) (nonzero : b ≠ 0) :
    (∀ a, Fits a →
      let r := floorRemainder a b
      (Fits r ∧ (r = 0 ∨ r.sign = b.sign) ∧ |r| < |b|) ∧
      (multiplicative .modulo).Gives a b (floorMod a b) ∧
      floorModStepwise a b = some (floorMod a b) ∧
      floorMod a b = if a = lowest ∧ b = -1 then .error .overflow else .ok r) ∧
    ∀ pool : Pool, (∀ x ∈ pool, Fits x) →
      pool.modulo b =
        if lowest ∈ pool ∧ b = -1 then .error .overflow
        else .ok (pool.map fun x => floorRemainder x b) := by
  refine ⟨fun a aFits => ⟨⟨floor_remainder_fits fits nonzero, ?_, ?_⟩, ?_, ?_, ?_⟩,
    fun pool all => Pool.modulo_eq all nonzero⟩
  · exact floor_remainder_sign a nonzero
  · exact floor_remainder_abs_lt a nonzero
  · exact multiplicative_gives .modulo a b
  · exact floor_mod_stepwise aFits fits
  · exact floor_mod_eq aFits nonzero

open Integer in
/-- A remainder with the sign of its divisor, and a pool of the outermost numbers. -/
theorem remainders_follow_floor_outermost :
    (Fits (-3) ∧ Fits highest ∧ floorMod highest (-3) = .ok (-2)) ∧
    (Fits 10 ∧ Pool.modulo [lowest, -1, highest] 10 = .ok [2, 9, 7]) := by
  have divisor : Fits (-3) := by decide
  have dividend : Fits highest := by decide
  have ten : Fits 10 := by decide
  have single := ((remainders_follow_floor divisor (by decide)).1 highest dividend).2.2.2
  have all := (remainders_follow_floor ten (by decide)).2 [lowest, -1, highest] (by decide)
  simp only [floor_remainder_eq_fmod] at single all
  exact ⟨⟨divisor, dividend, single⟩, ten, all⟩

open Integer in
/-- The lowest number leaves no remainder by minus one, but it is refused with its quotient, also
in a pool. -/
theorem remainder_refused_with_quotient :
    (Fits lowest ∧ Fits (-1) ∧ floorRemainder lowest (-1) = 0) ∧
      (multiplicative .modulo).Gives lowest (-1) (.error .overflow) ∧
      Pool.modulo [5, lowest] (-1) = .error .overflow :=
  ⟨⟨by decide, by decide, (floor_remainder_eq_fmod _ _).trans (by decide)⟩,
    multiplicative_gives .modulo lowest (-1), by decide⟩

end BinaryOperator

end DiceLang

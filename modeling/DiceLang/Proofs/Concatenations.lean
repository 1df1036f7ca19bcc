import DiceLang.Proofs.DiceDomains
import DiceLang.Proofs.Mappings
import Mathlib.Data.Nat.Digits.Defs

/-!
# Concatenations

A concatenation writes numbers one after the other and reads the text as a single number. What it
comes to can be said without any text: join the decimal digits of the members, and take the number
that they write. Zeros in front of it add nothing, so they never make it overflow. Only the first
member may carry a sign, and it becomes the sign of the whole; a sign anywhere else is no digit.
-/

namespace DiceLang

set_option autoImplicit false

namespace Text.Decimal

/-- The decimal digits of a number, from the highest on. Zero has one digit. -/
def digitsOf (n : Nat) : List Nat :=
  if n = 0 then [0] else (Nat.digits 10 n).reverse

/-- The number that is written by these digits, of which the first one is the highest. -/
def written (digits : List Nat) : Nat :=
  Nat.ofDigits 10 digits.reverse

def digitValue (digit : Char) : Nat :=
  digit.toNat - '0'.toNat

theorem written_digits_of (n : Nat) : written (digitsOf n) = n := by
  unfold written digitsOf
  split
  · rename_i zero
    simp [zero]
  · rw [List.reverse_reverse, Nat.ofDigits_digits]

theorem digits_of_digit {digit : Nat} (small : digit < 10) : digitsOf digit = [digit] := by
  unfold digitsOf
  split
  · rename_i zero
    rw [zero]
  · rename_i positive
    rw [Nat.digits_of_lt 10 digit positive small, List.reverse_singleton]

theorem digits_of_large {n : Nat} (large : 10 ≤ n) :
    digitsOf n = digitsOf (n / 10) ++ [n % 10] := by
  have positive : n ≠ 0 := by omega
  have front : n / 10 ≠ 0 := by omega
  rw [digitsOf, if_neg positive, digitsOf, if_neg front,
    Nat.digits_def' (by decide) (Nat.pos_of_ne_zero positive), List.reverse_cons]

theorem digit_value_of_char {digit : Nat} (small : digit < 10) :
    digitValue digit.digitChar = digit := by
  rw [digitValue, Nat.toNat_digitChar_of_lt_ten small]
  exact Nat.add_sub_cancel_left 48 digit

theorem to_digits_values (n : Nat) : (Nat.toDigits 10 n).map digitValue = digitsOf n := by
  induction n using Nat.strongRecOn with
  | ind n ih =>
      by_cases small : n < 10
      · rw [Nat.toDigits_of_lt_base small, List.map_singleton, digit_value_of_char small,
          digits_of_digit small]
      · have large : 10 ≤ n := Nat.le_of_not_lt small
        have last : n % 10 < 10 := Nat.mod_lt n (by decide)
        rw [Nat.toDigits_of_base_le (by decide) large, List.map_append,
          ih (n / 10) (Nat.div_lt_self (by omega) (by decide)), List.map_singleton,
          digit_value_of_char last, digits_of_large large]

theorem extend_eq_written (digits : List Char) :
    extend 0 digits = written (digits.map digitValue) := by
  rw [written, Nat.ofDigits_eq_foldr, List.foldr_reverse, List.foldl_map, extend]
  simp only [Nat.cast_id, digitValue, Nat.add_comm]

theorem numeral_of_nonneg {n : Int} (nonneg : 0 ≤ n) : numeral n = Nat.toDigits 10 n.natAbs := by
  cases n with
  | ofNat n => rfl
  | negSucc n => omega

theorem numeral_of_negative {n : Int} (negative : n < 0) :
    numeral n = '-' :: Nat.toDigits 10 n.natAbs := by
  cases n with
  | ofNat n => exact absurd negative (Int.not_lt.mpr (Int.natCast_nonneg n))
  | negSucc n => rfl

theorem read_numeral_of_sign (lowest highest : Int) {digits : List Char} (nonempty : digits ≠ []) :
    readNumeral lowest highest ('-' :: digits) =
      (readDigits lowest.natAbs 0 digits).map fun n => -(n : Int) := by
  cases digits with
  | nil => contradiction
  | cons first rest => rfl

theorem only_digits_read {limit value n : Nat} {digits : List Char}
    (read : readDigits limit value digits = .ok n) : ∀ digit ∈ digits, digit.isDigit = true := by
  induction digits generalizing value with
  | nil => simp
  | cons first rest ih =>
      simp only [readDigits] at read
      split at read
      · rename_i isDigit
        split at read
        · exact List.forall_mem_cons.mpr ⟨isDigit, ih read⟩
        · cases read
      · cases read

theorem digits_behind_first {lowest highest n : Int} {first : Char} {rest : List Char}
    (read : readNumeral lowest highest (first :: rest) = .ok n) :
    ∀ digit ∈ rest, digit.isDigit = true := by
  unfold readNumeral at read
  split at read
  · contradiction
  · cases read
  · rename_i digits _ same
    obtain ⟨rfl, rfl⟩ := List.cons.inj same
    cases given : readDigits lowest.natAbs 0 rest with
    | ok m => exact only_digits_read given
    | error reason =>
        rw [given] at read
        cases read
  · cases given : readDigits highest.natAbs 0 (first :: rest) with
    | ok m => exact (List.forall_mem_cons.mp (only_digits_read given)).2
    | error reason =>
        rw [given] at read
        cases read

end Text.Decimal

namespace Pool

open Text.Decimal

/-- All digits of the members, without signs. -/
def digits (pool : Pool) : List Nat :=
  pool.flatMap fun x => digitsOf x.natAbs

theorem extend_numerals {pool : Pool} (nonneg : ∀ x ∈ pool, 0 ≤ x) :
    extend 0 (pool.flatMap numeral) = written pool.digits := by
  rw [extend_eq_written, List.map_flatMap, digits]
  congr 1
  apply List.flatMap_congr
  intro x member
  rw [numeral_of_nonneg (nonneg x member), to_digits_values]

theorem concatenate_of_first_nonneg {first : Int} {rest : Pool} (nonneg : ∀ x ∈ rest, 0 ≤ x)
    (firstNonneg : 0 ≤ first) :
    concatenate (first :: rest) = Integer.checked (written (digits (first :: rest))) := by
  have all : ∀ x ∈ first :: rest, 0 ≤ x := List.forall_mem_cons.mpr ⟨firstNonneg, nonneg⟩
  have fits : Integer.Fits (written (digits (first :: rest))) ↔
      written (digits (first :: rest)) ≤ Integer.highest.natAbs := by
    simp only [Integer.Fits, Integer.lowest, Integer.highest]
    omega
  rw [concatenate_of_nonneg (List.cons_ne_nil _ _) all, extend_numerals all, Integer.checked]
  simp only [fits]

theorem concatenate_of_first_negative {first : Int} {rest : Pool} (nonneg : ∀ x ∈ rest, 0 ≤ x)
    (negative : first < 0) :
    concatenate (first :: rest) = Integer.checked (-written (digits (first :: rest))) := by
  let unsigned : Pool := (first.natAbs : Int) :: rest
  have all : ∀ x ∈ unsigned, 0 ≤ x := List.forall_mem_cons.mpr ⟨Int.natCast_nonneg _, nonneg⟩
  have same : unsigned.digits = digits (first :: rest) := rfl
  have text : (first :: rest).flatMap numeral = '-' :: unsigned.flatMap numeral := by
    rw [List.flatMap_cons, numeral_of_negative negative, List.cons_append]
    rfl
  have behind : unsigned.flatMap numeral ≠ [] := by
    rw [List.flatMap_cons]
    exact List.append_ne_nil_of_left_ne_nil (numeral_ne_nil _) _
  have fits : Integer.Fits (-written (digits (first :: rest))) ↔
      written (digits (first :: rest)) ≤ Integer.lowest.natAbs := by
    simp only [Integer.Fits, Integer.lowest, Integer.highest]
    omega
  rw [concatenate, if_neg (by simp)]
  dsimp only
  rw [text, read_numeral_of_sign _ _ behind, read_digits_eq (numerals_digits all) (Nat.zero_le _),
    extend_numerals all, same, Integer.checked]
  by_cases within : written (digits (first :: rest)) ≤ Integer.lowest.natAbs
  · rw [if_pos within, if_pos (fits.mpr within)]
    rfl
  · rw [if_neg within, if_neg (mt fits.mp within)]
    rfl

theorem concatenate_single {x : Int} (fits : Integer.Fits x) : concatenate [x] = .ok x := by
  have alone : written (digits [x]) = x.natAbs := by
    rw [digits, List.flatMap_singleton, written_digits_of]
  have checked : Integer.checked x = .ok x := if_pos fits
  by_cases nonneg : 0 ≤ x
  · rw [concatenate_of_first_nonneg (by simp) nonneg, alone, Int.natAbs_of_nonneg nonneg, checked]
  · have negative := Int.not_le.mp nonneg
    rw [concatenate_of_first_negative (by simp) negative, alone,
      Int.ofNat_natAbs_of_nonpos (Int.le_of_lt negative), Int.neg_neg, checked]

/-- A minus sign behind the first member is met as a character that is no digit, if the number has
not become too large before. -/
theorem concatenate_sign_inside {first : Int} {rest : Pool} (signed : ∃ x ∈ rest, x < 0) (n : Int) :
    concatenate (first :: rest) ≠ .ok n := by
  intro given
  obtain ⟨x, member, negative⟩ := signed
  obtain ⟨leading, others, written⟩ := List.exists_cons_of_ne_nil (numeral_ne_nil first)
  have text : (first :: rest).flatMap numeral = leading :: (others ++ rest.flatMap numeral) := by
    rw [List.flatMap_cons, written, List.cons_append]
  have sign : '-' ∈ others ++ rest.flatMap numeral := by
    apply List.mem_append_right
    apply List.mem_flatMap.mpr
    exact ⟨x, member, by rw [numeral_of_negative negative]; exact List.mem_cons_self⟩
  rw [concatenate, if_neg (by simp)] at given
  dsimp only at given
  rw [text] at given
  split at given
  · rename_i read
    exact absurd (digits_behind_first read '-' sign) (by decide)
  · cases given
  · cases given

end Pool

namespace Dice

open Text.Decimal

theorem last_digits_digits (faces : List UInt32) :
    (lastDigits faces).digits = faces.map fun face => face.toNat % 10 := by
  rw [Pool.digits, lastDigits, List.flatMap_map]
  have single : ∀ face : UInt32,
      digitsOf ((face.toNat % 10 : Nat) : Int).natAbs = [face.toNat % 10] := by
    intro face
    rw [Int.natAbs_natCast, digits_of_digit (Nat.mod_lt _ (by decide))]
  simp only [single]
  exact List.flatMap_pure_eq_map _ faces

variable {σ : Type} [Roller σ] {count size : Int}

/-- Once the dice are thrown, no more are asked for: the rest is a matter of their last digits. -/
theorem concatenated_of_thrown {context : Context σ} {dice : Pool} (someDice : 1 ≤ count)
    (thrown : ((pool count size).run context).result = .ok dice) :
    (dice.length : Int) = count ∧
      (concatenated count size).run context =
        ⟨Integer.checked (written (dice.map fun die => (die % 10).toNat)),
          ((pool count size).run context).context, ((pool count size).run context).events⟩ := by
  have comes := (pool count size).drawn_comes_to context
  rw [thrown] at comes
  generalize (pool count size).facesDrawn context = faces at comes
  cases pool_course comes with
  | thrown _ _ all =>
      refine ⟨by rw [List.length_map, all], ?_⟩
      have values : (faces.map faceValue).map (fun die => (die % 10).toNat) =
          (lastDigits faces).digits := by
        rw [last_digits_digits, List.map_map]
        rfl
      have joined : (lastDigits faces).concatenate =
          Integer.checked (written (lastDigits faces).digits) := by
        cases faces with
        | nil =>
            have noDice : (0 : Int) = count := all
            omega
        | cons first rest =>
            have digits := last_digits_are_digits (first :: rest)
            exact Pool.concatenate_of_first_nonneg
              (fun digit member => (digits digit (List.mem_cons_of_mem _ member)).1)
              (digits _ List.mem_cons_self).1
      rw [concatenated, Plan.run_bind_and_then, Outcome.and_then_of_ok thrown, modulo_ten, values,
        ← joined]
      change ((Plan.ofExcept (lastDigits faces).concatenate).run _).after _ = _
      rw [Plan.run_ofExcept, Outcome.after, List.append_nil]

end Dice

open Text.Decimal in
/-- A concatenation comes to the number that all the digits write, with the sign of the first
member, or overflows; a negative member behind the first one always spoils it. Dice that have been
thrown give the number that their last digits write, or overflow, and never anything else. -/
theorem digits_concatenated {σ : Type} [Roller σ] (context : Context σ) (first : Int)
    (rest : Pool) (count size : Int) :
    ((∀ x ∈ rest, 0 ≤ x) →
      let number : Nat := written (Pool.digits (first :: rest))
      (0 ≤ first → Pool.concatenate (first :: rest) = Integer.checked number) ∧
      (first < 0 → Pool.concatenate (first :: rest) = Integer.checked (-number))) ∧
    (Integer.Fits first → Pool.concatenate [first] = .ok first) ∧
    ((∃ x ∈ rest, x < 0) → ∀ n, Pool.concatenate (first :: rest) ≠ .ok n) ∧
    (1 ≤ count →
      let thrown := (Dice.pool count size).run context
      let outcome := (Dice.concatenated count size).run context
      ∀ dice, thrown.result = .ok dice →
        let number : Nat := written (dice.map fun die => (die % 10).toNat)
        (dice.length : Int) = count ∧
        outcome.context = thrown.context ∧
        outcome.result =
          if (number : Int) ≤ Integer.highest then .ok (number : Int) else .error .overflow) := by
  refine ⟨fun nonneg => ⟨fun firstNonneg => ?_, fun negative => ?_⟩, fun fits => ?_,
    fun signed => ?_, fun someDice => ?_⟩
  · exact Pool.concatenate_of_first_nonneg nonneg firstNonneg
  · exact Pool.concatenate_of_first_negative nonneg negative
  · exact Pool.concatenate_single fits
  · exact Pool.concatenate_sign_inside signed
  · intro thrown outcome dice given number
    obtain ⟨all, concatenated⟩ := Dice.concatenated_of_thrown someDice given
    have fits : Integer.Fits number ↔ (number : Int) ≤ Integer.highest := by
      simp only [Integer.Fits, Integer.lowest]
      omega
    have result : outcome.result = Integer.checked number :=
      congrArg Outcome.result concatenated
    rw [Integer.checked] at result
    simp only [fits] at result
    exact ⟨all, congrArg Outcome.context concatenated, result⟩

open Text.Decimal in
/-- The same digits are the lowest number behind a minus sign and too large without it. A minus
sign inside is refused, and of three percentile dice the first two count as zeros. -/
theorem digits_concatenated_edges :
    let rest : Pool := [33720, 36854775808]
    let context : Context Replay := .new (.ofArray #[10, 100, 37]) none
    ((∀ x ∈ rest, 0 ≤ x) ∧ Pool.concatenate (-922 :: rest) = .ok Integer.lowest ∧
      Pool.concatenate (922 :: rest) = .error .overflow) ∧
    (Integer.Fits Integer.lowest ∧
      Pool.concatenate [Integer.lowest] = .ok Integer.lowest) ∧
    ((∃ x ∈ ([-2] : Pool), x < 0) ∧ Pool.concatenate [5, -2] ≠ .ok 52) ∧
    ((Dice.pool 3 100).run context).result = .ok [10, 100, 37] ∧
    ((Dice.concatenated 3 100).run context).result = .ok 7 := by
  intro rest context
  have nonneg : ∀ x ∈ rest, 0 ≤ x := by decide
  have signed : ∃ x ∈ ([-2] : Pool), x < 0 := ⟨-2, by decide, by decide⟩
  have fits : Integer.Fits Integer.lowest := by decide
  have thrown : ((Dice.pool 3 100).run context).result = .ok [10, 100, 37] := by decide +kernel
  have below := ((digits_concatenated context (-922) rest 3 100).1 nonneg).2 (by decide)
  have above := ((digits_concatenated context 922 rest 3 100).1 nonneg).1 (by decide)
  have alone := (digits_concatenated context Integer.lowest rest 3 100).2.1 fits
  have inside := (digits_concatenated context 5 [-2] 3 100).2.2.1 signed 52
  have dice := (digits_concatenated context 5 [-2] 3 100).2.2.2 (by decide) _ thrown
  have atLimit : written (Pool.digits (-922 :: rest)) = 9223372036854775808 := by decide +kernel
  have beyond : written (Pool.digits (922 :: rest)) = 9223372036854775808 := by decide +kernel
  rw [atLimit] at below
  rw [beyond] at above
  exact ⟨⟨nonneg, below, above⟩, ⟨fits, alone⟩, ⟨signed, inside⟩, thrown, dice.2.2⟩

end DiceLang

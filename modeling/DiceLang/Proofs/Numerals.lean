import DiceLang.Pool
import Mathlib.Tactic.Ring

/-!
# Reading numerals that are made of digits

A list of digits is read as the number that it writes, or refused because that number is out of
range. Numbers that are not negative are written with digits alone, so their concatenation is read
in one of these two ways and never found unreadable.
-/

namespace DiceLang

set_option autoImplicit false

namespace Text.Decimal

/-- The number that is written by `value` and the digits behind it. -/
def extend (value : Nat) (digits : List Char) : Nat :=
  digits.foldl (fun read digit => 10 * read + (digit.toNat - '0'.toNat)) value

theorem extend_cons (value : Nat) (digit : Char) (rest : List Char) :
    extend value (digit :: rest) = extend (10 * value + (digit.toNat - '0'.toNat)) rest := by
  simp only [extend, List.foldl_cons]

theorem le_extend (value : Nat) (digits : List Char) : value ≤ extend value digits := by
  induction digits generalizing value with
  | nil => exact Nat.le_refl value
  | cons digit rest ih =>
      have later := ih (10 * value + (digit.toNat - '0'.toNat))
      rw [extend_cons]
      omega

theorem extend_lt {digits : List Char} (all : ∀ digit ∈ digits, digit.isDigit = true)
    (value : Nat) : extend value digits < (value + 1) * 10 ^ digits.length := by
  induction digits generalizing value with
  | nil => simp [extend]
  | cons digit rest ih =>
      have atMostNine := (Char.isDigit_iff_toNat.mp (all digit List.mem_cons_self)).2
      have digitBound : digit.toNat - '0'.toNat ≤ 9 := by
        simp only [Char.reduceToNat] at atMostNine ⊢
        omega
      have later := ih (fun other member => all other (List.mem_cons_of_mem _ member))
        (10 * value + (digit.toNat - '0'.toNat))
      rw [extend_cons, List.length_cons]
      calc extend (10 * value + (digit.toNat - '0'.toNat)) rest
          < (10 * value + (digit.toNat - '0'.toNat) + 1) * 10 ^ rest.length := later
        _ ≤ ((value + 1) * 10) * 10 ^ rest.length := Nat.mul_le_mul_right _ (by omega)
        _ = (value + 1) * 10 ^ (rest.length + 1) := by ring

/-- Since reading never lowers the number, it suffices to look at the number that is reached. -/
theorem read_digits_eq {limit : Nat} {digits : List Char}
    (all : ∀ digit ∈ digits, digit.isDigit = true) {value : Nat} (within : value ≤ limit) :
    readDigits limit value digits =
      if extend value digits ≤ limit then .ok (extend value digits) else .error .outOfRange := by
  induction digits generalizing value with
  | nil => exact (if_pos within).symm
  | cons digit rest ih =>
      have isDigit := all digit List.mem_cons_self
      have others := fun other member => all other (List.mem_cons_of_mem digit member)
      simp only [readDigits, isDigit, if_true, extend_cons]
      by_cases next : 10 * value + (digit.toNat - '0'.toNat) ≤ limit
      · rw [if_pos next, ih others next]
      · have reached := le_extend (10 * value + (digit.toNat - '0'.toNat)) rest
        rw [if_neg next, if_neg (by omega)]

theorem read_numeral_of_digits (lowest highest : Int) {digits : List Char} (nonempty : digits ≠ [])
    (all : ∀ digit ∈ digits, digit.isDigit = true) :
    readNumeral lowest highest digits =
      (readDigits highest.natAbs 0 digits).map fun n => (n : Int) := by
  unfold readNumeral
  split
  · contradiction
  · simp at all
  · simp at all
  · rfl

theorem numeral_digits {n : Int} (nonneg : 0 ≤ n) : ∀ digit ∈ numeral n, digit.isDigit = true := by
  cases n with
  | ofNat n =>
      intro digit member
      exact Nat.isDigit_of_mem_toDigits (by decide) (by decide) member
  | negSucc n => omega

theorem numeral_ne_nil (n : Int) : numeral n ≠ [] := by
  cases n with
  | ofNat n => exact Nat.toDigits_ne_nil
  | negSucc n => exact List.cons_ne_nil _ _

theorem numeral_length_of_digit {n : Int} (nonneg : 0 ≤ n) (digit : n < 10) :
    (numeral n).length = 1 := by
  cases n with
  | ofNat n =>
      have below : n < 10 := by simpa using digit
      rw [numeral, Nat.toDigits_of_lt_base below, List.length_singleton]
  | negSucc n => omega

end Text.Decimal

namespace Pool

open Text.Decimal

theorem numerals_digits {pool : Pool} (nonneg : ∀ x ∈ pool, 0 ≤ x) :
    ∀ digit ∈ pool.flatMap numeral, digit.isDigit = true := by
  intro digit member
  obtain ⟨x, among, written⟩ := List.mem_flatMap.mp member
  exact numeral_digits (nonneg x among) digit written

/-- A pool without negative members is concatenated to the number that all its digits write, if
that fits. -/
theorem concatenate_of_nonneg {pool : Pool} (nonempty : pool ≠ []) (nonneg : ∀ x ∈ pool, 0 ≤ x) :
    pool.concatenate =
      if extend 0 (pool.flatMap numeral) ≤ Integer.highest.natAbs then
        .ok (extend 0 (pool.flatMap numeral) : Nat)
      else .error .overflow := by
  have digits := numerals_digits nonneg
  have written : pool.flatMap numeral ≠ [] := by
    intro empty
    obtain ⟨x, member⟩ := List.exists_mem_of_ne_nil pool nonempty
    exact numeral_ne_nil x (List.flatMap_eq_nil_iff.mp empty x member)
  have notEmpty : ¬pool.isEmpty = true := by simpa using nonempty
  rw [concatenate, if_neg notEmpty]
  dsimp only
  rw [read_numeral_of_digits _ _ written digits, read_digits_eq digits (Nat.zero_le _)]
  by_cases fits : extend 0 (pool.flatMap numeral) ≤ Integer.highest.natAbs
  · rw [if_pos fits, if_pos fits]
    rfl
  · rw [if_neg fits, if_neg fits]
    rfl

theorem numerals_length {pool : Pool} (digits : ∀ x ∈ pool, 0 ≤ x ∧ x < 10) :
    (pool.flatMap numeral).length = pool.length := by
  induction pool with
  | nil => simp
  | cons x rest ih =>
      obtain ⟨nonneg, digit⟩ := digits x List.mem_cons_self
      have others := ih fun other member => digits other (List.mem_cons_of_mem _ member)
      rw [List.flatMap_cons, List.length_append, numeral_length_of_digit nonneg digit, others,
        List.length_cons, Nat.add_comm]

end Pool

end DiceLang

import DiceLang.Proofs.Explosions
import DiceLang.Proofs.SoundRollers
import DiceLang.Proofs.SummingOrder
import Mathlib.Algebra.Order.BigOperators.Group.List
import Mathlib.Order.Bounds.Basic
import Mathlib.Tactic.Linarith

/-!
# The range of a roll

What a roll can come to is bounded by the number and the size of its dice, provided that the roller
keeps to the dice it is asked for. The bounds on the result are a matter of the faces alone: totals
are sums of as many faces as there are dice, explosions only add to them, and the digits of the
dice write a number with as many digits.
-/

namespace DiceLang

set_option autoImplicit false

variable {σ : Type} {size : Int}

open Dice

namespace Pool

/-- Without negative members the partial sums never decrease, so only the whole sum has to fit. -/
theorem sum_eq_checked {pool : Pool} (nonneg : ∀ x ∈ pool, 0 ≤ x) :
    pool.sum = Integer.checked (List.sum pool) :=
  every_order_exact_iff.mpr (extremes_fit_of_one_sign (.inl nonneg)) pool (.refl pool)

theorem length_le_sum {pool : Pool} (positive : ∀ x ∈ pool, 1 ≤ x) :
    (pool.length : Int) ≤ List.sum pool := by
  simpa using List.card_nsmul_le_sum pool 1 positive

end Pool

namespace Dice

variable {count : Int} {faces : List UInt32}

theorem face_value_nonneg (face : UInt32) : 0 ≤ faceValue face :=
  Int.natCast_nonneg _

theorem face_values_nonneg (faces : List UInt32) : ∀ x ∈ faces.map faceValue, 0 ≤ x :=
  List.forall_mem_map.mpr fun face _ => face_value_nonneg face

theorem face_values_sum (onDie : ∀ face ∈ faces, OnDie size face) :
    (faces.length : Int) ≤ (faces.map faceValue).sum ∧
      (faces.map faceValue).sum ≤ faces.length * size := by
  constructor
  · have positive : ∀ x ∈ faces.map faceValue, 1 ≤ x :=
      List.forall_mem_map.mpr fun face member => (onDie face member).1
    simpa using Pool.length_le_sum positive
  · have bounded : ∀ x ∈ faces.map faceValue, x ≤ size :=
      List.forall_mem_map.mpr fun face member => (onDie face member).2
    simpa using List.sum_le_card_nsmul _ size bounded

theorem total_course {result : Except RollError Int}
    (comes : (total count size).ComesTo faces result) :
    (∃ error, error ≠ .overflow ∧ result = .error error) ∨
      (faces.length : Int) = count ∧
        result = Integer.checked (faces.map faceValue).sum := by
  obtain ⟨given, thrown, rfl⟩ := comes.of_bind_except
  cases pool_course thrown with
  | turnedDown reason _ => exact .inl ⟨.badArgument reason, nofun, rfl⟩
  | refused _ => exact .inl ⟨.tooManyRolls, nofun, rfl⟩
  | thrown _ _ all => exact .inr ⟨all, Pool.sum_eq_checked (face_values_nonneg faces)⟩

theorem total_overflow (onDie : ∀ face ∈ faces, OnDie size face)
    (comes : (total count size).ComesTo faces (.error .overflow)) :
    Integer.highest < count * size := by
  rcases total_course comes with ⟨error, other, same⟩ | ⟨rfl, summed⟩
  · cases same
    exact absurd rfl other
  · obtain ⟨atLeast, atMost⟩ := face_values_sum onDie
    by_contra within
    have fits : Integer.Fits (faces.map faceValue).sum := by
      simp only [Integer.Fits, Integer.lowest]
      omega
    rw [Integer.checked, if_pos fits] at summed
    cases summed

theorem first_le_block_total (first : UInt32) (block : List UInt32) :
    faceValue first ≤ blockTotal first block := by
  have later := List.sum_nonneg (face_values_nonneg block)
  rw [blockTotal]
  linarith

/-- An exploded die counts more than one, so a one is told from the total. -/
theorem block_total_eq_one_iff {first : UInt32} {block : List UInt32} (several : 2 ≤ size)
    (follow : Block size first block) (onDie : OnDie size first) :
    blockTotal first block = 1 ↔ faceValue first = 1 := by
  have atLeast := first_le_block_total first block
  constructor
  · intro one
    have shown := onDie.1
    omega
  · intro one
    have notGreatest : faceValue first ≠ size := by omega
    rw [Block, if_neg notGreatest] at follow
    simp [blockTotal, follow, one]

theorem TotalCourse.given {result : Int} (course : TotalCourse count size faces (.ok result)) :
    2 ≤ size ∧ ∃ firsts blocks, faces = firsts ++ blocks.flatten ∧
      (firsts.length : Int) = count ∧ List.Forall₂ (Block size) firsts blocks ∧
      result = (List.zipWith blockTotal firsts blocks).sum := by
  obtain ⟨pool, exploded, summed⟩ := course
  cases exploded with
  | turnedDown _ _ => cases summed
  | refused _ => cases summed
  | brokenOff _ _ _ _ => cases summed
  | @settled firsts blocks inside all follow =>
      have nonneg : ∀ x ∈ List.zipWith blockTotal firsts blocks, 0 ≤ x := by
        rw [← List.map_uncurry_zip_eq_zipWith, List.forall_mem_map]
        intro die _
        exact (face_value_nonneg die.1).trans (first_le_block_total die.1 die.2)
      rw [Except.bind, Pool.sum_eq_checked nonneg] at summed
      exact ⟨inside.2.1, firsts, blocks, rfl, all, follow.imp fun _ _ settles => settles.follow,
        (Integer.checked_eq_ok_iff.mp summed.symm).2⟩

theorem TotalCourse.in_range {result : Int} (onDie : ∀ face ∈ faces, OnDie size face)
    (course : TotalCourse count size faces (.ok result)) : count ≤ result := by
  obtain ⟨_, firsts, blocks, rfl, rfl, follow, rfl⟩ := course.given
  have positive : ∀ x ∈ List.zipWith blockTotal firsts blocks, 1 ≤ x := by
    rw [← List.map_uncurry_zip_eq_zipWith, List.forall_mem_map]
    intro die member
    have thrown := List.mem_append_left blocks.flatten (List.of_mem_zip member).1
    exact (onDie die.1 thrown).1.trans (first_le_block_total die.1 die.2)
  have counted := Pool.length_le_sum positive
  rwa [List.length_zipWith, follow.length_eq, Nat.min_self, ← follow.length_eq] at counted

theorem TotalCourse.of_one_die {result : Int} (course : TotalCourse 1 size faces (.ok result)) :
    2 ≤ size ∧ ∃ first block, faces = first :: block ∧ Block size first block ∧
      result = blockTotal first block := by
  obtain ⟨several, firsts, blocks, rfl, one, follow, rfl⟩ := course.given
  obtain ⟨first, rfl⟩ := List.length_eq_one_iff.mp (Int.ofNat.inj one)
  cases follow with
  | @cons _ block _ _ own none =>
      cases none
      exact ⟨several, first, block, by simp, own, by simp⟩

theorem added_given {start result : Int} {others : List UInt32}
    (added : Except.ok result = (Pool.sum (others.map faceValue)).bind fun rest =>
      Integer.checked (start + rest)) : result = start + (others.map faceValue).sum := by
  cases summed : Pool.sum (others.map faceValue) with
  | error error =>
      rw [summed] at added
      cases added
  | ok rest =>
      rw [summed] at added
      rw [Pool.sum_eq_checked (face_values_nonneg others)] at summed
      rw [← (Integer.checked_eq_ok_iff.mp summed).2]
      exact (Integer.checked_eq_ok_iff.mp added.symm).2

/-- The wild die is the first one drawn; the total of its throws decides about the whole roll. -/
theorem WildCourse.given {result : Int} (course : WildCourse count size faces (.ok result)) :
    2 ≤ size ∧ ∃ first block others, faces = first :: block ++ others ∧ Block size first block ∧
      (others.length : Int) = count - 1 ∧
      result = if blockTotal first block = 1 then 0
        else blockTotal first block + (others.map faceValue).sum := by
  generalize ended : Except.ok result = ending at course
  cases course with
  | turnedDown _ _ => cases ended
  | brokenOff _ _ => cases ended
  | @settled _ others _ _ _ settled regular =>
      obtain ⟨several, first, block, rfl, follow, rfl⟩ := settled.of_one_die
      cases regular with
      | turnedDown _ _ => cases ended
      | refused _ => cases ended
      | thrown _ _ all =>
          refine ⟨several, first, block, others, rfl, follow, all, ?_⟩
          rw [Except.bind] at ended
          split at ended
          · rename_i botched
            rw [if_pos botched]
            exact Except.ok.inj ended
          · rename_i notBotched
            rw [if_neg notBotched]
            exact added_given ended

theorem pool_bind_given {next : Pool → Plan RollError Int} {result : Int}
    (diceless : ∀ pool, (next pool).Diceless)
    (comes : (pool count size >>= next).ComesTo faces (.ok result)) :
    (faces.length : Int) = count ∧ (next (faces.map faceValue)).ComesTo [] (.ok result) := by
  rcases comes.of_bind with ⟨_, _, failed⟩ | ⟨first, second, members, rfl, here, there⟩
  · cases failed
  · have none := there.of_diceless (diceless members)
    subst none
    cases pool_course here with
    | thrown _ _ all =>
        rw [List.append_nil]
        exact ⟨all, there⟩

theorem highest_given {result : Int} (comes : (highest count size).ComesTo faces (.ok result)) :
    (faces.length : Int) = count ∧ IsGreatest {value | value ∈ faces.map faceValue} result := by
  obtain ⟨all, comes⟩ := pool_bind_given (fun _ => by split <;> trivial) comes
  split at comes
  · rename_i greatest found
    cases comes.2
    exact ⟨all, List.max?_eq_some_iff.mp found⟩
  · exact nomatch comes.2

theorem lowest_given {result : Int} (comes : (lowest count size).ComesTo faces (.ok result)) :
    (faces.length : Int) = count ∧ IsLeast {value | value ∈ faces.map faceValue} result := by
  obtain ⟨all, comes⟩ := pool_bind_given (fun _ => by split <;> trivial) comes
  split at comes
  · rename_i least found
    cases comes.2
    exact ⟨all, List.min?_eq_some_iff.mp found⟩
  · exact nomatch comes.2

theorem WildCourse.in_range {result : Int} (onDie : ∀ face ∈ faces, OnDie size face)
    (course : WildCourse count size faces (.ok result)) :
    ∃ first later, faces = first :: later ∧ (result = 0 ↔ faceValue first = 1) ∧
      (faceValue first ≠ 1 → count + 1 ≤ result) := by
  obtain ⟨several, first, block, others, rfl, follow, all, rfl⟩ := course.given
  have firstOnDie := onDie first (by simp)
  have botch := block_total_eq_one_iff several follow firstOnDie
  have othersOnDie : ∀ face ∈ others, OnDie size face :=
    fun face member => onDie face (List.mem_append_right _ member)
  have counted := (face_values_sum othersOnDie).1
  refine ⟨first, block ++ others, rfl, ?_⟩
  by_cases botched : blockTotal first block = 1
  · rw [if_pos botched]
    have one := botch.mp botched
    exact ⟨⟨fun _ => one, fun _ => rfl⟩, fun other => absurd one other⟩
  · rw [if_neg botched]
    have notOne : faceValue first ≠ 1 := fun one => botched (botch.mpr one)
    have shown := firstOnDie.1
    have atLeast := first_le_block_total first block
    omega

open Text.Decimal in
/-- As many digits as there are dice write a number below that power of ten. -/
theorem concatenated_in_range {result : Int}
    (comes : (concatenated count size).ComesTo faces (.ok result)) :
    0 ≤ result ∧ result ≤ 10 ^ count.toNat - 1 := by
  obtain ⟨rfl, written⟩ := pool_bind_given (fun _ =>
    (Plan.Diceless.ofExcept _).bind fun _ => .ofExcept _) comes
  rw [modulo_ten] at written
  have given := (Plan.ComesTo.of_except written).2
  have digits := last_digits_are_digits faces
  have nonneg : ∀ digit ∈ lastDigits faces, 0 ≤ digit :=
    fun digit member => (digits digit member).1
  have nonempty : lastDigits faces ≠ [] := by
    intro empty
    rw [empty] at given
    cases given
  rw [Pool.concatenate_of_nonneg nonempty nonneg] at given
  split at given
  · cases given
    have below := extend_lt (Pool.numerals_digits nonneg) 0
    rw [Pool.numerals_length digits, lastDigits, List.length_map, Nat.zero_add, Nat.one_mul]
      at below
    rw [Int.toNat_natCast]
    have power : (extend 0 ((lastDigits faces).flatMap numeral) : Int) < 10 ^ faces.length := by
      exact_mod_cast below
    omega
  · cases given

end Dice

/-- What a result of the roll, reached with these faces, keeps to. -/
def DiceRoll.WithinRange (count size : Int) (drawn : List UInt32) (result : Int) :
    DiceRoll → Prop
  | total => count ≤ result ∧ result ≤ count * size
  | exploding => count ≤ result
  | highest => (1 ≤ result ∧ result ≤ size) ∧ (drawn.length : Int) = count ∧
      IsGreatest {value | value ∈ drawn.map faceValue} result
  | lowest => (1 ≤ result ∧ result ≤ size) ∧ (drawn.length : Int) = count ∧
      IsLeast {value | value ∈ drawn.map faceValue} result
  | wild => ∃ first later, drawn = first :: later ∧ (result = 0 ↔ faceValue first = 1) ∧
      (faceValue first ≠ 1 → count + 1 ≤ result)
  | concatenated => 0 ≤ result ∧ result ≤ 10 ^ count.toNat - 1

theorem DiceRoll.within_range {op : DiceRoll} {count : Int} {faces : List UInt32} {result : Int}
    (onDie : ∀ face ∈ faces, OnDie size face)
    (comes : (op.apply count size).ComesTo faces (.ok result)) :
    op.WithinRange count size faces result := by
  have shown : ∀ value ∈ faces.map faceValue, 1 ≤ value ∧ value ≤ size :=
    List.forall_mem_map.mpr onDie
  cases op with
  | total =>
      rcases total_course comes with ⟨_, _, failed⟩ | ⟨rfl, summed⟩
      · cases failed
      · rw [(Integer.checked_eq_ok_iff.mp summed.symm).2]
        exact face_values_sum onDie
  | exploding => exact (exploding_total_course comes).in_range onDie
  | highest =>
      obtain ⟨all, greatest⟩ := highest_given comes
      exact ⟨shown result greatest.1, all, greatest⟩
  | lowest =>
      obtain ⟨all, least⟩ := lowest_given comes
      exact ⟨shown result least.1, all, least⟩
  | wild => exact (wild_course comes).in_range onDie
  | concatenated => exact concatenated_in_range comes

/-- With a roller that keeps to its dice, every result of a roll lies in its range, and a total
overflows only if the greatest one possible does. -/
theorem dice_results_within_range [Roller σ] {context : Context σ}
    (sound : Roller.Sound size context.roller) (count : Int) :
    (∀ (op : DiceRoll) (result : Int),
      ((op.apply count size).run context).result = .ok result →
      op.WithinRange count size ((op.apply count size).facesDrawn context) result) ∧
    (((DiceRoll.total.apply count size).run context).result = .error .overflow →
      Integer.highest < count * size) := by
  constructor
  · intro op result given
    have comes := (op.apply count size).drawn_comes_to context
    rw [given] at comes
    exact DiceRoll.within_range ((op.apply_throws count size).faces_on_die sound) comes
  · intro overflown
    have comes := (DiceRoll.total.apply count size).drawn_comes_to context
    rw [overflown] at comes
    exact total_overflow ((DiceRoll.total.apply_throws count size).faces_on_die sound) comes

/-- A one and then fives: three dice come to eleven, but as wild dice they count nothing. -/
theorem dice_results_within_range_botched :
    let context : Context Replay := .new ⟨fun index => if index = 0 then 1 else 5, 0⟩ (some 3)
    let wild := DiceRoll.wild.apply 3 6
    Roller.Sound 6 context.roller ∧
      ((DiceRoll.total.apply 3 6).run context).result = .ok 11 ∧
      ((3 : Int) ≤ 11 ∧ (11 : Int) ≤ 3 * 6) ∧
      (wild.run context).result = .ok 0 ∧
      ∃ first later, wild.facesDrawn context = first :: later ∧ faceValue first = 1 := by
  intro context wild
  have sound : Roller.Sound 6 context.roller := by
    apply Replay.sound
    intro index
    change OnDie 6 (if index = 0 then 1 else 5)
    split <;> exact ⟨by decide, by decide⟩
  have eleven : ((DiceRoll.total.apply 3 6).run context).result = .ok 11 := by decide +kernel
  have nothing : (wild.run context).result = .ok 0 := by decide +kernel
  have inRange := (dice_results_within_range sound 3).1
  obtain ⟨first, later, drawn, botch, _⟩ := inRange .wild 0 nothing
  exact ⟨sound, eleven, inRange .total 11 eleven, nothing, first, later, drawn, botch.mp rfl⟩

end DiceLang

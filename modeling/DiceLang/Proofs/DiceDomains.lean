import DiceLang.Operator.Apply
import DiceLang.Proofs.Courses
import DiceLang.Proofs.Numerals

/-!
# The arguments of dice rolls

Each way to roll dice has a domain: how many dice it needs at least, and how many sides they need
at least. Outside of its domain a roll is turned down, which leaves everything as it was. Inside of
it, dice may still be refused and a total may be too large, but the arguments are never blamed.

Most rolls are turned down before they ask for a die. The highest, the lowest and the concatenated
digits of no dice are turned down only when the empty pool has been thrown, so it matters there
that asking for no dice charges nothing and draws nothing.
-/

namespace DiceLang

set_option autoImplicit false

variable {σ α : Type}

namespace Plan

/-- The plan is turned down for its arguments before any die is thrown. -/
def TurnedDown : Plan RollError α → Prop
  | done _ => False
  | fail error => ∃ reason, error = .badArgument reason
  | rollMany _ count _ next => count = 0 ∧ (next []).TurnedDown
  | rollOne _ _ _ => False
  | note _ rest => rest.TurnedDown

/-- Whatever faces come up, the plan does not fail because of its arguments. -/
def NeverTurnedDown (plan : Plan RollError α) : Prop :=
  ∀ faces reason, ¬plan.ComesTo faces (.error (.badArgument reason))

theorem NeverTurnedDown.of_errors {plan : Plan RollError α}
    (errors : plan.ErrorsIn (Eq .tooManyRolls) (Eq .overflow)) : plan.NeverTurnedDown := by
  intro faces reason comes
  rcases comes.error_allowed errors with refused | overflow
  · cases refused
  · cases overflow

end Plan

/-- No limit has been passed. -/
def Context.Solvent (context : Context σ) : Prop :=
  ∀ limit, context.limit = some limit → context.rolls ≤ limit

theorem Context.charge_none {context : Context σ} (bounded : context.rolls ≤ Budget.counterLimit) :
    context.charge 0 = context := by
  have spent : context.budget.spent ≤ Budget.counterLimit := bounded
  simp [charge, Budget.charge, Nat.min_eq_left spent]

section Asking

variable [Roller σ]

/-- A plan that is turned down leaves everything as it was, also if it is refused before that. -/
theorem Plan.TurnedDown.unchanged {plan : Plan RollError α} (turnedDown : plan.TurnedDown)
    {context : Context σ} (bounded : context.rolls ≤ Budget.counterLimit) :
    (plan.run context).context = context := by
  induction plan with
  | done a => exact turnedDown.elim
  | fail error => rfl
  | rollMany die count refusal next ih =>
      obtain ⟨rfl, rejected⟩ := turnedDown
      rw [run_roll_many, Context.ask, Context.charge_none bounded]
      split
      · rfl
      · exact ih [] rejected
  | rollOne die refusal next ih => exact turnedDown.elim
  | note event rest ih => exact ih turnedDown

/-- If no limit has been passed, asking for no dice is granted. -/
theorem Plan.TurnedDown.fails {plan : Plan RollError α} (turnedDown : plan.TurnedDown)
    {context : Context σ} (bounded : context.rolls ≤ Budget.counterLimit)
    (solvent : context.Solvent) :
    ∃ reason, (plan.run context).result = .error (.badArgument reason) := by
  induction plan with
  | done a => exact turnedDown.elim
  | fail error =>
      obtain ⟨reason, rfl⟩ := turnedDown
      exact ⟨reason, rfl⟩
  | rollMany die count refusal next ih =>
      obtain ⟨rfl, rejected⟩ := turnedDown
      have granted : ¬context.budget.isOverdrawn = true := by
        rw [Budget.is_overdrawn_iff]
        rintro ⟨limit, limited, passed⟩
        exact absurd passed (Nat.not_lt.mpr (solvent limit limited))
      have same : context.budget.charge 0 = context.budget :=
        congrArg Context.budget (Context.charge_none bounded)
      rw [run_roll_many, Context.ask, Context.charge_none bounded, same, if_neg granted]
      exact ih [] rejected
  | rollOne die refusal next ih => exact turnedDown.elim
  | note event rest ih => exact ih turnedDown

/-- A plan that is turned down unless its arguments are admitted, and never if they are, does so
exactly and without a trace. -/
theorem Plan.turned_down_exactly {plan : Plan RollError α} {admitted : Prop}
    (inside : admitted → plan.NeverTurnedDown) (outside : ¬admitted → plan.TurnedDown)
    {context : Context σ} (bounded : context.rolls ≤ Budget.counterLimit) :
    (context.Solvent →
      ((∃ reason, (plan.run context).result = .error (.badArgument reason)) ↔ ¬admitted)) ∧
      ∀ reason, (plan.run context).result = .error (.badArgument reason) →
        (plan.run context).context = context ∧ plan.facesDrawn context = [] := by
  have notAdmitted : ∀ reason, (plan.run context).result = .error (.badArgument reason) →
      ¬admitted := by
    intro reason failed accepted
    have comes := plan.drawn_comes_to context
    rw [failed] at comes
    exact inside accepted _ _ comes
  refine ⟨fun solvent => ⟨?_, ?_⟩, ?_⟩
  · rintro ⟨reason, failed⟩
    exact notAdmitted reason failed
  · intro rejected
    exact (outside rejected).fails bounded solvent
  · intro reason failed
    have rejected := outside (notAdmitted reason failed)
    have recorded : (plan.run context.recorded).context = context.recorded :=
      rejected.unchanged bounded
    refine ⟨rejected.unchanged bounded, ?_⟩
    rw [facesDrawn, recorded]
    rfl

end Asking

namespace Dice

/-- At least so many dice with at least so many sides. -/
structure Domain where
  fewest : Int
  smallest : Int
  deriving DecidableEq, Repr

/-- The sides of a die are counted in a word, whatever is done with it. -/
def Domain.Admits (domain : Domain) (count size : Int) : Prop :=
  domain.fewest ≤ count ∧ domain.smallest ≤ size ∧ size < wordCount

instance (domain : Domain) (count size : Int) : Decidable (domain.Admits count size) :=
  inferInstanceAs (Decidable (_ ∧ _ ∧ _))

end Dice

/-- The domain of a pool: dice that explode need a second side. -/
def PoolRoll.domain : PoolRoll → Dice.Domain
  | plain => ⟨0, 1⟩
  | exploding => ⟨0, 2⟩

/-- No dice have a total, but neither a highest nor a lowest one nor a digit, and a wild die is a
die. -/
def DiceRoll.domain : DiceRoll → Dice.Domain
  | total => ⟨0, 1⟩
  | exploding => ⟨0, 2⟩
  | highest => ⟨1, 1⟩
  | lowest => ⟨1, 1⟩
  | wild => ⟨1, 2⟩
  | concatenated => ⟨1, 1⟩

namespace Dice

variable {count size : Int}

theorem count_of_nonneg (nonneg : 0 ≤ count) : countOf count = .ok count.toNat :=
  if_pos nonneg

theorem count_of_negative (negative : count < 0) :
    countOf count = .error (.badArgument (.diceCount count)) :=
  if_neg (Int.not_le.mpr negative)

theorem of_size_inside (positive : 1 ≤ size) (inWord : size < wordCount) :
    ∃ die, Die.ofSize size = .ok die :=
  ⟨_, dif_pos ⟨positive, inWord⟩⟩

theorem of_size_outside (outside : ¬(1 ≤ size ∧ size < wordCount)) :
    Die.ofSize size = .error (.badArgument (.sides size)) :=
  dif_neg outside

theorem sides_of_size {size : Int} {die : Die} (sized : Die.ofSize size = .ok die) :
    (die.sides : Int) = size := by
  unfold Die.ofSize at sized
  split at sized
  · rename_i bounds
    cases sized
    exact Int.toNat_of_nonneg (Int.le_of_lt bounds.1)
  · cases sized

/-- How a throw of plain dice can go. -/
inductive PoolCourse (count size : Int) : List UInt32 → Except RollError Pool → Prop where
  | turnedDown (reason : BadArgument) : ¬PoolRoll.plain.domain.Admits count size →
      PoolCourse count size [] (.error (.badArgument reason))
  | refused : PoolRoll.plain.domain.Admits count size →
      PoolCourse count size [] (.error .tooManyRolls)
  | thrown (faces : List UInt32) : PoolRoll.plain.domain.Admits count size →
      (faces.length : Int) = count → PoolCourse count size faces (.ok (faces.map faceValue))

theorem pool_outside (outside : ¬PoolRoll.plain.domain.Admits count size) :
    ∃ reason, pool count size = .fail (.badArgument reason) := by
  by_cases nonneg : 0 ≤ count
  · have notSized : ¬(1 ≤ size ∧ size < wordCount) := fun sized => outside ⟨nonneg, sized⟩
    rw [pool, count_of_nonneg nonneg, of_size_outside notSized]
    exact ⟨_, rfl⟩
  · rw [pool, count_of_negative (Int.not_le.mp nonneg)]
    exact ⟨_, rfl⟩

theorem pool_eq {count size : Int} {number : Nat} {die : Die} (counted : countOf count = .ok number)
    (sized : Die.ofSize size = .ok die) :
    pool count size = .rollMany die number .tooManyRolls fun faces =>
      .note (.rolled (faces.map faceValue) count size) (.done (faces.map faceValue)) := by
  rw [pool, counted, sized]
  rfl

theorem pool_inside (inside : PoolRoll.plain.domain.Admits count size) :
    ∃ die, pool count size = .rollMany die count.toNat .tooManyRolls fun faces =>
      .note (.rolled (faces.map faceValue) count size) (.done (faces.map faceValue)) := by
  obtain ⟨nonneg, positive, inWord⟩ := inside
  obtain ⟨die, sized⟩ := of_size_inside positive inWord
  exact ⟨die, pool_eq (count_of_nonneg nonneg) sized⟩

theorem pool_course {faces : List UInt32} {result : Except RollError Pool}
    (comes : (pool count size).ComesTo faces result) : PoolCourse count size faces result := by
  by_cases inside : PoolRoll.plain.domain.Admits count size
  · obtain ⟨die, plan⟩ := pool_inside inside
    rw [plan] at comes
    rcases comes with ⟨rfl, rfl⟩ | ⟨batch, later, rfl, all, rfl, rfl⟩
    · exact .refused inside
    · rw [List.append_nil]
      exact .thrown batch inside (by rw [all]; exact Int.toNat_of_nonneg inside.1)
  · obtain ⟨reason, plan⟩ := pool_outside inside
    rw [plan] at comes
    obtain ⟨rfl, rfl⟩ := comes
    exact .turnedDown reason inside

theorem exploding_pool_outside (outside : ¬PoolRoll.exploding.domain.Admits count size) :
    ∃ reason, explodingPool count size = .fail (.badArgument reason) := by
  by_cases one : size = 1
  · rw [explodingPool, if_pos one]
    exact ⟨_, rfl⟩
  · by_cases sized : 1 ≤ size ∧ size < wordCount
    · obtain ⟨die, isDie⟩ := of_size_inside sized.1 sized.2
      have several : 2 ≤ size := by omega
      have notPlain : ¬PoolRoll.plain.domain.Admits count size :=
        fun plain => outside ⟨plain.1, several, sized.2⟩
      obtain ⟨reason, down⟩ := pool_outside notPlain
      rw [explodingPool, if_neg one, isDie, down]
      exact ⟨reason, rfl⟩
    · rw [explodingPool, if_neg one, of_size_outside sized]
      exact ⟨_, rfl⟩

theorem exploding_pool_inside (inside : PoolRoll.exploding.domain.Admits count size) :
    ∃ die, Die.ofSize size = .ok die ∧
      explodingPool count size = .rollMany die count.toNat .tooManyRolls fun faces =>
        .note (.rolled (faces.map faceValue) count size) do
          let settled ← (faces.map faceValue).mapM (settle die)
          Plan.log (.exploded settled count size)
          return settled := by
  obtain ⟨nonneg, several, inWord⟩ := inside
  change 2 ≤ size at several
  have notOne : size ≠ 1 := by omega
  obtain ⟨die, sized⟩ := of_size_inside (by omega) inWord
  refine ⟨die, sized, ?_⟩
  rw [explodingPool, if_neg notOne, sized, pool_eq (count_of_nonneg nonneg) sized]
  rfl

section Inside

open Plan (ErrorsIn NeverTurnedDown)

theorem pool_errors_inside (inside : PoolRoll.plain.domain.Admits count size) :
    (pool count size).ErrorsIn (Eq .tooManyRolls) (Eq .overflow) := by
  obtain ⟨die, plan⟩ := pool_inside inside
  rw [plan]
  exact ⟨rfl, fun faces => trivial⟩

theorem exploding_pool_errors_inside (inside : PoolRoll.exploding.domain.Admits count size) :
    (explodingPool count size).ErrorsIn (Eq .tooManyRolls) (Eq .overflow) := by
  obtain ⟨die, _, plan⟩ := exploding_pool_inside inside
  rw [plan]
  refine ⟨rfl, fun faces => ?_⟩
  exact (ErrorsIn.mapM (settle_errors rfl rfl die) (faces.map faceValue)).bind fun _ => trivial

theorem exploding_total_errors_inside (inside : PoolRoll.exploding.domain.Admits count size) :
    (explodingTotal count size).ErrorsIn (Eq .tooManyRolls) (Eq .overflow) :=
  (exploding_pool_errors_inside inside).bind fun pool => .ofExcept (Pool.sum_fails rfl pool)

theorem wild_errors_inside (inside : DiceRoll.wild.domain.Admits count size) :
    (wild count size).ErrorsIn (Eq .tooManyRolls) (Eq .overflow) := by
  obtain ⟨someDice, several, inWord⟩ := inside
  change 1 ≤ count at someDice
  change 2 ≤ size at several
  rw [wild, if_neg (Int.not_lt.mpr someDice)]
  have single : PoolRoll.exploding.domain.Admits 1 size := ⟨by decide, several, inWord⟩
  have others : PoolRoll.plain.domain.Admits (count - 1) size :=
    ⟨Int.sub_nonneg_of_le someDice, Int.le_trans (by decide) several, inWord⟩
  apply (exploding_total_errors_inside single).bind
  intro wild
  apply (pool_errors_inside others).bind
  intro regular
  split
  · trivial
  · apply (ErrorsIn.ofExcept (Pool.sum_fails rfl regular)).bind
    intro rest
    exact .ofExcept (Integer.checked_fails rfl _)

theorem NeverTurnedDown.of_some_dice {next : Pool → Plan RollError α}
    (inside : 1 ≤ count ∧ 1 ≤ size ∧ size < wordCount)
    (onward : ∀ first rest, (next ((first :: rest).map faceValue)).NeverTurnedDown) :
    (pool count size >>= next).NeverTurnedDown := by
  have plain : PoolRoll.plain.domain.Admits count size :=
    ⟨Int.le_trans (by decide) inside.1, inside.2⟩
  intro faces reason comes
  rcases comes.of_bind with ⟨error, broken, same⟩ | ⟨first, second, members, rfl, here, there⟩
  · cases same
    cases pool_course broken with
    | turnedDown _ outside => exact outside plain
  · cases pool_course here with
    | thrown _ _ all =>
        cases first with
        | nil =>
            have noDice : (0 : Int) = count := all
            omega
        | cons face rest => exact onward face rest second reason there

theorem highest_inside (inside : DiceRoll.highest.domain.Admits count size) :
    (highest count size).NeverTurnedDown := by
  apply NeverTurnedDown.of_some_dice inside
  intro first rest faces reason comes
  rw [List.map_cons, List.max?_cons'] at comes
  exact nomatch comes.2

theorem lowest_inside (inside : DiceRoll.lowest.domain.Admits count size) :
    (lowest count size).NeverTurnedDown := by
  apply NeverTurnedDown.of_some_dice inside
  intro first rest faces reason comes
  rw [List.map_cons, List.min?_cons'] at comes
  exact nomatch comes.2

/-- The last digits of some dice. -/
def lastDigits (faces : List UInt32) : Pool :=
  faces.map fun face => ((face.toNat % 10 : Nat) : Int)

theorem last_digits_are_digits (faces : List UInt32) :
    ∀ digit ∈ lastDigits faces, 0 ≤ digit ∧ digit < 10 := by
  intro digit member
  obtain ⟨face, _, rfl⟩ := List.mem_map.mp member
  omega

theorem floor_mod_face (face : UInt32) :
    Integer.floorMod (faceValue face) 10 = .ok ((face.toNat % 10 : Nat) : Int) := by
  have small : face.toNat < 2 ^ 32 := face.toNat_lt
  have fits : Integer.Fits (Int.fdiv (faceValue face) 10) := by
    change Integer.lowest ≤ Int.fdiv (face.toNat : Int) ((10 : Nat) : Int) ∧
      Int.fdiv (face.toNat : Int) ((10 : Nat) : Int) ≤ Integer.highest
    rw [← Int.ofNat_fdiv]
    simp only [Integer.lowest, Integer.highest]
    omega
  rw [Integer.floorMod, if_neg (by decide), Integer.checked, if_pos fits, Int.ofNat_fmod]
  rfl

theorem modulo_ten (faces : List UInt32) :
    Pool.modulo (faces.map faceValue) 10 = .ok (lastDigits faces) := by
  have each : ((fun x => Integer.floorMod x 10) ∘ faceValue) =
      fun face : UInt32 => (pure ((face.toNat % 10 : Nat) : Int) : Except RollError Int) :=
    funext floor_mod_face
  rw [Pool.modulo, List.mapM_map, each, List.mapM_pure]
  rfl

theorem concatenated_inside (inside : DiceRoll.concatenated.domain.Admits count size) :
    (concatenated count size).NeverTurnedDown := by
  apply NeverTurnedDown.of_some_dice inside
  intro first rest faces reason comes
  rw [modulo_ten] at comes
  obtain ⟨_, failed⟩ := Plan.ComesTo.of_except comes
  have nonneg : ∀ digit ∈ lastDigits (first :: rest), 0 ≤ digit :=
    fun digit member => (last_digits_are_digits _ digit member).1
  have nonempty : lastDigits (first :: rest) ≠ [] := List.cons_ne_nil _ _
  rw [Pool.concatenate_of_nonneg nonempty nonneg] at failed
  split at failed
  · cases failed
  · cases failed

end Inside

section Outside

open Plan (TurnedDown)

theorem TurnedDown.of_few_dice {next : Pool → Plan RollError α}
    (outside : ¬(1 ≤ count ∧ 1 ≤ size ∧ size < wordCount)) (none : (next []).TurnedDown) :
    (pool count size >>= next).TurnedDown := by
  by_cases plain : PoolRoll.plain.domain.Admits count size
  · obtain ⟨die, plan⟩ := pool_inside plain
    have noDice : count.toNat = 0 := by
      have nonneg := plain.1
      have sized := plain.2
      change 0 ≤ count at nonneg
      change 1 ≤ size ∧ size < wordCount at sized
      omega
    rw [plan, noDice]
    exact ⟨rfl, none⟩
  · obtain ⟨reason, plan⟩ := pool_outside plain
    rw [plan]
    exact ⟨reason, rfl⟩

theorem turned_down_bind {β : Type} {plan : Plan RollError α} {next : α → Plan RollError β}
    (down : ∃ reason, plan = .fail (.badArgument reason)) :
    ∃ reason, (plan >>= next) = .fail (.badArgument reason) := by
  obtain ⟨reason, rfl⟩ := down
  exact ⟨reason, rfl⟩

theorem exploding_total_outside (outside : ¬PoolRoll.exploding.domain.Admits count size) :
    ∃ reason, explodingTotal count size = .fail (.badArgument reason) :=
  turned_down_bind (exploding_pool_outside outside)

theorem wild_outside (outside : ¬DiceRoll.wild.domain.Admits count size) :
    ∃ reason, wild count size = .fail (.badArgument reason) := by
  by_cases someDice : 1 ≤ count
  · have notSized : ¬PoolRoll.exploding.domain.Admits 1 size :=
      fun single => outside ⟨someDice, single.2⟩
    rw [wild, if_neg (Int.not_lt.mpr someDice)]
    exact turned_down_bind (exploding_total_outside notSized)
  · rw [wild, if_pos (Int.not_le.mp someDice)]
    exact ⟨_, rfl⟩

theorem turned_down_of_fail {plan : Plan RollError α}
    (down : ∃ reason, plan = .fail (.badArgument reason)) : plan.TurnedDown := by
  obtain ⟨reason, rfl⟩ := down
  exact ⟨reason, rfl⟩

end Outside

end Dice

open Dice

theorem PoolRoll.inside {op : PoolRoll} {count size : Int}
    (admitted : op.domain.Admits count size) : (op.apply count size).NeverTurnedDown := by
  cases op with
  | plain => exact .of_errors (pool_errors_inside admitted)
  | exploding => exact .of_errors (exploding_pool_errors_inside admitted)

theorem PoolRoll.outside {op : PoolRoll} {count size : Int}
    (notAdmitted : ¬op.domain.Admits count size) : (op.apply count size).TurnedDown := by
  cases op with
  | plain => exact turned_down_of_fail (pool_outside notAdmitted)
  | exploding => exact turned_down_of_fail (exploding_pool_outside notAdmitted)

theorem DiceRoll.inside {op : DiceRoll} {count size : Int}
    (admitted : op.domain.Admits count size) : (op.apply count size).NeverTurnedDown := by
  cases op with
  | total =>
      apply Plan.NeverTurnedDown.of_errors
      exact (pool_errors_inside admitted).bind fun pool => .ofExcept (Pool.sum_fails rfl pool)
  | exploding => exact .of_errors (exploding_total_errors_inside admitted)
  | highest => exact highest_inside admitted
  | lowest => exact lowest_inside admitted
  | wild => exact .of_errors (wild_errors_inside admitted)
  | concatenated => exact concatenated_inside admitted

theorem DiceRoll.outside {op : DiceRoll} {count size : Int}
    (notAdmitted : ¬op.domain.Admits count size) : (op.apply count size).TurnedDown := by
  cases op with
  | total => exact turned_down_of_fail (turned_down_bind (pool_outside notAdmitted))
  | exploding => exact turned_down_of_fail (exploding_total_outside notAdmitted)
  | highest => exact TurnedDown.of_few_dice notAdmitted ⟨_, rfl⟩
  | lowest => exact TurnedDown.of_few_dice notAdmitted ⟨_, rfl⟩
  | wild => exact turned_down_of_fail (wild_outside notAdmitted)
  | concatenated => exact TurnedDown.of_few_dice notAdmitted ⟨_, rfl⟩

/-- Each of the eight ways to roll dice fails because of its arguments exactly outside of its
domain, as long as no limit has been passed. Whenever it fails so, nothing has changed and no die
was drawn. -/
theorem dice_turned_down_exactly [Roller σ] {context : Context σ}
    (bounded : context.rolls ≤ Budget.counterLimit) (count size : Int) :
    (∀ op : DiceRoll,
      let outcome := (op.apply count size).run context
      (context.Solvent → ((∃ reason, outcome.result = .error (.badArgument reason)) ↔
        ¬op.domain.Admits count size)) ∧
      ∀ reason, outcome.result = .error (.badArgument reason) →
        outcome.context = context ∧ (op.apply count size).facesDrawn context = []) ∧
    ∀ op : PoolRoll,
      let outcome := (op.apply count size).run context
      (context.Solvent → ((∃ reason, outcome.result = .error (.badArgument reason)) ↔
        ¬op.domain.Admits count size)) ∧
      ∀ reason, outcome.result = .error (.badArgument reason) →
        outcome.context = context ∧ (op.apply count size).facesDrawn context = [] :=
  ⟨fun op => Plan.turned_down_exactly op.inside op.outside bounded,
    fun op => Plan.turned_down_exactly op.inside op.outside bounded⟩

/-- A budget that is just used up: the highest of no dice is turned down without a trace, and so is
the largest size that a word does not hold, but not the one below it. -/
theorem dice_turned_down_exactly_used_up :
    let context : Context Replay := ⟨.ofArray #[4], ⟨some 2, 2⟩, .empty⟩
    let highest := (DiceRoll.highest.apply 0 6).run context
    context.rolls ≤ Budget.counterLimit ∧ context.Solvent ∧
      (∃ reason, highest.result = .error (.badArgument reason)) ∧ highest.context = context ∧
      (∃ reason, ((DiceRoll.wild.apply 1 4294967296).run context).result =
        .error (.badArgument reason)) ∧
      ¬∃ reason, ((DiceRoll.wild.apply 1 4294967295).run context).result =
        .error (.badArgument reason) := by
  intro context highest
  have bounded : context.rolls ≤ Budget.counterLimit := by decide
  have solvent : context.Solvent := by
    intro limit limited
    cases limited
    decide
  obtain ⟨exactly, unchanged⟩ := (dice_turned_down_exactly bounded 0 6).1 .highest
  obtain ⟨reason, failed⟩ := (exactly solvent).mpr (by decide)
  have tooLarge := ((dice_turned_down_exactly bounded 1 4294967296).1 .wild).1 solvent
  have fitting := ((dice_turned_down_exactly bounded 1 4294967295).1 .wild).1 solvent
  refine ⟨bounded, solvent, ⟨reason, failed⟩, (unchanged reason failed).1,
    tooLarge.mpr (by decide), ?_⟩
  intro down
  exact fitting.mp down (by decide)

end DiceLang

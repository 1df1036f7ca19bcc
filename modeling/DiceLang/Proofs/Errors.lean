import DiceLang.Expr.Eval
import DiceLang.Reading

/-!
# Which errors can arise where

A result that fails, and a plan that fails or is refused dice, do so with errors of certain kinds
only. Each operation is described by the kinds of errors that its caller has to allow, so the
description of an operator is put together from those of the operations that it uses.

Two facts matter later. Only refused dice are reported as too many rolls, and a fault in the
structure of a list of tokens is never an error of a roll.
-/

namespace DiceLang

set_option autoImplicit false

/-- If the result is an error, it is an allowed one. -/
def FailsOnly {ε α : Type} (allowed : ε → Prop) : Except ε α → Prop
  | .ok _ => True
  | .error error => allowed error

namespace FailsOnly

variable {ε α β : Type} {allowed : ε → Prop}

theorem bind {first : Except ε α} {next : α → Except ε β} (here : FailsOnly allowed first)
    (there : ∀ a, FailsOnly allowed (next a)) : FailsOnly allowed (first >>= next) := by
  cases first with
  | ok a => exact there a
  | error e => exact here

theorem map {first : Except ε α} (f : α → β) (here : FailsOnly allowed first) :
    FailsOnly allowed (first.map f) := by
  cases first with
  | ok a => trivial
  | error e => exact here

theorem bind_pure {first : Except ε α} {f : α → β} (here : FailsOnly allowed first) :
    FailsOnly allowed (first >>= fun a => pure (f a)) := by
  apply here.bind
  intro a
  trivial

theorem foldlM {γ : Type} {step : β → γ → Except ε β}
    (each : ∀ b c, FailsOnly allowed (step b c)) (items : List γ) (initial : β) :
    FailsOnly allowed (items.foldlM step initial) := by
  induction items generalizing initial with
  | nil => trivial
  | cons item rest ih =>
      rw [List.foldlM_cons]
      exact (each initial item).bind ih

theorem mapM {γ : Type} {f : γ → Except ε β} (each : ∀ c, FailsOnly allowed (f c))
    (items : List γ) : FailsOnly allowed (items.mapM f) := by
  induction items with
  | nil => trivial
  | cons item rest ih =>
      rw [List.mapM_cons]
      exact (each item).bind fun _ => ih.bind_pure

end FailsOnly

/-- Dice are refused with allowed refusals, and the plan fails otherwise with allowed failures. -/
def Plan.ErrorsIn {ε α : Type} (refusals failures : ε → Prop) : Plan ε α → Prop
  | done _ => True
  | fail error => failures error
  | rollMany _ _ refusal next =>
      refusals refusal ∧ ∀ faces, (next faces).ErrorsIn refusals failures
  | rollOne _ refusal next =>
      refusals refusal ∧ ∀ face, (next face).ErrorsIn refusals failures
  | note _ rest => rest.ErrorsIn refusals failures

namespace Plan.ErrorsIn

variable {ε ε' α β : Type} {refusals failures : ε → Prop} {refusals' failures' : ε' → Prop}

theorem ofExcept {result : Except ε α} (fails : FailsOnly failures result) :
    (Plan.ofExcept result).ErrorsIn refusals failures := by
  cases result with
  | ok a => trivial
  | error e => exact fails

theorem bind {plan : Plan ε α} {next : α → Plan ε β} (here : plan.ErrorsIn refusals failures)
    (there : ∀ a, (next a).ErrorsIn refusals failures) :
    (plan >>= next).ErrorsIn refusals failures := by
  induction plan with
  | done a => exact there a
  | fail e => exact here
  | rollMany die count refusal k ih => exact ⟨here.1, fun faces => ih faces (here.2 faces)⟩
  | rollOne die refusal k ih => exact ⟨here.1, fun face => ih face (here.2 face)⟩
  | note event rest ih => exact ih here

theorem bind_pure {plan : Plan ε α} {f : α → β} (here : plan.ErrorsIn refusals failures) :
    (plan >>= fun a => pure (f a)).ErrorsIn refusals failures := by
  apply here.bind
  intro a
  trivial

theorem mapError {plan : Plan ε α} (here : plan.ErrorsIn refusals failures) {f : ε → ε'}
    (refusal : ∀ error, refusals error → refusals' (f error))
    (failure : ∀ error, failures error → failures' (f error)) :
    (plan.mapError f).ErrorsIn refusals' failures' := by
  induction plan with
  | done a => trivial
  | fail e => exact failure e here
  | rollMany die count refused k ih =>
      exact ⟨refusal refused here.1, fun faces => ih faces (here.2 faces)⟩
  | rollOne die refused k ih =>
      exact ⟨refusal refused here.1, fun face => ih face (here.2 face)⟩
  | note event rest ih => exact ih here

theorem mapM {γ : Type} {f : γ → Plan ε β} (each : ∀ c, (f c).ErrorsIn refusals failures)
    (items : List γ) : (items.mapM f).ErrorsIn refusals failures := by
  induction items with
  | nil => trivial
  | cons item rest ih =>
      rw [List.mapM_cons]
      exact (each item).bind fun _ => ih.bind_pure

end Plan.ErrorsIn

section Operations

variable {allowed : RollError → Prop}

theorem Integer.checked_fails (overflow : allowed .overflow) (n : Int) :
    FailsOnly allowed (Integer.checked n) := by
  unfold Integer.checked
  split
  · trivial
  · exact overflow

theorem Integer.floor_div_fails (zero : allowed .zeroDivision) (overflow : allowed .overflow)
    (a b : Int) : FailsOnly allowed (Integer.floorDiv a b) := by
  unfold Integer.floorDiv
  split
  · exact zero
  · exact checked_fails overflow _

/-- Only a divisor of zero is reported as such. -/
theorem Integer.floor_mod_fails {a b : Int} (zero : b = 0 → allowed .zeroModulo)
    (overflow : allowed .overflow) : FailsOnly allowed (Integer.floorMod a b) := by
  unfold Integer.floorMod
  split
  · exact zero ‹_›
  · exact (checked_fails overflow _).map _

theorem Integer.power_fails (negative : allowed .negativeExponent) (overflow : allowed .overflow)
    (base exponent : Int) : FailsOnly allowed (Integer.power base exponent) := by
  unfold Integer.power
  split
  · exact negative
  · split
    · trivial
    · split
      · trivial
      · split
        · trivial
        · split
          · exact overflow
          · exact checked_fails overflow _

theorem Pool.sum_fails (overflow : allowed .overflow) (pool : Pool) :
    FailsOnly allowed pool.sum :=
  FailsOnly.foldlM (fun _ _ => Integer.checked_fails overflow _) pool 0

theorem Pool.modulo_fails {divisor : Int} (zero : divisor = 0 → allowed .zeroModulo)
    (overflow : allowed .overflow) (pool : Pool) : FailsOnly allowed (pool.modulo divisor) :=
  FailsOnly.mapM (fun _ => Integer.floor_mod_fails zero overflow) pool

theorem Pool.keep_high_fails (bad : ∀ reason, allowed (.badArgument reason)) (pool : Pool)
    (keep : Int) : FailsOnly allowed (pool.keepHigh keep) := by
  unfold Pool.keepHigh
  split
  · exact bad _
  · trivial

theorem Pool.keep_low_fails (bad : ∀ reason, allowed (.badArgument reason)) (pool : Pool)
    (keep : Int) : FailsOnly allowed (pool.keepLow keep) := by
  unfold Pool.keepLow
  split
  · exact bad _
  · trivial

theorem Pool.concatenate_fails (overflow : allowed .overflow)
    (bad : ∀ reason, allowed (.badArgument reason)) (pool : Pool) :
    FailsOnly allowed pool.concatenate := by
  unfold Pool.concatenate
  dsimp only
  split
  · exact bad _
  · split
    · trivial
    · exact overflow
    · exact bad _

theorem Choice.choose_fails (bad : ∀ reason, allowed (.badArgument reason)) (condition : Bool)
    (offered : List String) : FailsOnly allowed (Choice.choose condition offered) := by
  unfold Choice.choose
  split
  · trivial
  · exact bad _

theorem DiceMaps.qualify_fails (maps : DiceMaps) {name : String}
    (unknownMap : allowed (.unknownMap name))
    (unknownOutcome : ∀ outcome, allowed (.unknownOutcome name outcome)) (outcome : Int) :
    FailsOnly allowed (maps.qualify name outcome) := by
  unfold DiceMaps.qualify
  split
  · exact unknownMap
  · split
    · exact unknownOutcome _
    · trivial

theorem Value.as_number_fails {symbol : String}
    (wrong : ∀ side expected found, allowed (.operandKind symbol side expected found))
    (side : Side) (value : Value) : FailsOnly allowed (value.asNumber symbol side) := by
  cases value with
  | number n => trivial
  | _ => exact wrong _ _ _

theorem Value.as_boolean_fails {symbol : String}
    (wrong : ∀ side expected found, allowed (.operandKind symbol side expected found))
    (side : Side) (value : Value) : FailsOnly allowed (value.asBoolean symbol side) := by
  cases value with
  | boolean b => trivial
  | _ => exact wrong _ _ _

theorem Value.as_pool_fails {symbol : String}
    (wrong : ∀ side expected found, allowed (.operandKind symbol side expected found))
    (side : Side) (value : Value) : FailsOnly allowed (value.asPool symbol side) := by
  cases value with
  | pool members => trivial
  | _ => exact wrong _ _ _

theorem Value.as_qualifier_fails {symbol : String}
    (wrong : ∀ side expected found, allowed (.operandKind symbol side expected found))
    (side : Side) (value : Value) : FailsOnly allowed (value.asQualifier symbol side) := by
  cases value with
  | qualifier text => trivial
  | _ => exact wrong _ _ _

theorem Value.as_qualifiers_fails {symbol : String}
    (wrong : ∀ side expected found, allowed (.operandKind symbol side expected found))
    (side : Side) (value : Value) : FailsOnly allowed (value.asQualifiers symbol side) := by
  cases value with
  | qualifiers texts => trivial
  | _ => exact wrong _ _ _

end Operations

namespace Dice

variable {refusals failures : RollError → Prop} (refused : refusals .tooManyRolls)
  (overflow : failures .overflow) (bad : ∀ reason, failures (.badArgument reason))

include bad in
theorem count_of_fails (count : Int) : FailsOnly failures (countOf count) := by
  unfold countOf
  split
  · trivial
  · exact bad _

include bad in
theorem die_of_size_fails (size : Int) : FailsOnly failures (Die.ofSize size) := by
  unfold Die.ofSize
  split
  · trivial
  · exact bad _

include refused bad in
theorem pool_errors (count size : Int) : (pool count size).ErrorsIn refusals failures := by
  apply (Plan.ErrorsIn.ofExcept (count_of_fails bad count)).bind
  intro number
  apply (Plan.ErrorsIn.ofExcept (die_of_size_fails bad size)).bind
  intro die
  exact ⟨refused, fun faces => trivial⟩

include refused overflow in
theorem explode_errors (die : Die) (total : Int) :
    (explode die total).ErrorsIn refusals failures := by
  induction total using explode.induct die with
  | case1 total ih =>
      rw [explode]
      refine ⟨refused, fun face => ?_⟩
      dsimp only
      split
      · rename_i fits
        split
        · rename_i greatest
          exact ih face fits greatest
        · trivial
      · exact overflow

include refused overflow in
theorem settle_errors (die : Die) (first : Int) :
    (settle die first).ErrorsIn refusals failures := by
  unfold settle
  split
  · exact explode_errors refused overflow die first
  · trivial

include refused overflow bad

theorem exploding_pool_errors (count size : Int) :
    (explodingPool count size).ErrorsIn refusals failures := by
  unfold explodingPool
  split
  · exact bad _
  · apply (Plan.ErrorsIn.ofExcept (die_of_size_fails bad size)).bind
    intro die
    apply (pool_errors refused bad count size).bind
    intro first
    exact (Plan.ErrorsIn.mapM (settle_errors refused overflow die) first).bind fun _ => trivial

theorem total_errors (count size : Int) : (total count size).ErrorsIn refusals failures :=
  (pool_errors refused bad count size).bind fun pool =>
    .ofExcept (Pool.sum_fails overflow pool)

theorem exploding_total_errors (count size : Int) :
    (explodingTotal count size).ErrorsIn refusals failures :=
  (exploding_pool_errors refused overflow bad count size).bind fun pool =>
    .ofExcept (Pool.sum_fails overflow pool)

omit overflow in
theorem highest_errors (count size : Int) : (highest count size).ErrorsIn refusals failures := by
  apply (pool_errors refused bad count size).bind
  intro pool
  split
  · trivial
  · exact bad _

omit overflow in
theorem lowest_errors (count size : Int) : (lowest count size).ErrorsIn refusals failures := by
  apply (pool_errors refused bad count size).bind
  intro pool
  split
  · trivial
  · exact bad _

theorem wild_errors (count size : Int) : (wild count size).ErrorsIn refusals failures := by
  unfold wild
  split
  · exact bad _
  · apply (exploding_total_errors refused overflow bad 1 size).bind
    intro wild
    apply (pool_errors refused bad (count - 1) size).bind
    intro regular
    split
    · trivial
    · apply (Plan.ErrorsIn.ofExcept (Pool.sum_fails overflow regular)).bind
      intro rest
      exact .ofExcept (Integer.checked_fails overflow _)

/-- The last digits are remainders by ten, so no divisor is zero here. -/
theorem concatenated_errors (count size : Int) :
    (concatenated count size).ErrorsIn refusals failures := by
  apply (pool_errors refused bad count size).bind
  intro pool
  have notZero : (10 : Int) = 0 → failures .zeroModulo := fun zero => absurd zero (by decide)
  apply (Plan.ErrorsIn.ofExcept (Pool.modulo_fails notZero overflow pool)).bind
  intro digits
  exact .ofExcept (Pool.concatenate_fails overflow bad digits)

end Dice

section Operators

variable {refusals allowed : RollError → Prop}

theorem Additive.apply_fails (overflow : allowed .overflow) (op : Additive) (a b : Int) :
    FailsOnly allowed (op.apply a b) := by
  cases op with
  | add => exact Integer.checked_fails overflow _
  | subtract => exact Integer.checked_fails overflow _

theorem Multiplicative.apply_fails {op : Multiplicative}
    (division : op = .divide → allowed .zeroDivision)
    (modulo : op = .modulo → allowed .zeroModulo) (overflow : allowed .overflow) (a b : Int) :
    FailsOnly allowed (op.apply a b) := by
  cases op with
  | multiply => exact Integer.checked_fails overflow _
  | divide => exact Integer.floor_div_fails (division rfl) overflow a b
  | modulo => exact Integer.floor_mod_fails (fun _ => modulo rfl) overflow

/-- One face of many always fits; whatever is put together from several faces may not. -/
theorem DiceRoll.apply_errors {op : DiceRoll} (refused : refusals .tooManyRolls)
    (overflow : op ≠ .highest → op ≠ .lowest → allowed .overflow)
    (bad : ∀ reason, allowed (.badArgument reason)) (count size : Int) :
    (op.apply count size).ErrorsIn refusals allowed := by
  cases op with
  | total => exact Dice.total_errors refused (overflow nofun nofun) bad count size
  | exploding => exact Dice.exploding_total_errors refused (overflow nofun nofun) bad count size
  | highest => exact Dice.highest_errors refused bad count size
  | lowest => exact Dice.lowest_errors refused bad count size
  | wild => exact Dice.wild_errors refused (overflow nofun nofun) bad count size
  | concatenated => exact Dice.concatenated_errors refused (overflow nofun nofun) bad count size

theorem PoolRoll.apply_errors {op : PoolRoll} (refused : refusals .tooManyRolls)
    (overflow : op = .exploding → allowed .overflow)
    (bad : ∀ reason, allowed (.badArgument reason)) (count size : Int) :
    (op.apply count size).ErrorsIn refusals allowed := by
  cases op with
  | plain => exact Dice.pool_errors refused bad count size
  | exploding => exact Dice.exploding_pool_errors refused (overflow rfl) bad count size

theorem PoolChange.apply_fails {op : PoolChange} (modulo : op = .modulo → allowed .zeroModulo)
    (overflow : op = .modulo → allowed .overflow)
    (bad : op = .keepHigh ∨ op = .keepLow → ∀ reason, allowed (.badArgument reason)) (pool : Pool)
    (x : Int) : FailsOnly allowed (op.apply pool x) := by
  cases op with
  | keepHigh => exact Pool.keep_high_fails (bad (.inl rfl)) pool x
  | keepLow => exact Pool.keep_low_fails (bad (.inr rfl)) pool x
  | modulo => exact Pool.modulo_fails (fun _ => modulo rfl) (overflow rfl) pool
  | _ => trivial

theorem Summary.apply_to_pool_fails {op : Summary} (overflow : op ≠ .count → allowed .overflow)
    (bad : op = .concatenate → ∀ reason, allowed (.badArgument reason)) (pool : Pool) :
    FailsOnly allowed (op.applyToPool pool) := by
  cases op with
  | concatenate => exact Pool.concatenate_fails (overflow nofun) (bad rfl) pool
  | count => trivial
  | sum => exact Pool.sum_fails (overflow nofun) pool

end Operators

namespace BinaryOperator

/-- The operators whose exact result may lie outside of the numbers. -/
def MayOverflow : BinaryOperator → Prop
  | additive _ | multiplicative _ | power => True
  | dice op => op ≠ .highest ∧ op ≠ .lowest
  | poolGeneration op => op = .exploding
  | pool op => op = .modulo
  | comparison _ | options | choice | tally _ | mapping => False

/-- The operators that can do nothing with some operands of the right kind. -/
def MayRefuse : BinaryOperator → Prop
  | choice | dice _ | poolGeneration _ => True
  | pool op => op = .keepHigh ∨ op = .keepLow
  | additive _ | multiplicative _ | power | comparison _ | options | tally _ | mapping => False

/-- The failures of each operator. Refused dice are not among them. -/
def Failure (op : BinaryOperator) : RollError → Prop
  | .tooManyRolls => False
  | .zeroDivision => op = .multiplicative .divide
  | .zeroModulo => op = .multiplicative .modulo ∨ op = .pool .modulo
  | .overflow => op.MayOverflow
  | .negativeExponent => op = .power
  | .operandKind symbol _ _ _ => symbol = op.symbol
  | .unknownMap _ => op = .mapping
  | .unknownOutcome _ _ => op = .mapping
  | .badArgument _ => op.MayRefuse

/-- The operators that ask for dice. -/
def RollsDice (op : BinaryOperator) : Prop :=
  op.operatorClass = .dice ∨ op.operatorClass = .poolGeneration

/-- How each operator can be refused dice. -/
def Refusal (op : BinaryOperator) (error : RollError) : Prop :=
  error = .tooManyRolls ∧ op.RollsDice

theorem wrong_operand (op : BinaryOperator) (side : Side) (expected found : ValueKind) :
    op.Failure (.operandKind op.symbol side expected found) :=
  rfl

variable (lhs rhs : Value) {α : Type}

theorem number_operands_fail (op : BinaryOperator) {next : Int → Int → Except RollError α}
    (fails : ∀ a b, FailsOnly op.Failure (next a b)) :
    FailsOnly op.Failure (do
      let a ← lhs.asNumber op.symbol .left
      let b ← rhs.asNumber op.symbol .right
      next a b) :=
  (Value.as_number_fails op.wrong_operand .left lhs).bind fun a =>
    (Value.as_number_fails op.wrong_operand .right rhs).bind fun b => fails a b

theorem pool_operands_fail (op : BinaryOperator) {next : Pool → Int → Except RollError α}
    (fails : ∀ members x, FailsOnly op.Failure (next members x)) :
    FailsOnly op.Failure (do
      let members ← lhs.asPool op.symbol .left
      let x ← rhs.asNumber op.symbol .right
      next members x) :=
  (Value.as_pool_fails op.wrong_operand .left lhs).bind fun members =>
    (Value.as_number_fails op.wrong_operand .right rhs).bind fun x => fails members x

theorem dice_operands_errors (op : BinaryOperator) {next : Int → Int → Plan RollError α}
    (errors : ∀ count size, (next count size).ErrorsIn op.Refusal op.Failure) :
    (do
      let count ← Plan.ofExcept (lhs.asNumber op.symbol .left)
      let size ← Plan.ofExcept (rhs.asNumber op.symbol .right)
      next count size).ErrorsIn op.Refusal op.Failure :=
  (Plan.ErrorsIn.ofExcept (Value.as_number_fails op.wrong_operand .left lhs)).bind fun count =>
    (Plan.ErrorsIn.ofExcept (Value.as_number_fails op.wrong_operand .right rhs)).bind
      fun size => errors count size

theorem apply_errors (maps : DiceMaps) (op : BinaryOperator) :
    (op.apply maps lhs rhs).ErrorsIn op.Refusal op.Failure := by
  cases op with
  | additive op =>
      apply Plan.ErrorsIn.ofExcept
      apply number_operands_fail lhs rhs
      intro a b
      exact (op.apply_fails trivial a b).bind_pure
  | multiplicative op =>
      apply Plan.ErrorsIn.ofExcept
      apply number_operands_fail lhs rhs
      intro a b
      have division (same : op = .divide) :
          (BinaryOperator.multiplicative op).Failure .zeroDivision := congrArg _ same
      have modulo (same : op = .modulo) :
          (BinaryOperator.multiplicative op).Failure .zeroModulo := .inl (congrArg _ same)
      exact (Multiplicative.apply_fails division modulo trivial a b).bind_pure
  | power =>
      apply Plan.ErrorsIn.ofExcept
      apply number_operands_fail lhs rhs
      intro base exponent
      have negative : BinaryOperator.power.Failure .negativeExponent := rfl
      exact (Integer.power_fails negative trivial base exponent).bind_pure
  | comparison op =>
      exact .ofExcept (number_operands_fail lhs rhs _ fun a b => trivial)
  | options =>
      apply Plan.ErrorsIn.ofExcept
      apply (Value.as_qualifier_fails (wrong_operand _) .left lhs).bind
      intro first
      exact (Value.as_qualifier_fails (wrong_operand _) .right rhs).bind_pure
  | choice =>
      apply Plan.ErrorsIn.ofExcept
      apply (Value.as_boolean_fails (wrong_operand _) .left lhs).bind
      intro condition
      apply (Value.as_qualifiers_fails (wrong_operand _) .right rhs).bind
      intro offered
      exact (Choice.choose_fails (fun _ => trivial) condition offered).bind_pure
  | dice op =>
      apply dice_operands_errors lhs rhs
      intro count size
      have refused : (BinaryOperator.dice op).Refusal .tooManyRolls := ⟨rfl, .inl rfl⟩
      have overflow (notHighest : op ≠ .highest) (notLowest : op ≠ .lowest) :
          (BinaryOperator.dice op).Failure .overflow := ⟨notHighest, notLowest⟩
      exact (DiceRoll.apply_errors refused overflow (fun _ => trivial) count size).bind_pure
  | poolGeneration op =>
      apply dice_operands_errors lhs rhs
      intro count size
      have refused : (BinaryOperator.poolGeneration op).Refusal .tooManyRolls :=
        ⟨rfl, .inr rfl⟩
      have overflow (exploding : op = .exploding) :
          (BinaryOperator.poolGeneration op).Failure .overflow := exploding
      exact (PoolRoll.apply_errors refused overflow (fun _ => trivial) count size).bind_pure
  | pool op =>
      apply Plan.ErrorsIn.ofExcept
      apply pool_operands_fail lhs rhs
      intro members x
      have modulo (same : op = .modulo) : (BinaryOperator.pool op).Failure .zeroModulo :=
        .inr (congrArg _ same)
      have overflow (same : op = .modulo) : (BinaryOperator.pool op).Failure .overflow := same
      have bad (keeps : op = .keepHigh ∨ op = .keepLow) (reason : BadArgument) :
          (BinaryOperator.pool op).Failure (.badArgument reason) := keeps
      exact (PoolChange.apply_fails modulo overflow bad members x).bind_pure
  | tally op =>
      exact .ofExcept (pool_operands_fail lhs rhs _ fun members target => trivial)
  | mapping =>
      apply Plan.ErrorsIn.ofExcept
      apply (Value.as_qualifier_fails (wrong_operand _) .right rhs).bind
      intro name
      have unknown : BinaryOperator.mapping.Failure (.unknownMap name) := rfl
      have qualified := maps.qualify_fails unknown fun _ => rfl
      cases lhs with
      | number outcome => exact (qualified outcome).map _
      | pool members => exact (FailsOnly.mapM qualified members).map _
      | _ => exact rfl

end BinaryOperator

namespace Summary

def Failure (op : Summary) : RollError → Prop
  | .overflow => op ≠ .count
  | .operandKind symbol _ _ _ => symbol = op.symbol
  | .badArgument _ => op = .concatenate
  | _ => False

theorem apply_fails (op : Summary) (operand : Value) : FailsOnly op.Failure (op.apply operand) := by
  apply (Value.as_pool_fails (fun _ _ _ => rfl) .right operand).bind
  intro members
  have overflow (notCount : op ≠ .count) : op.Failure .overflow := notCount
  have bad (same : op = .concatenate) (reason : BadArgument) :
      op.Failure (.badArgument reason) := same
  exact (apply_to_pool_fails overflow bad members).bind_pure

end Summary

namespace ReadError

def IsTooManyRolls (error : ReadError) : Prop :=
  error.problem = .roll .tooManyRolls

/-- An expression was refused dice at one of its operators. -/
def IsRefusal (error : ReadError) : Prop :=
  ∃ position, error = Expr.failureAt position .tooManyRolls

theorem IsRefusal.is_too_many_rolls {error : ReadError} (refused : error.IsRefusal) :
    error.IsTooManyRolls := by
  obtain ⟨position, rfl⟩ := refused
  rfl

end ReadError

theorem Expr.eval_errors (maps : DiceMaps) (expr : Expr) :
    (expr.eval maps).ErrorsIn ReadError.IsRefusal fun error => ¬error.IsTooManyRolls := by
  induction expr with
  | literal l => trivial
  | group inner ih => exact ih
  | unary op position operand ih =>
      apply ih.bind
      intro value
      have errors : (Plan.ofExcept (op.apply value)).ErrorsIn (fun _ => False) op.Failure :=
        .ofExcept (op.apply_fails value)
      apply errors.mapError
      · intro error impossible
        exact impossible.elim
      · intro error failure same
        cases Problem.roll.inj same
        exact failure
  | binary op position lhs rhs lhsIh rhsIh =>
      apply lhsIh.bind
      intro left
      apply rhsIh.bind
      intro right
      apply Plan.ErrorsIn.bind
      · apply (op.apply_errors left right maps).mapError
        · intro error refusal
          exact ⟨position, congrArg (failureAt position) refusal.1⟩
        · intro error failure same
          cases Problem.roll.inj same
          exact failure
      · intro value
        trivial

/-- A fault in the structure of a list has nothing to do with what its rolls give. -/
def ReadError.IsStructural (error : ReadError) : Prop :=
  ∀ rollError, error.problem ≠ .roll rollError

/-- The token at `position` cannot stand where it stands. -/
def ReadError.RefusesToken (position : Nat) (error : ReadError) : Prop :=
  error.position = position ∧
    match error.problem with
    | .badStart | .unexpectedToken _ _ | .unknownOperator _ _ | .mapNotAlone => True
    | .emptyStream | .unexpectedEnd _ | .unclosedGroup | .roll _ => False

theorem ReadError.RefusesToken.is_structural {position : Nat} {error : ReadError}
    (refuses : error.RefusesToken position) : error.IsStructural := by
  intro rollError same
  have isRefusal := refuses.2
  rw [same] at isRefusal
  exact isRefusal

namespace Reader

theorem take_operand_fails (stack : List Frame) (position : Nat) (token : Token) :
    FailsOnly (ReadError.RefusesToken position) (takeOperand stack position token) := by
  unfold takeOperand
  dsimp only
  split
  · trivial
  · trivial
  · split
    · split
      · trivial
      · exact ⟨rfl, trivial⟩
    · exact ⟨rfl, trivial⟩
  · exact ⟨rfl, trivial⟩
  · exact ⟨rfl, trivial⟩

theorem take_operator_fails (stack : List Frame) (expr : Expr) (position : Nat)
    (operatorClass : OperatorClass) (symbol : String) :
    FailsOnly (ReadError.RefusesToken position)
      (takeOperator stack expr position operatorClass symbol) := by
  unfold takeOperator
  split
  · trivial
  · exact ⟨rfl, trivial⟩

theorem take_end_fails (stack : List Frame) (expr : Expr) (position : Nat) (token : Token) :
    FailsOnly (ReadError.RefusesToken position) (takeEnd stack expr position token) := by
  unfold takeEnd
  dsimp only
  split
  · trivial
  · exact ⟨rfl, trivial⟩
  · trivial
  · exact ⟨rfl, trivial⟩

theorem take_start_fails (reader : Reader) (position : Nat) (token : Token) :
    FailsOnly (ReadError.RefusesToken position) (reader.takeStart position token) := by
  unfold takeStart
  split
  · trivial
  · trivial
  · split
    · exact take_operand_fails [] position token
    · exact ⟨rfl, trivial⟩

theorem step_fails (reader : Reader) (position : Nat) (token : Token) :
    FailsOnly (ReadError.RefusesToken position) (reader.step position token) := by
  cases reader with
  | start => exact (take_start_fails start position token).map _
  | between => exact (take_start_fails between position token).map _
  | map name diceMap =>
      cases token with
      | delimiter => trivial
      | _ => exact ⟨rfl, trivial⟩
  | wanting stack => exact (take_operand_fails stack position token).map _
  | holding stack expr =>
      unfold step
      dsimp only
      split
      · exact take_end_fails stack expr position _
      · exact (take_operator_fails stack expr position _ _).map _
      · exact take_end_fails stack expr position token

theorem finish_fails (reader : Reader) (length : Nat) :
    FailsOnly ReadError.IsStructural (reader.finish length) := by
  cases reader with
  | start => trivial
  | between => trivial
  | map name diceMap => trivial
  | wanting stack => exact nofun
  | holding stack expr =>
      unfold finish
      dsimp only
      split
      · exact nofun
      · trivial

end Reader

namespace Reading

variable {tokens : List Token} {reader : Reader} {position : Nat} {fault : ReadError}

theorem go_on_fault_cases (found : (goOn reader position tokens).fault = some fault) :
    (∃ index, position ≤ index ∧ fault.RefusesToken index) ∨
      ∃ (last : Reader) (length : Nat), last.finish length = .error fault := by
  induction tokens generalizing reader position with
  | nil =>
      rw [goOn] at found
      split at found
      · cases found
      · rename_i error finished
        cases found
        exact .inr ⟨reader, position, finished⟩
  | cons token rest ih =>
      have fails := reader.step_fails position token
      rw [goOn] at found
      split at found
      · rcases ih found with ⟨index, later, refuses⟩ | ended
        · exact .inl ⟨index, by omega, refuses⟩
        · exact .inr ended
      · rename_i error taken
        rw [taken] at fails
        cases found
        exact .inl ⟨position, Nat.le_refl position, fails⟩

theorem go_on_fault_structural (found : (goOn reader position tokens).fault = some fault) :
    fault.IsStructural := by
  rcases go_on_fault_cases found with ⟨index, _, refuses⟩ | ⟨last, length, finished⟩
  · exact refuses.is_structural
  · have fails := last.finish_fails length
    rw [finished] at fails
    exact fails

end Reading

end DiceLang

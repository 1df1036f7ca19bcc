import DiceLang.Dice
import DiceLang.Operator

/-!
# What operators do

To `apply` an operator is to look at its operands and to hand what they hold to the operation of
that name: each operator wants operands of certain kinds, two numbers (`ints`), a pool and a number
(`pool_and_int`), or the pair that its class names. The left operand is looked at before the right
one, except in a mapping, which first wants to know its map and then asks it (`lookup`) for every
outcome. A condition chooses (`choice`) between two qualifiers, which are offered as a tuple
(`choice_options`).
-/

namespace DiceLang

set_option autoImplicit false

open Plan (ofExcept)

namespace Value

def asNumber (symbol : String) (side : Side) : Value → Except RollError Int
  | number n => .ok n
  | other => .error (.operandKind symbol side .number other.kind)

def asBoolean (symbol : String) (side : Side) : Value → Except RollError Bool
  | boolean b => .ok b
  | other => .error (.operandKind symbol side .boolean other.kind)

def asPool (symbol : String) (side : Side) : Value → Except RollError Pool
  | pool members => .ok members
  | other => .error (.operandKind symbol side .pool other.kind)

def asQualifier (symbol : String) (side : Side) : Value → Except RollError String
  | qualifier text => .ok text
  | other => .error (.operandKind symbol side .qualifier other.kind)

def asQualifiers (symbol : String) (side : Side) : Value → Except RollError (List String)
  | qualifiers texts => .ok texts
  | other => .error (.operandKind symbol side .qualifiers other.kind)

end Value

namespace Choice

def options (onTrue onFalse : String) : List String :=
  [onTrue, onFalse]

/-- The first option answers a true condition, the second a false one. -/
def choose (condition : Bool) : List String → Except RollError String
  | [onTrue, onFalse] => .ok (if condition then onTrue else onFalse)
  | offered => .error (.badArgument (.optionCount offered.length))

end Choice

/-- The qualifier that the named map gives to an outcome. -/
def DiceMaps.qualify (maps : DiceMaps) (name : String) (outcome : Int) :
    Except RollError String :=
  match maps.get? name with
  | none => .error (.unknownMap name)
  | some map =>
      match map.get? outcome with
      | none => .error (.unknownOutcome name outcome)
      | some qualifier => .ok qualifier

def Additive.apply : Additive → Int → Int → Except RollError Int
  | add, a, b => Integer.checked (a + b)
  | subtract, a, b => Integer.checked (a - b)

def Multiplicative.apply : Multiplicative → Int → Int → Except RollError Int
  | multiply, a, b => Integer.checked (a * b)
  | divide, a, b => Integer.floorDiv a b
  | modulo, a, b => Integer.floorMod a b

def Comparison.apply : Comparison → Int → Int → Bool
  | greater, a, b => b < a
  | less, a, b => a < b
  | atLeast, a, b => b ≤ a
  | atMost, a, b => a ≤ b
  | equal, a, b => a = b
  | different, a, b => a ≠ b

def DiceRoll.apply : DiceRoll → Int → Int → Plan RollError Int
  | total, count, size => Dice.total count size
  | exploding, count, size => Dice.explodingTotal count size
  | highest, count, size => Dice.highest count size
  | lowest, count, size => Dice.lowest count size
  | wild, count, size => Dice.wild count size
  | concatenated, count, size => Dice.concatenated count size

def PoolRoll.apply : PoolRoll → Int → Int → Plan RollError Pool
  | plain, count, size => Dice.pool count size
  | exploding, count, size => Dice.explodingPool count size

def PoolChange.apply : PoolChange → Pool → Int → Except RollError Pool
  | keepAbove, pool, x => .ok (pool.keepAbove x)
  | keepBelow, pool, x => .ok (pool.keepBelow x)
  | cap, pool, x => .ok (pool.cap x)
  | floor, pool, x => .ok (pool.floor x)
  | keepHigh, pool, x => pool.keepHigh x
  | keepLow, pool, x => pool.keepLow x
  | modulo, pool, x => pool.modulo x
  | remove, pool, x => .ok (pool.remove x)

def Tally.apply : Tally → Pool → Int → Int
  | successes, pool, target => pool.successes target
  | successesLessBotches, pool, target => pool.successesLessBotches target

/-- A number is mapped to its qualifier and a pool to the tuple of its members' qualifiers, so a
pool without members asks the map nothing. -/
def DiceMaps.apply (maps : DiceMaps) (symbol : String) (operand : Value) (name : String) :
    Except RollError Value :=
  match operand with
  | .number outcome => (maps.qualify name outcome).map .qualifier
  | .pool members => (members.mapM (maps.qualify name)).map .qualifiers
  | other => .error (.operandKind symbol .left .number other.kind)

namespace BinaryOperator

def apply (maps : DiceMaps) (op : BinaryOperator) (lhs rhs : Value) : Plan RollError Value :=
  match op with
  | additive op' => ofExcept do
      let a ← lhs.asNumber op.symbol .left
      let b ← rhs.asNumber op.symbol .right
      return .number (← op'.apply a b)
  | multiplicative op' => ofExcept do
      let a ← lhs.asNumber op.symbol .left
      let b ← rhs.asNumber op.symbol .right
      return .number (← op'.apply a b)
  | power => ofExcept do
      let base ← lhs.asNumber op.symbol .left
      let exponent ← rhs.asNumber op.symbol .right
      return .number (← Integer.power base exponent)
  | comparison op' => ofExcept do
      let a ← lhs.asNumber op.symbol .left
      let b ← rhs.asNumber op.symbol .right
      return .boolean (op'.apply a b)
  | options => ofExcept do
      let first ← lhs.asQualifier op.symbol .left
      let second ← rhs.asQualifier op.symbol .right
      return .qualifiers (Choice.options first second)
  | choice => ofExcept do
      let condition ← lhs.asBoolean op.symbol .left
      let offered ← rhs.asQualifiers op.symbol .right
      return .qualifier (← Choice.choose condition offered)
  | dice op' => do
      let count ← ofExcept (lhs.asNumber op.symbol .left)
      let size ← ofExcept (rhs.asNumber op.symbol .right)
      return .number (← op'.apply count size)
  | poolGeneration op' => do
      let count ← ofExcept (lhs.asNumber op.symbol .left)
      let size ← ofExcept (rhs.asNumber op.symbol .right)
      return .pool (← op'.apply count size)
  | pool op' => ofExcept do
      let members ← lhs.asPool op.symbol .left
      let x ← rhs.asNumber op.symbol .right
      return .pool (← op'.apply members x)
  | tally op' => ofExcept do
      let members ← lhs.asPool op.symbol .left
      let target ← rhs.asNumber op.symbol .right
      return .number (op'.apply members target)
  | mapping => ofExcept do
      let name ← rhs.asQualifier op.symbol .right
      maps.apply op.symbol lhs name

end BinaryOperator

namespace Summary

def applyToPool : Summary → Pool → Except RollError Int
  | concatenate, pool => pool.concatenate
  | count, pool => .ok pool.count
  | sum, pool => pool.sum

def apply (op : Summary) (operand : Value) : Except RollError Value := do
  let members ← operand.asPool op.symbol .right
  return .number (← op.applyToPool members)

end Summary

end DiceLang

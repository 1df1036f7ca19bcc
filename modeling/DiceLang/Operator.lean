/-!
# Operators

Operators fall into classes, and a symbol means something only within its class: `ph` keeps the
highest members of a pool as a pool operator and is unknown elsewhere. Every class but one holds
binary operators; the summaries stand in front of a single pool. Classes differ in how tightly
they bind, and all operators of a class bind alike.
-/

namespace DiceLang

set_option autoImplicit false

inductive OperatorClass where
  | additive
  | multiplicative
  | exponent
  | comparison
  | choice
  | options
  | dice
  | poolGeneration
  | pool
  | summary
  | tally
  | mapping
  deriving DecidableEq, Repr

/-- How tightly the operators of a class hold on to their operands, from the loosest up. -/
def OperatorClass.level : OperatorClass → Nat
  | mapping => 0
  | choice => 1
  | options => 2
  | comparison => 3
  | additive => 4
  | multiplicative => 5
  | exponent => 6
  | dice => 7
  | tally => 8
  | summary => 9
  | pool => 10
  | poolGeneration => 11

inductive Additive where
  | add
  | subtract
  deriving DecidableEq, Repr

inductive Multiplicative where
  | multiply
  | divide
  | modulo
  deriving DecidableEq, Repr

inductive Comparison where
  | greater
  | less
  | atLeast
  | atMost
  | equal
  | different
  deriving DecidableEq, Repr

/-- Ways to turn freshly rolled dice into one number. -/
inductive DiceRoll where
  | total
  | exploding
  | highest
  | lowest
  | wild
  | concatenated
  deriving DecidableEq, Repr

/-- Ways to roll a pool. -/
inductive PoolRoll where
  | plain
  | exploding
  deriving DecidableEq, Repr

/-- Ways to make one pool from another. -/
inductive PoolChange where
  | keepAbove
  | keepBelow
  | cap
  | floor
  | keepHigh
  | keepLow
  | modulo
  | remove
  deriving DecidableEq, Repr

/-- Ways to count the successes in a pool. -/
inductive Tally where
  | successes
  | successesLessBotches
  deriving DecidableEq, Repr

inductive BinaryOperator where
  | additive (op : Additive)
  | multiplicative (op : Multiplicative)
  | power
  | comparison (op : Comparison)
  | options
  | choice
  | dice (op : DiceRoll)
  | poolGeneration (op : PoolRoll)
  | pool (op : PoolChange)
  | tally (op : Tally)
  | mapping
  deriving DecidableEq, Repr

namespace BinaryOperator

def operatorClass : BinaryOperator → OperatorClass
  | additive _ => .additive
  | multiplicative _ => .multiplicative
  | power => .exponent
  | comparison _ => .comparison
  | options => .options
  | choice => .choice
  | dice _ => .dice
  | poolGeneration _ => .poolGeneration
  | pool _ => .pool
  | tally _ => .tally
  | mapping => .mapping

def symbol : BinaryOperator → String
  | additive .add => "+"
  | additive .subtract => "-"
  | multiplicative .multiply => "*"
  | multiplicative .divide => "/"
  | multiplicative .modulo => "%"
  | power => "^"
  | comparison .greater => ">"
  | comparison .less => "<"
  | comparison .atLeast => ">="
  | comparison .atMost => "<="
  | comparison .equal => "=="
  | comparison .different => "!="
  | options => ":"
  | choice => "?"
  | dice .total => "d"
  | dice .exploding => "d!"
  | dice .highest => "dh"
  | dice .lowest => "dl"
  | dice .wild => "dw"
  | dice .concatenated => "dc"
  | poolGeneration .plain => "g"
  | poolGeneration .exploding => "g!"
  | pool .keepAbove => "pa"
  | pool .keepBelow => "pb"
  | pool .cap => "pc"
  | pool .floor => "pf"
  | pool .keepHigh => "ph"
  | pool .keepLow => "pl"
  | pool .modulo => "p%"
  | pool .remove => "pr"
  | tally .successes => "ns"
  | tally .successesLessBotches => "nb"
  | mapping => "m"

/-- The binary operators of a class, in the order in which they are listed. -/
def ofClass : OperatorClass → List BinaryOperator
  | .additive => [additive .add, additive .subtract]
  | .multiplicative =>
      [multiplicative .multiply, multiplicative .divide, multiplicative .modulo]
  | .exponent => [power]
  | .comparison =>
      [comparison .greater, comparison .less, comparison .atLeast, comparison .atMost,
        comparison .equal, comparison .different]
  | .choice => [choice]
  | .options => [options]
  | .dice =>
      [dice .total, dice .exploding, dice .highest, dice .lowest, dice .wild,
        dice .concatenated]
  | .poolGeneration => [poolGeneration .plain, poolGeneration .exploding]
  | .pool =>
      [pool .keepAbove, pool .keepBelow, pool .cap, pool .floor, pool .keepHigh,
        pool .keepLow, pool .modulo, pool .remove]
  | .summary => []
  | .tally => [tally .successes, tally .successesLessBotches]
  | .mapping => [mapping]

def lookup? (operatorClass : OperatorClass) (symbol : String) : Option BinaryOperator :=
  (ofClass operatorClass).find? fun op => op.symbol = symbol

def level (op : BinaryOperator) : Nat :=
  op.operatorClass.level

theorem lookup?_eq_some_iff {operatorClass : OperatorClass} {symbol : String}
    {op : BinaryOperator} :
    lookup? operatorClass symbol = some op ↔
      op.operatorClass = operatorClass ∧ op.symbol = symbol := by
  constructor
  · intro found
    have member := List.mem_of_find?_eq_some found
    have sameSymbol := List.find?_some found
    refine ⟨?_, by simpa using sameSymbol⟩
    cases operatorClass <;> simp [ofClass] at member <;> grind [BinaryOperator.operatorClass]
  · rintro ⟨rfl, rfl⟩
    cases op with
    | additive op | multiplicative op | comparison op | dice op | poolGeneration op | pool op
    | tally op => cases op <;> decide
    | power | options | choice | mapping => decide

end BinaryOperator

/-- Ways to reduce a pool to one number, written in front of the pool. -/
inductive Summary where
  | concatenate
  | count
  | sum
  deriving DecidableEq, Repr

namespace Summary

def all : List Summary := [concatenate, count, sum]

def symbol : Summary → String
  | concatenate => "C"
  | count => "N"
  | sum => "S"

def lookup? (symbol : String) : Option Summary :=
  all.find? fun op => op.symbol = symbol

theorem lookup?_eq_some_iff {symbol : String} {op : Summary} :
    lookup? symbol = some op ↔ op.symbol = symbol := by
  constructor
  · intro found
    simpa using List.find?_some found
  · rintro rfl
    cases op <;> decide

end Summary

end DiceLang

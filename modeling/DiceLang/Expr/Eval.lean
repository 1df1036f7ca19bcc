import DiceLang.Expr
import DiceLang.Operator.Apply

/-!
# Evaluation

Operands are evaluated from left to right, so the dice to the left of an operator are rolled
first. A failing operation is located at its operator. Evaluation (`eval`) consults the dice maps
but never changes them.

The kind of value that an expression gives can be told from its literals and operator classes
alone. An expression without a static kind applies some operator to operands of a kind that the
operator does not take.
-/

namespace DiceLang

set_option autoImplicit false

namespace Expr

def failureAt (position : Nat) (error : RollError) : ReadError :=
  ⟨.roll error, .ended, position⟩

def eval (maps : DiceMaps) : Expr → Plan ReadError Value
  | literal l => .done l.value
  | group inner => inner.eval maps
  | unary op position operand => do
      let value ← operand.eval maps
      (Plan.ofExcept (op.apply value)).mapError (failureAt position)
  | binary op position lhs rhs => do
      let left ← lhs.eval maps
      let right ← rhs.eval maps
      let result ← (op.apply maps left right).mapError (failureAt position)
      Plan.log (.applied position op result)
      return result

end Expr

def Literal.kind : Literal → ValueKind
  | number _ => .number
  | boolean _ => .boolean
  | pool _ => .pool
  | qualifier _ => .qualifier

/-- The kind that the operators of a class give for operands of two kinds. -/
def OperatorClass.resultKind : OperatorClass → ValueKind → ValueKind → Option ValueKind
  | additive, .number, .number => some .number
  | multiplicative, .number, .number => some .number
  | exponent, .number, .number => some .number
  | comparison, .number, .number => some .boolean
  | options, .qualifier, .qualifier => some .qualifiers
  | choice, .boolean, .qualifiers => some .qualifier
  | dice, .number, .number => some .number
  | poolGeneration, .number, .number => some .pool
  | pool, .pool, .number => some .pool
  | tally, .pool, .number => some .number
  | mapping, .number, .qualifier => some .qualifier
  | mapping, .pool, .qualifier => some .qualifiers
  | _, _, _ => none

def Expr.staticKind : Expr → Option ValueKind
  | literal l => some l.kind
  | group inner => inner.staticKind
  | unary _ _ operand => if operand.staticKind = some .pool then some .number else none
  | binary op _ lhs rhs => do
      op.operatorClass.resultKind (← lhs.staticKind) (← rhs.staticKind)

end DiceLang

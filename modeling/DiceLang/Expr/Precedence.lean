import DiceLang.Expr

/-!
# Precedence

Each expression binds as tightly as its outermost operator; literals and groups bind tighter than
any operator. An expression respects precedence if no operator takes an operand that would have
needed a group: the left operand of a binary operator binds at least as tightly as the operator,
the right operand binds tighter, and the operand of a summary binds at least as tightly as
summaries do.
-/

namespace DiceLang

set_option autoImplicit false

namespace Expr

def primaryLevel : Nat := 12

def level : Expr → Nat
  | literal _ => primaryLevel
  | group _ => primaryLevel
  | unary _ _ _ => OperatorClass.summary.level
  | binary op _ _ _ => op.level

def RespectsPrecedence : Expr → Prop
  | literal _ => True
  | group inner => inner.RespectsPrecedence
  | unary _ _ operand =>
      OperatorClass.summary.level ≤ operand.level ∧ operand.RespectsPrecedence
  | binary op _ lhs rhs =>
      op.level ≤ lhs.level ∧ op.level < rhs.level ∧ lhs.RespectsPrecedence ∧
        rhs.RespectsPrecedence

end Expr

def Roll.RespectsPrecedence : Roll → Prop
  | diceMap _ _ => True
  | expression expr => expr.RespectsPrecedence

theorem OperatorClass.level_lt_primaryLevel (operatorClass : OperatorClass) :
    operatorClass.level < Expr.primaryLevel := by
  cases operatorClass <;> decide

end DiceLang

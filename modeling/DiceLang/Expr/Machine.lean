import DiceLang.Context
import DiceLang.Expr.Eval

/-!
# A stack machine for expressions

The instructions of an expression, in postfix order, work on a stack of values with the top first.
An instruction that finds too few values leaves everything as it is; the instructions of an
expression never do. The machine stops at the first instruction that fails.
-/

namespace DiceLang

set_option autoImplicit false

inductive Instruction where
  | push (literal : Literal)
  | unary (op : Summary) (position : Nat)
  | binary (op : BinaryOperator) (position : Nat)
  deriving DecidableEq, Repr

def Expr.instructions : Expr → List Instruction
  | literal l => [.push l]
  | group inner => inner.instructions
  | unary op position operand => operand.instructions ++ [.unary op position]
  | binary op position lhs rhs =>
      lhs.instructions ++ rhs.instructions ++ [.binary op position]

namespace Instruction

variable {σ : Type} [Roller σ]

def execute (context : Context σ) :
    Instruction → List Value → Outcome σ ReadError (List Value)
  | push literal, stack => ⟨.ok (literal.value :: stack), context, []⟩
  | unary op position, operand :: stack =>
      match op.apply operand with
      | .ok result => ⟨.ok (result :: stack), context, []⟩
      | .error error => ⟨.error (Expr.failureAt position error), context, []⟩
  | binary op position, right :: left :: stack =>
      let outcome := (op.apply context.maps left right).run context
      match outcome.result with
      | .ok result =>
          ⟨.ok (result :: stack), outcome.context,
            outcome.events ++ [.applied position op result]⟩
      | .error error =>
          ⟨.error (Expr.failureAt position error), outcome.context, outcome.events⟩
  | _, stack => ⟨.ok stack, context, []⟩

def executeAll (context : Context σ) :
    List Instruction → List Value → Outcome σ ReadError (List Value)
  | [], stack => ⟨.ok stack, context, []⟩
  | instruction :: rest, stack =>
      let outcome := instruction.execute context stack
      match outcome.result with
      | .error error => ⟨.error error, outcome.context, outcome.events⟩
      | .ok stack =>
          (executeAll outcome.context rest stack).after outcome.events

end Instruction

end DiceLang

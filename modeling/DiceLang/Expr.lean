import DiceLang.Token

/-!
# Expressions and rolls

The structure of a roll once its tokens have been read. Operators remember the index of their
token, so that a failure during evaluation can be located. Groups are kept, although they mean
what they enclose: the expression still tells how it was written.

An expression is written in order: an operand before its binary operator, a summary before its
operand, a group between its parentheses. Written from a given index on, each operator has a place
in the list, and an expression is placed there if its operators remember just these places. A list
of tokens is a writing of a list of rolls if it holds the tokens of the rolls one after the other,
with at least one delimiter between two rolls and any number of further delimiters.
-/

namespace DiceLang

set_option autoImplicit false

inductive Expr where
  | literal (value : Literal)
  | group (inner : Expr)
  | unary (op : Summary) (position : Nat) (operand : Expr)
  | binary (op : BinaryOperator) (position : Nat) (lhs rhs : Expr)
  deriving DecidableEq, Repr

/-- A roll either registers a dice map or is evaluated. -/
inductive Roll where
  | diceMap (name : String) (map : DiceMap)
  | expression (expr : Expr)
  deriving DecidableEq

def BinaryOperator.token (op : BinaryOperator) : Token :=
  .operator op.operatorClass op.symbol

def Summary.token (op : Summary) : Token :=
  .operator .summary op.symbol

namespace Expr

def tokens : Expr → List Token
  | literal l => [.literal l]
  | group inner => .groupOpen :: inner.tokens ++ [.groupClose]
  | unary op _ operand => op.token :: operand.tokens
  | binary op _ lhs rhs => lhs.tokens ++ op.token :: rhs.tokens

/-- Every operator remembers the index of its token when the expression is written from `start`
on. -/
def PlacedAt (start : Nat) : Expr → Prop
  | literal _ => True
  | group inner => inner.PlacedAt (start + 1)
  | unary _ position operand => position = start ∧ operand.PlacedAt (start + 1)
  | binary _ position lhs rhs =>
      lhs.PlacedAt start ∧ position = start + lhs.tokens.length ∧ rhs.PlacedAt (position + 1)

end Expr

namespace Roll

def tokens : Roll → List Token
  | diceMap name map => [.diceMap name map]
  | expression expr => expr.tokens

def PlacedAt (start : Nat) : Roll → Prop
  | diceMap _ _ => True
  | expression expr => expr.PlacedAt start

end Roll

/-- The tokens, the first of which has the index `start`, are a writing of the rolls. -/
inductive Writing : Nat → List Token → List Roll → Prop where
  | nothing (start : Nat) : Writing start [] []
  | delimiter {start : Nat} {tokens : List Token} {rolls : List Roll} :
      Writing (start + 1) tokens rolls → Writing start (.delimiter :: tokens) rolls
  | last {start : Nat} {roll : Roll} :
      roll.PlacedAt start → Writing start roll.tokens [roll]
  | roll {start : Nat} {roll : Roll} {tokens : List Token} {rolls : List Roll} :
      roll.PlacedAt start → Writing (start + roll.tokens.length + 1) tokens rolls →
      Writing start (roll.tokens ++ .delimiter :: tokens) (roll :: rolls)

end DiceLang

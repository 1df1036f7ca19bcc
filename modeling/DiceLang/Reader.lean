import DiceLang.Error
import DiceLang.Expr

/-!
# Reading token by token

The reader is an automaton that takes one token at a time and never looks ahead. Between tokens it
is either outside a roll, behind a dice map, in want of an operand, or behind a complete operand.
What surrounds the operand is a stack of frames, the innermost first: groups that are open, and
operators that wait for the operand to their right.

An operand is handed to the waiting operators as late as possible: only when the next binary
operator binds no tighter than they do, or when the group or the roll ends. Operators that bind
alike therefore group from the left.

`next_roll` is the way of the reader from one roll to the next. Its states are the places between
tokens in the descent through the levels, from `parse_mapping` down to `parse_primary` and
`parse_group`: an open group and a waiting operator are frames for what the descent would still have
to do, and `parse_left_assoc` is what `Frame.reduce` does at one level.
-/

namespace DiceLang

set_option autoImplicit false

inductive Frame where
  | group (position : Nat)
  | unary (op : Summary) (position : Nat)
  | binary (op : BinaryOperator) (position : Nat) (lhs : Expr)
  deriving DecidableEq, Repr

namespace Frame

/-- Hands their right operand to the operators on top of the stack that bind at least as tightly
as `level`, up to the innermost open group. -/
def reduce (level : Nat) : List Frame → Expr → List Frame × Expr
  | binary op position lhs :: rest, expr =>
      if level ≤ op.level then reduce level rest (.binary op position lhs expr)
      else (binary op position lhs :: rest, expr)
  | unary op position :: rest, expr =>
      if level ≤ OperatorClass.summary.level then reduce level rest (.unary op position expr)
      else (unary op position :: rest, expr)
  | stack, expr => (stack, expr)

/-- A summary cannot be the right operand of an operator that binds tighter than it does. -/
def admitsSummary : List Frame → Bool
  | binary op _ _ :: _ => op.level < OperatorClass.summary.level
  | _ => true

end Frame

inductive Reader where
  /-- No token has been read. -/
  | start
  /-- A delimiter has been read. -/
  | between
  /-- A dice map has been read. -/
  | map (name : String) (map : DiceMap)
  /-- An operand has to follow. -/
  | wanting (stack : List Frame)
  /-- An operand is complete. -/
  | holding (stack : List Frame) (expr : Expr)

namespace Reader

def phase : Reader → Phase
  | start => .beforeStart
  | between => .started
  | map _ _ => .ended
  | wanting [] => .started
  | wanting (.group _ :: _) => .started
  | wanting (.unary _ _ :: _) => .operator
  | wanting (.binary _ _ _ :: _) => .operator
  | holding _ _ => .value

def error {α : Type} (reader : Reader) (position : Nat) (problem : Problem) :
    Except ReadError α :=
  .error ⟨problem, reader.phase, position⟩

/-- Takes the first token of an operand. -/
def takeOperand (stack : List Frame) (position : Nat) (token : Token) :
    Except ReadError Reader :=
  let refused := error (wanting stack) position
  match token with
  | .literal l => .ok (holding stack (.literal l))
  | .groupOpen => .ok (wanting (.group position :: stack))
  | .operator .summary symbol =>
      if Frame.admitsSummary stack then
        match Summary.lookup? symbol with
        | some op => .ok (wanting (.unary op position :: stack))
        | none => refused (.unknownOperator token.kind symbol)
      else refused (.unexpectedToken token.kind TokenKind.operandKinds)
  | .diceMap _ _ => refused .mapNotAlone
  | _ => refused (.unexpectedToken token.kind TokenKind.operandKinds)

/-- Takes a binary operator behind a complete operand. -/
def takeOperator (stack : List Frame) (expr : Expr) (position : Nat)
    (operatorClass : OperatorClass) (symbol : String) : Except ReadError Reader :=
  match BinaryOperator.lookup? operatorClass symbol with
  | some op =>
      let (stack, lhs) := Frame.reduce op.level stack expr
      .ok (wanting (.binary op position lhs :: stack))
  | none =>
      error (holding stack expr) position (.unknownOperator (.operator operatorClass) symbol)

/-- Takes a token that ends the innermost group or, outside of groups, the roll. -/
def takeEnd (stack : List Frame) (expr : Expr) (position : Nat) (token : Token) :
    Except ReadError (Reader × Option Roll) :=
  let refused := error (holding stack expr) position
  match Frame.reduce 0 stack expr, token with
  | (.group _ :: rest, inner), .groupClose => .ok (holding rest (.group inner), none)
  | (.group _ :: _, _), _ => refused (.unexpectedToken token.kind [.groupClose])
  | (_, whole), .delimiter => .ok (between, some (.expression whole))
  | _, _ => refused (.unexpectedToken token.kind TokenKind.continuationKinds)

/-- Takes the first token of a roll, or one more delimiter. -/
def takeStart (reader : Reader) (position : Nat) (token : Token) : Except ReadError Reader :=
  match token with
  | .delimiter => .ok between
  | .diceMap name diceMap => .ok (map name diceMap)
  | _ =>
      if token.kind.startsRoll then takeOperand [] position token
      else error reader position .badStart

/-- Takes the token at `position`. A roll that the token completes is handed out. -/
def step (reader : Reader) (position : Nat) (token : Token) :
    Except ReadError (Reader × Option Roll) :=
  match reader with
  | start | between => (reader.takeStart position token).map (·, none)
  | map name diceMap =>
      match token with
      | .delimiter => .ok (between, some (.diceMap name diceMap))
      | _ => error reader position .mapNotAlone
  | wanting stack => (takeOperand stack position token).map (·, none)
  | holding stack expr =>
      match token with
      | .operator .summary _ => takeEnd stack expr position token
      | .operator operatorClass symbol =>
          (takeOperator stack expr position operatorClass symbol).map (·, none)
      | _ => takeEnd stack expr position token

/-- Takes the end of the tokens, of which there were `length`. -/
def finish (reader : Reader) (length : Nat) : Except ReadError (Option Roll) :=
  match reader with
  | start | between => .ok none
  | map name diceMap => .ok (some (.diceMap name diceMap))
  | wanting _ => error reader length (.unexpectedEnd TokenKind.operandKinds)
  | holding stack expr =>
      match Frame.reduce 0 stack expr with
      | (.group position :: _, _) => error reader position .unclosedGroup
      | (_, whole) => .ok (some (.expression whole))

end Reader

end DiceLang

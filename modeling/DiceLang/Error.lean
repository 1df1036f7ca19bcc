import DiceLang.Text.Decimal
import DiceLang.Text.Quoted
import DiceLang.Token

/-!
# What can go wrong

Rolling can fail on the values it is given, and reading can fail on the order of the tokens. Each
failure is recorded as its cause; the wording is in the `message` functions alone.
-/

namespace DiceLang

set_option autoImplicit false

open Text (quoted)
open Text.Decimal (text)

/-- An argument of the right kind with which an operation can do nothing. -/
inductive BadArgument where
  | oneSidedExplosion
  | sides (size : Int)
  | diceCount (count : Int)
  | highestOfNone
  | lowestOfNone
  | wildCount (count : Int)
  | keepCount (count : Int)
  | emptyConcatenation
  | unreadable (numeral : String)
  | optionCount (count : Nat)
  | described (reason : String)
  deriving DecidableEq, Repr

def BadArgument.message : BadArgument → String
  | oneSidedExplosion => "a one-sided die cannot explode"
  | sides size => "dice must have 1 or more sides, found " ++ text size
  | diceCount count => "cannot roll " ++ text count ++ " dice"
  | highestOfNone => "cannot keep the highest of zero dice"
  | lowestOfNone => "cannot keep the lowest of zero dice"
  | wildCount count => "a wild die roll needs at least 1 die, found " ++ text count
  | keepCount count => "cannot keep " ++ text count ++ " dice"
  | emptyConcatenation => "cannot concatenate an empty pool"
  | unreadable numeral => "cannot read " ++ quoted numeral ++ " as a number"
  | optionCount count => "a choice needs exactly 2 options, found " ++ text count
  | described reason => reason

/-- Why an operation on values gave nothing. -/
inductive RollError where
  | tooManyRolls
  | zeroDivision
  | zeroModulo
  | overflow
  | negativeExponent
  | operandKind (symbol : String) (side : Side) (expected found : ValueKind)
  | unknownMap (name : String)
  | unknownOutcome (name : String) (outcome : Int)
  | badArgument (reason : BadArgument)
  deriving DecidableEq, Repr

def RollError.message : RollError → String
  | tooManyRolls => "too many dice rolled"
  | zeroDivision => "cannot divide by zero"
  | zeroModulo => "cannot take modulus by zero"
  | overflow => "integer overflow"
  | negativeExponent => "cannot raise to a negative power"
  | operandKind symbol side expected found =>
      side.text ++ " operand of '" ++ symbol ++ "' must be " ++ expected.text ++ ", found "
        ++ found.text
  | unknownMap name => "unknown dice map " ++ quoted name
  | unknownOutcome name outcome =>
      "dice map " ++ quoted name ++ " has no entry for " ++ text outcome
  | badArgument reason => reason.message

/-- Why a list of tokens gave no result: its structure, or an operation in one of its rolls. -/
inductive Problem where
  | emptyStream
  | badStart
  | unexpectedToken (found : TokenKind) (expected : List TokenKind)
  | unexpectedEnd (expected : List TokenKind)
  | unclosedGroup
  | unknownOperator (kind : TokenKind) (symbol : String)
  | mapNotAlone
  | roll (error : RollError)
  deriving DecidableEq, Repr

/-- Three or more alternatives are separated by commas, the last one by a comma and a word. -/
def listing (first : String) : List String → String
  | [] => first
  | [last] => first ++ ", or " ++ last
  | next :: rest => first ++ ", " ++ listing next rest

/-- Alternatives in a sentence: `a`, `a or b`, `a, b, or c`. -/
def alternatives : List String → String
  | [] => ""
  | [first, second] => first ++ " or " ++ second
  | first :: rest => listing first rest

def Problem.message : Problem → String
  | emptyStream => "no tokens to parse"
  | badStart =>
      "a roll must always start with a value, a group, a dice map, or a unary pool operator"
  | unexpectedToken found expected =>
      "unexpected token: found " ++ found.text ++ ", expected "
        ++ alternatives (expected.map TokenKind.text)
  | unexpectedEnd expected =>
      "unexpected end of tokens, expected " ++ alternatives (expected.map TokenKind.text)
  | unclosedGroup => "unclosed group"
  | unknownOperator kind symbol => quoted symbol ++ " is not a known " ++ kind.text
  | mapNotAlone => "a dice map must be the only item in its roll"
  | roll error => error.message

/-- How far the reading of a roll has come. -/
inductive Phase where
  /-- No token has been read. -/
  | beforeStart
  /-- A roll or a group has begun and wants its first operand. -/
  | started
  /-- An operand is complete. -/
  | value
  /-- An operator wants the operand to its right. -/
  | operator
  /-- The roll is complete. -/
  | ended
  deriving DecidableEq, Repr

def Phase.text : Phase → String
  | beforeStart => "before start"
  | started => "started"
  | value => "value"
  | operator => "operator"
  | ended => "ended"

structure ReadError where
  problem : Problem
  phase : Phase
  /-- The index of the token at fault, or the number of tokens where one is missing. -/
  position : Nat
  deriving DecidableEq, Repr

def ReadError.message (error : ReadError) : String :=
  "error at token " ++ text error.position ++ " (" ++ error.phase.text ++ "): "
    ++ error.problem.message

end DiceLang

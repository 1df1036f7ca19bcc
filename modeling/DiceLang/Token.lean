import DiceLang.DiceMap
import DiceLang.Operator
import DiceLang.Value

/-!
# Tokens

A roll arrives as a list of tokens. An operator token carries whatever symbol it was written
with; whether its class knows the symbol is settled when the roll is read.
-/

namespace DiceLang

set_option autoImplicit false

inductive Token where
  | literal (literal : Literal)
  | diceMap (name : String) (map : DiceMap)
  | operator (operatorClass : OperatorClass) (symbol : String)
  | groupOpen
  | groupClose
  | delimiter
  deriving DecidableEq

inductive TokenKind where
  | number
  | boolean
  | pool
  | qualifier
  | diceMap
  | operator (operatorClass : OperatorClass)
  | groupOpen
  | groupClose
  | delimiter
  deriving DecidableEq, Repr

namespace TokenKind

def text : TokenKind → String
  | number => "<number>"
  | boolean => "<boolean>"
  | pool => "<pool>"
  | qualifier => "<qualifier>"
  | diceMap => "<dice map>"
  | operator .additive => "<additive operator>"
  | operator .multiplicative => "<multiplicative operator>"
  | operator .exponent => "<exponent operator>"
  | operator .comparison => "<comparison operator>"
  | operator .choice => "<choice operator>"
  | operator .options => "<options operator>"
  | operator .dice => "<dice operator>"
  | operator .poolGeneration => "<pool generation operator>"
  | operator .pool => "<pool operator>"
  | operator .summary => "<unary pool degeneration operator>"
  | operator .tally => "<pool degeneration operator>"
  | operator .mapping => "<mapping operator>"
  | groupOpen => "'('"
  | groupClose => "')'"
  | delimiter => "';'"

/-- The kinds announced where an operand is missing. -/
def operandKinds : List TokenKind :=
  [number, boolean, pool, qualifier, groupOpen, operator .summary]

/-- The kinds announced where an operand outside every group is complete. -/
def continuationKinds : List TokenKind :=
  [operator .mapping, operator .choice, operator .options, operator .comparison,
    operator .additive, operator .multiplicative, operator .exponent, operator .dice,
    operator .tally, operator .pool, operator .poolGeneration, delimiter]

/-- A roll is an expression, which starts as an operand does, or a lone dice map. -/
def startsRoll (kind : TokenKind) : Bool :=
  operandKinds.contains kind || kind == diceMap

/-- The token of this kind with the given symbol, if tokens of this kind carry one. -/
def token? (kind : TokenKind) (symbol : String) : Option Token :=
  match kind with
  | operator operatorClass => some (.operator operatorClass symbol)
  | _ => none

end TokenKind

def Literal.tokenKind : Literal → TokenKind
  | number _ => .number
  | boolean _ => .boolean
  | pool _ => .pool
  | qualifier _ => .qualifier

namespace Token

def kind : Token → TokenKind
  | literal l => l.tokenKind
  | diceMap _ _ => .diceMap
  | operator operatorClass _ => .operator operatorClass
  | groupOpen => .groupOpen
  | groupClose => .groupClose
  | delimiter => .delimiter

def symbol? : Token → Option String
  | operator _ symbol => some symbol
  | _ => none

end Token

end DiceLang

/-!
# Values

What a roll can give: a number, a truth value, a pool of numbers, a qualifier, a tuple of
qualifiers, or the results of several rolls together. A literal is a value that can be written
down in a roll; tuples of qualifiers and compound results only arise from evaluation.
-/

namespace DiceLang

set_option autoImplicit false

inductive Value where
  | number (n : Int)
  | boolean (b : Bool)
  | pool (members : List Int)
  | qualifier (text : String)
  | qualifiers (texts : List String)
  | compound (parts : List Value)
  deriving Repr

inductive ValueKind where
  | number
  | boolean
  | pool
  | qualifier
  | qualifiers
  | compound
  deriving DecidableEq, Repr

namespace ValueKind

def text : ValueKind → String
  | number => "a number"
  | boolean => "a boolean"
  | pool => "a pool"
  | qualifier => "a qualifier"
  | qualifiers => "a tuple of qualifiers"
  | compound => "a compound result"

end ValueKind

def Value.kind : Value → ValueKind
  | number _ => .number
  | boolean _ => .boolean
  | pool _ => .pool
  | qualifier _ => .qualifier
  | qualifiers _ => .qualifiers
  | compound _ => .compound

inductive Literal where
  | number (n : Int)
  | boolean (b : Bool)
  | pool (members : List Int)
  | qualifier (text : String)
  deriving DecidableEq, Repr

def Literal.value : Literal → Value
  | number n => .number n
  | boolean b => .boolean b
  | pool members => .pool members
  | qualifier text => .qualifier text

/-- The operand of an operator that a value was bound to. -/
inductive Side where
  | left
  | right
  deriving DecidableEq, Repr

def Side.text : Side → String
  | left => "left"
  | right => "right"

end DiceLang

import DiceLang.Error
import DiceLang.Value.Display

/-!
# The log

Events are what an observer of a roll may want to know beyond its result. They never influence
the result.
-/

namespace DiceLang

set_option autoImplicit false

inductive Event where
  | registered (name : String) (entries : Nat)
  | rolled (pool : List Int) (count size : Int)
  | exploded (pool : List Int) (count size : Int)
  | botched (discarded : List Int)
  | applied (position : Nat) (op : BinaryOperator) (result : Value)
  | finished (index : Nat) (result : Value)

namespace Event

/-- Results of operators and of rolls are of interest only to someone who follows every step. -/
def isTrace : Event → Bool
  | applied _ _ _ | finished _ _ => true
  | _ => false

def numberList (members : List Int) : String :=
  "[" ++ String.intercalate ", " (members.map Text.Decimal.text) ++ "]"

def message : Event → String
  | registered name entries =>
      "registering dice map " ++ Text.quoted name ++ " with " ++ Text.Decimal.text entries
        ++ " entries"
  | rolled pool count size =>
      "rolled " ++ numberList pool ++ " for " ++ Text.Decimal.text count ++ "g"
        ++ Text.Decimal.text size
  | exploded pool count size =>
      "exploded to " ++ numberList pool ++ " for " ++ Text.Decimal.text count ++ "g!"
        ++ Text.Decimal.text size
  | botched discarded => "wild die botched; discarding " ++ numberList discarded
  | applied position op result =>
      "token " ++ Text.Decimal.text position ++ ": '" ++ op.symbol ++ "' gave " ++ result.display
  | finished index result =>
      "roll " ++ Text.Decimal.text index ++ " gave " ++ result.display

def line (event : Event) : String :=
  (if event.isTrace then "TRACE " else "DEBUG ") ++ event.message

end Event

end DiceLang

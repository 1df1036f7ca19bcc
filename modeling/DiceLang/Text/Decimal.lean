/-!
# Decimal numerals

Numbers are written without leading zeros, a negative one after a minus sign. Reading goes from
left to right and stops at the first character that spoils the numeral: a character that is no
digit, or a digit that carries the number read so far beyond what may be represented. Which of
the two is reported is therefore decided by which comes first in the text.
-/

namespace DiceLang.Text.Decimal

set_option autoImplicit false

def numeral : Int → List Char
  | .ofNat n => Nat.toDigits 10 n
  | .negSucc n => '-' :: Nat.toDigits 10 (n + 1)

def text (n : Int) : String :=
  String.ofList (numeral n)

inductive Misreading where
  | notDigit
  | outOfRange
  deriving DecidableEq, Repr

/-- Extends the number `value` by the digits that follow it, never passing `limit`. -/
def readDigits (limit : Nat) : Nat → List Char → Except Misreading Nat
  | value, [] => .ok value
  | value, c :: rest =>
      if c.isDigit then
        let next := 10 * value + (c.toNat - '0'.toNat)
        if next ≤ limit then readDigits limit next rest else .error .outOfRange
      else .error .notDigit

/-- Reads a numeral between `lowest` and `highest`. A sign alone, and no text at all, are no
numerals. -/
def readNumeral (lowest highest : Int) : List Char → Except Misreading Int
  | [] => .error .notDigit
  | ['-'] => .error .notDigit
  | '-' :: digits => (readDigits lowest.natAbs 0 digits).map fun n => -(n : Int)
  | digits => (readDigits highest.natAbs 0 digits).map fun n => (n : Int)

end DiceLang.Text.Decimal

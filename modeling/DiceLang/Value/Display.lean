import DiceLang.Text.Decimal
import DiceLang.Value

/-!
# The written form of a value

Pools and tuples are written between parentheses with commas, compound results between brackets
with semicolons. A layout may ask for a least width and for a greatest length: it applies to each
number, truth value and member of a tuple on its own, never to the punctuation around them, and a
qualifier that stands alone is written as it is.
-/

namespace DiceLang

set_option autoImplicit false

structure Layout where
  width : Nat
  /-- The number of characters kept of a text; numbers are never cut. -/
  precision : Option Nat
  deriving DecidableEq, Repr

namespace Layout

def plain : Layout := ⟨0, none⟩

def blanks (layout : Layout) (written : List Char) : List Char :=
  List.replicate (layout.width - written.length) ' '

/-- Numbers stand at the right end of their field. -/
def number (layout : Layout) (n : Int) : List Char :=
  layout.blanks (Text.Decimal.numeral n) ++ Text.Decimal.numeral n

/-- Texts are cut first and then stand at the left end of their field. -/
def text (layout : Layout) (s : String) : List Char :=
  let kept :=
    match layout.precision with
    | none => s.toList
    | some length => s.toList.take length
  kept ++ layout.blanks kept

def boolean (layout : Layout) (b : Bool) : List Char :=
  layout.text (if b then "true" else "false")

end Layout

namespace Value

def tuple (members : List (List Char)) : List Char :=
  '(' :: List.intercalate [',', ' '] members ++ [')']

mutual

def written (layout : Layout) : Value → List Char
  | number n => layout.number n
  | boolean b => layout.boolean b
  | pool members => tuple (members.map layout.number)
  | qualifier s => s.toList
  | qualifiers texts => tuple (texts.map layout.text)
  | compound parts => '[' :: List.intercalate [';', ' '] (writtenParts layout parts) ++ [']']

def writtenParts (layout : Layout) : List Value → List (List Char)
  | [] => []
  | part :: rest => written layout part :: writtenParts layout rest

end

def displayIn (layout : Layout) (value : Value) : String :=
  String.ofList (value.written layout)

def display (value : Value) : String :=
  value.displayIn .plain

end Value

end DiceLang

import DiceLang.Reader

/-!
# The rolls in a list of tokens

Reading a list of tokens gives the rolls it contains up to the first fault in its structure, and
that fault. What the rolls evaluate to has no part in it.
-/

namespace DiceLang

set_option autoImplicit false

structure Reading where
  rolls : List Roll
  fault : Option ReadError
  deriving DecidableEq

namespace Reading

def push (reading : Reading) (roll : Option Roll) : Reading :=
  { reading with rolls := roll.toList ++ reading.rolls }

/-- Goes on with `reader` at a token whose index is `position`. -/
def goOn (reader : Reader) (position : Nat) : List Token → Reading
  | [] =>
      match reader.finish position with
      | .ok roll => ⟨roll.toList, none⟩
      | .error fault => ⟨[], some fault⟩
  | token :: rest =>
      match reader.step position token with
      | .ok (reader, roll) => (goOn reader (position + 1) rest).push roll
      | .error fault => ⟨[], some fault⟩

def ofTokens (tokens : List Token) : Reading :=
  goOn .start 0 tokens

end Reading

/-- The rolls in a list of tokens, if there is no fault in its structure. -/
def readRolls (tokens : List Token) : Except ReadError (List Roll) :=
  let reading := Reading.ofTokens tokens
  match reading.fault with
  | none => .ok reading.rolls
  | some fault => .error fault

end DiceLang

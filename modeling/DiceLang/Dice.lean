import DiceLang.Plan
import DiceLang.Pool

/-!
# Rolling dice

A roll is described by how many dice are thrown and by how many sides each of them has. All dice
of a pool are thrown as one batch (`dice_pool`), and `die`, `keep_high_die`, `keep_low_die` and
`concat` make one number of the pool. A die that shows its greatest face may explode
(`exploding_pool`, `exploding_die`): it is thrown again, singly, and the new face is added, for as
long as the greatest face comes up. An explosion always ends, because the total grows with every
throw and has to stay within 64 bits. `wild_die` throws one die that may explode and plain ones
behind it.
-/

namespace DiceLang.Dice

set_option autoImplicit false

open Plan (ofExcept log)

def countOf (count : Int) : Except RollError Nat :=
  if 0 ≤ count then .ok count.toNat else .error (.badArgument (.diceCount count))

def faceValue (face : UInt32) : Int :=
  face.toNat

def throwPool (die : Die) (count : Nat) : Plan RollError Pool :=
  .rollMany die count .tooManyRolls fun faces => .done (faces.map faceValue)

def pool (count size : Int) : Plan RollError Pool := do
  let number ← ofExcept (countOf count)
  let die ← ofExcept (Die.ofSize size)
  let pool ← throwPool die number
  log (.rolled pool count size)
  return pool

/-- Throws a die that has just shown its greatest face, and whose total is `total`, once more. -/
def explode (die : Die) (total : Int) : Plan RollError Int :=
  .rollOne die .tooManyRolls fun face =>
    if Integer.Fits (total + faceValue face) then
      if face.toNat = die.sides then explode die (total + faceValue face)
      else .done (total + faceValue face)
    else .fail .overflow
termination_by (Integer.highest - total).toNat
decreasing_by
  rename_i fits greatest
  have positive := die.sides_pos
  have bound := fits.2
  simp only [faceValue] at bound ⊢
  omega

/-- The total of a die after its first throw. -/
def settle (die : Die) (first : Int) : Plan RollError Int :=
  if first = die.sides then explode die first else .done first

def explodingPool (count size : Int) : Plan RollError Pool := do
  if size = 1 then
    .fail (.badArgument .oneSidedExplosion)
  else
    let die ← ofExcept (Die.ofSize size)
    let first ← pool count size
    let settled ← first.mapM (settle die)
    log (.exploded settled count size)
    return settled

def total (count size : Int) : Plan RollError Int := do
  ofExcept (Pool.sum (← pool count size))

def explodingTotal (count size : Int) : Plan RollError Int := do
  ofExcept (Pool.sum (← explodingPool count size))

def highest (count size : Int) : Plan RollError Int := do
  match (← pool count size).max? with
  | some greatest => return greatest
  | none => .fail (.badArgument .highestOfNone)

def lowest (count size : Int) : Plan RollError Int := do
  match (← pool count size).min? with
  | some least => return least
  | none => .fail (.badArgument .lowestOfNone)

/-- One exploding die, the wild one, and plain dice for the rest. If the wild die shows a 1 at
once, the whole roll counts nothing. -/
def wild (count size : Int) : Plan RollError Int := do
  if count < 1 then
    .fail (.badArgument (.wildCount count))
  else
    let wild ← explodingTotal 1 size
    let regular ← pool (count - 1) size
    if wild = 1 then
      log (.botched regular)
      return 0
    else
      let rest ← ofExcept (Pool.sum regular)
      ofExcept (Integer.checked (wild + rest))

/-- The last digits of the dice, written one after the other. -/
def concatenated (count size : Int) : Plan RollError Int := do
  let digits ← ofExcept (Pool.modulo (← pool count size) 10)
  ofExcept (Pool.concatenate digits)

end DiceLang.Dice

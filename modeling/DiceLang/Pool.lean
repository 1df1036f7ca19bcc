import DiceLang.Integer

/-!
# Pools

A pool is a list of numbers in the order in which the dice were rolled. None of the operations
here rolls a die. They are known as `pool_cap`, `pool_floor`, `pool_keep_above`, `pool_keep_below`,
`pool_remove`, `pool_keep_high`, `pool_keep_low`, `pool_modulo`, `pool_count`, `pool_sum`,
`pool_concatenate`, `count_successes` and `count_successes_with_botch`. To keep the high members of
a pool means to drop low ones, the first of equal ones first, until few enough are left; the low
members are kept likewise.
-/

namespace DiceLang

set_option autoImplicit false

abbrev Pool := List Int

namespace Pool

def cap (pool : Pool) (bound : Int) : Pool :=
  pool.map fun x => min x bound

def floor (pool : Pool) (bound : Int) : Pool :=
  pool.map fun x => max x bound

def keepAbove (pool : Pool) (bound : Int) : Pool :=
  pool.filter fun x => bound ≤ x

def keepBelow (pool : Pool) (bound : Int) : Pool :=
  pool.filter fun x => x ≤ bound

def remove (pool : Pool) (value : Int) : Pool :=
  pool.filter fun x => x ≠ value

/-- Drops, `count` times, the first occurrence of the least member. -/
def dropLeast : Nat → Pool → Pool
  | 0, pool => pool
  | count + 1, pool =>
      match pool.min? with
      | none => pool
      | some least => dropLeast count (pool.erase least)

/-- Drops, `count` times, the first occurrence of the greatest member. -/
def dropGreatest : Nat → Pool → Pool
  | 0, pool => pool
  | count + 1, pool =>
      match pool.max? with
      | none => pool
      | some greatest => dropGreatest count (pool.erase greatest)

def keepHigh (pool : Pool) (keep : Int) : Except RollError Pool :=
  if keep < 0 then .error (.badArgument (.keepCount keep))
  else .ok (dropLeast (pool.length - keep.toNat) pool)

def keepLow (pool : Pool) (keep : Int) : Except RollError Pool :=
  if keep < 0 then .error (.badArgument (.keepCount keep))
  else .ok (dropGreatest (pool.length - keep.toNat) pool)

def modulo (pool : Pool) (divisor : Int) : Except RollError Pool :=
  pool.mapM fun x => Integer.floorMod x divisor

def count (pool : Pool) : Int :=
  pool.length

/-- The members are added from the front, and every partial sum has to fit. -/
def sum (pool : Pool) : Except RollError Int :=
  pool.foldlM (fun total x => Integer.checked (total + x)) 0

/-- The members are written one after the other and read as one numeral. -/
def concatenate (pool : Pool) : Except RollError Int :=
  if pool.isEmpty then .error (.badArgument .emptyConcatenation)
  else
    let numeral := pool.flatMap Text.Decimal.numeral
    match Text.Decimal.readNumeral Integer.lowest Integer.highest numeral with
    | .ok n => .ok n
    | .error .outOfRange => .error .overflow
    | .error .notDigit => .error (.badArgument (.unreadable (String.ofList numeral)))

def successes (pool : Pool) (target : Int) : Int :=
  (pool.keepAbove target).count

/-- Every 1 is a botch and takes one success back. -/
def successesLessBotches (pool : Pool) (target : Int) : Int :=
  pool.successes target - (pool.count - (pool.remove 1).count)

end Pool

end DiceLang

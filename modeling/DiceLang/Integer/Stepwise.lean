import DiceLang.Integer
import DiceLang.Roller

/-!
# Arithmetic in single steps

The operations compute exactly and check the result. They can also be carried out by steps that
never leave 64 bits. Division then comes rounded towards zero and is corrected by one where the
quotient rounded down lies below; the remainder is corrected by the divisor. A power takes its
exponent as a word of 32 bits.

Some steps are checked, and to leave the range is an error there. The others are not: if one of
them left the range, the computation would have no outcome.
-/

namespace DiceLang.Integer

set_option autoImplicit false

/-- A result or an error, or nothing if a step without a check left the range. -/
abbrev Stepwise := Option (Except RollError Int)

def inRange (n : Int) : Option Int :=
  if Fits n then some n else none

/-- The quotient rounded towards zero. -/
def quotient (a b : Int) : Option Int :=
  if b = 0 then none else inRange (Int.tdiv a b)

/-- The remainder that belongs to the quotient rounded towards zero, so it has the sign of the
dividend. It is found along with the quotient, and not without it. -/
def remainder (a b : Int) : Option Int :=
  (quotient a b).map fun _ => Int.tmod a b

def floorDivStepwise (a b : Int) : Stepwise :=
  if b = 0 then some (.error .zeroDivision)
  else
    match quotient a b with
    | none => some (.error .overflow)
    | some q => do
        let r ← remainder a b
        if r ≠ 0 ∧ ¬(a < 0 ↔ b < 0) then return .ok (← inRange (q - 1)) else return .ok q

def floorModStepwise (a b : Int) : Stepwise :=
  if b = 0 then some (.error .zeroModulo)
  else
    match remainder a b with
    | none => some (.error .overflow)
    | some r => do
        if r ≠ 0 ∧ ¬(r < 0 ↔ b < 0) then return .ok (← inRange (r + b)) else return .ok r

def powerStepwise (base exponent : Int) : Stepwise :=
  if exponent < 0 then some (.error .negativeExponent)
  else if base = 1 then some (.ok 1)
  else if base = 0 then some (.ok (if exponent = 0 then 1 else 0))
  else if base = -1 then do
    let r ← remainder exponent 2
    return .ok (if r = 0 then 1 else -1)
  else if exponent < wordCount then some (checked (Int.pow base exponent.toNat))
  else some (.error .overflow)

end DiceLang.Integer

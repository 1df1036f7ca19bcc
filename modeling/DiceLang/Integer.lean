import DiceLang.Error

/-!
# Arithmetic within 64 bits

Numbers are integers between `lowest` and `highest`. Every operation computes the exact result
and refuses it if it lies outside; nothing wraps around. Quotients are rounded down, and remainders
belong to them (`floor_div`, `floor_mod`).
-/

namespace DiceLang.Integer

set_option autoImplicit false

def lowest : Int := -0x8000000000000000

def highest : Int := 0x7fffffffffffffff

def Fits (n : Int) : Prop :=
  lowest ≤ n ∧ n ≤ highest

instance (n : Int) : Decidable (Fits n) :=
  inferInstanceAs (Decidable (lowest ≤ n ∧ n ≤ highest))

def checked (n : Int) : Except RollError Int :=
  if Fits n then .ok n else .error .overflow

theorem checked_eq_ok_iff {n m : Int} : checked n = .ok m ↔ Fits n ∧ m = n := by
  simp only [checked]
  split <;> simp_all [eq_comm]

/-- The quotient rounded down. -/
def floorDiv (a b : Int) : Except RollError Int :=
  if b = 0 then .error .zeroDivision else checked (Int.fdiv a b)

/-- The remainder that belongs to the quotient rounded down, so it has the sign of the divisor.
It is given only where the quotient fits too. -/
def floorMod (a b : Int) : Except RollError Int :=
  if b = 0 then .error .zeroModulo
  else (checked (Int.fdiv a b)).map fun _ => Int.fmod a b

/-- A power with a natural exponent. Only the powers of 0, 1 and -1 stay in range however large
the exponent is; any other base is out of range from the 64th power on. -/
def power (base exponent : Int) : Except RollError Int :=
  if exponent < 0 then .error .negativeExponent
  else if base = 1 then .ok 1
  else if base = 0 then .ok (if exponent = 0 then 1 else 0)
  else if base = -1 then .ok (if exponent % 2 = 0 then 1 else -1)
  else if 64 ≤ exponent then .error .overflow
  else checked (Int.pow base exponent.toNat)

end DiceLang.Integer

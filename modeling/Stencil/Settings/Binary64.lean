/-!
# Numbers of double precision

A number written with a point or an exponent stands for the number of double precision that is
nearest to it: a significand of at most 53 binary digits times a power of two.  Of two that are
equally near, the one with the even significand counts.  Signs are left to the caller.

## Main definitions

* `roundQuotient` — a quotient rounded to a whole number.
* `Binary64`, `Binary64.ofQuotient?` — the numbers, and the one nearest to a quotient.
* `Binary64.toNat?` — the whole number that a number is.
-/

namespace Stencil

/-- The whole number nearest to `n / d`; a half goes to the even neighbour. -/
def roundQuotient (n d : Nat) : Nat :=
  if d < 2 * (n % d) ∨ (d = 2 * (n % d) ∧ n / d % 2 = 1) then n / d + 1 else n / d

/-- A number of double precision that is not below zero: a significand times a power of two. -/
structure Binary64 where
  /-- The significand, of at most 53 binary digits. -/
  significand : Nat
  /-- The power of two. -/
  exponent : Int
  deriving DecidableEq, Repr, Inhabited

namespace Binary64

/-- The numerator and the denominator of `n / d` times a power of two. -/
def shifted (n d : Nat) (power : Int) : Nat × Nat :=
  (n * Nat.pow 2 power.toNat, d * Nat.pow 2 (-power).toNat)

/-- The exponent of the greatest power of two that is not above a quotient. -/
def magnitude (n d : Nat) : Int :=
  let guess := (n.log2 : Int) - d.log2
  let quotient := shifted n d (-guess)
  if quotient.2 ≤ quotient.1 then guess else guess - 1

/-- The number nearest to a quotient, unless the quotient is beyond the greatest of them. -/
def ofQuotient? (n d : Nat) : Option Binary64 :=
  let exponent := max (magnitude n d - 52) (-1074)
  let quotient := shifted n d (-exponent)
  let significand := roundQuotient quotient.1 quotient.2
  if exponent < 971 ∨ (exponent = 971 ∧ significand < Nat.pow 2 53) then
    some { significand, exponent }
  else none

/-- The whole number that a number is, unless it has a fraction. -/
def toNat? (x : Binary64) : Option Nat :=
  let size := Nat.pow 2 (-x.exponent).toNat
  if x.significand % size = 0 then
    some (x.significand / size * Nat.pow 2 x.exponent.toNat)
  else none

end Binary64

end Stencil

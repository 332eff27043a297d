/-!
# Rounding

Quotients of natural numbers, rounded to an integer or to 53 binary digits, each time to the nearest
and from the middle to the even neighbour.

## Main definitions

- `roundDiv`: a quotient rounded to an integer
- `roundBinary`: a quotient rounded to 53 binary digits
-/

namespace MarcLens

/-- `num / den` rounded to the nearest integer, and from the middle to the even one. -/
def roundDiv (num den : Nat) : Nat :=
  let floor := num / den
  let rest := num % den
  if 2 * rest < den ∨ (2 * rest = den ∧ floor % 2 = 0) then floor else floor + 1

/-- The place of the first binary digit of `num / den`: the greatest `e` such that 2 to the power of
    `e` does not exceed the quotient. Both numbers are taken to be positive. -/
def binaryPlace (num den : Nat) : Int :=
  let e := (num.log2 : Int) - den.log2
  if den <<< e.toNat ≤ num <<< (-e).toNat then e else e - 1

/-- `num / den` rounded to 53 binary digits, or to fewer where the last one would stand for less
    than 2 to the power of -1074. -/
def roundBinary (num den : Nat) : Rat :=
  let last := max (binaryPlace num den - 52) (-1074)
  let digits := roundDiv (num <<< (-last).toNat) (den <<< last.toNat)
  mkRat (digits <<< last.toNat : Nat) (1 <<< (-last).toNat)

end MarcLens

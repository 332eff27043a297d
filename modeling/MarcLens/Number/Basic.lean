import MarcLens.Number.Rounding

/-!
# Numbers

The numbers that a JSON text may spell with a fraction or an exponent. They are held as binary
numbers of 53 digits, so a decimal number is rounded when it is read.

## Main definitions

- `Number`: a binary number, an infinity, or no number at all
- `Number.ofDecimal`: the number nearest to a decimal one
- `Number.atMost`, `Number.atLeast`, `Number.equal`: comparing numbers
-/

namespace MarcLens

inductive Number where
  | finite (x : Rat)
  | negativeZero
  | infinite (negative : Bool)
  | nan
deriving DecidableEq, Repr

namespace Number

def ofInt (n : Int) : Number := .finite (.ofInt n)

def zero (negative : Bool) : Number := if negative then .negativeZero else .finite 0

/-- The number of digits of a natural number in decimal notation. -/
def digitCount (n : Nat) : Nat := (Nat.toDigits 10 n).length

/-- The number with the given distance from zero. From 2 to the power of 1024 on it is infinite. -/
def ofMagnitude (negative : Bool) (x : Rat) : Number :=
  if x = 0 then zero negative
  else if (1 <<< 1024) * x.den ≤ x.num.natAbs then .infinite negative
  else .finite (if negative then -x else x)

/-- The number nearest to `digits` times 10 to the power of `exponent`. Numbers of more than 400
    places are infinite, and those with more than 400 zeros after the point are zero. -/
def ofDecimal (negative : Bool) (digits : Nat) (exponent : Int) : Number :=
  let place := exponent + digitCount digits
  if digits = 0 ∨ place < -400 then zero negative
  else if 400 < place then .infinite negative
  else
    ofMagnitude negative
      (roundBinary (digits * Nat.pow 10 exponent.toNat) (Nat.pow 10 (-exponent).toNat))

/-- A number is not greater than an integer. -/
def atMost : Number → Int → Bool
  | .finite x, n => x.num ≤ n * x.den
  | .negativeZero, n => 0 ≤ n
  | .infinite negative, _ => negative
  | .nan, _ => false

/-- A number is not less than an integer. -/
def atLeast : Number → Int → Bool
  | .finite x, n => n * x.den ≤ x.num
  | .negativeZero, n => n ≤ 0
  | .infinite negative, _ => !negative
  | .nan, _ => false

def isZero : Number → Bool
  | .finite x => x = 0
  | .negativeZero => true
  | _ => false

/-- Two numbers have the same value. The two zeros do, and what is no number equals itself only if
    `reflexive` is set. -/
def equal (reflexive : Bool) (x y : Number) : Bool :=
  if x.isZero && y.isZero then true
  else x = y && (reflexive || x ≠ .nan)

/-- The greatest integer that exceeds neither a number nor a limit; without a finite number it is
    the limit. -/
def capped (x : Number) (limit : Int) : Int :=
  match x with
  | .finite x => min x.floor limit
  | .negativeZero => min 0 limit
  | .infinite _ => limit
  | .nan => limit

end Number

end MarcLens

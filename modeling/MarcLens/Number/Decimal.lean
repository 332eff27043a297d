import MarcLens.Number.Basic

/-!
# Decimal notation

A number is written with the fewest decimal digits that are read back as the same number, and of
several such decimals the nearest one counts.

## Main definitions

- `Decimal`: digits and a power of ten
- `Decimal.shortest`: the decimal that stands for a number
- `Number.written`: a number in decimal notation
-/

namespace MarcLens

/-- `digits` times 10 to the power of `exponent`. -/
structure Decimal where
  digits : Nat
  exponent : Int
deriving DecidableEq, Repr

namespace Decimal

/-- A decimal is read as the given number. -/
def readsAs (d : Decimal) (x : Rat) : Bool :=
  Number.ofDecimal false d.digits d.exponent = .finite x

/-- The place of the first decimal digit of a positive number: the greatest `e` such that 10 to the
    power of `e` does not exceed it. -/
def place (x : Rat) : Int :=
  let num := x.num.natAbs
  let e := (Number.digitCount num : Int) - Number.digitCount x.den
  if x.den * Nat.pow 10 e.toNat ≤ num * Nat.pow 10 (-e).toNat then e else e - 1

/-- A decimal with at most `count` digits that is read as a positive number. The nearest one is
    tried first, and then both neighbours. -/
def ofDigitCount? (x : Rat) (count : Nat) : Option Decimal :=
  let exponent := place x + 1 - count
  let num := x.num.natAbs * Nat.pow 10 (-exponent).toNat
  let den := x.den * Nat.pow 10 exponent.toNat
  ([roundDiv num den, num / den, num / den + 1].map fun digits => ⟨digits, exponent⟩).find?
    fun d : Decimal => d.readsAs x

/-- The decimal that equals a positive number whose denominator is a power of two. -/
def exact (x : Rat) : Decimal :=
  let places := x.den.log2
  ⟨x.num.natAbs * Nat.pow 5 places, -places⟩

/-- The decimal with the fewest digits that is read as a positive number. -/
def shortest (x : Rat) : Decimal :=
  ((List.range 17).findSome? fun n => ofDigitCount? x (n + 1)).getD (exact x)

/-- The digits of a decimal without zeros at the end, and the place of the point, counted from
    before the first digit. -/
def layout (d : Decimal) : List Char × Int :=
  let cs := Nat.toDigits 10 d.digits
  ((cs.reverse.dropWhile (· = '0')).reverse, d.exponent + cs.length)

/-- The exponent of a decimal has a sign and at least two digits. -/
def exponentText (e : Int) : List Char :=
  let cs := Nat.toDigits 10 e.natAbs
  (if e < 0 then '-' else '+') :: if cs.length < 2 then '0' :: cs else cs

/-- A decimal in positional notation if at most sixteen digits stand before the point and at most
    three zeros right after it, and with an exponent otherwise. A point always stands between two
    digits. -/
def text (d : Decimal) : String :=
  let (cs, point) := d.layout
  let zeros (n : Int) : List Char := List.replicate n.toNat '0'
  String.ofList <|
    if point ≤ -4 ∨ 16 < point then
      cs.take 1 ++ (if cs.length ≤ 1 then [] else '.' :: cs.drop 1) ++
        'e' :: exponentText (point - 1)
    else if point ≤ 0 then '0' :: '.' :: zeros (-point) ++ cs
    else if cs.length ≤ point then cs ++ zeros (point - cs.length) ++ ['.', '0']
    else cs.take point.toNat ++ '.' :: cs.drop point.toNat

end Decimal

namespace Number

/-- A number in decimal notation, with the given words for an infinity and for no number. -/
def written (infinity noNumber : String) : Number → String
  | .finite x =>
    if x = 0 then "0.0"
    else if x.num < 0 then "-" ++ (Decimal.shortest (-x)).text
    else (Decimal.shortest x).text
  | .negativeZero => "-0.0"
  | .infinite negative => if negative then "-" ++ infinity else infinity
  | .nan => noNumber

end Number

end MarcLens

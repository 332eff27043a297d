import MarcLens.Number.Rounding

/-!
# Estimated times

The time that a harvest takes is told in minutes with one decimal place. The quotient is first
rounded to 53 binary digits and then to one decimal.

## Main definitions

- `Harvest.oneDecimal`: a quotient rounded to one decimal place
- `Harvest.estimatedMinutes`: the minutes that a number of requests takes
-/

namespace MarcLens.Harvest

/-- `num / den` with one digit after the point. -/
def oneDecimal (num den : Nat) : String :=
  let tenths := roundDiv (10 * num) den
  (tenths / 10).repr ++ "." ++ (tenths % 10).repr

/-- Seconds from one request to the next. -/
def pauseSeconds : Nat := 7

/-- The minutes that a number of requests takes. -/
def estimatedMinutes (requests : Nat) : String :=
  let minutes := roundBinary (requests * pauseSeconds) 60
  oneDecimal minutes.num.natAbs minutes.den

end MarcLens.Harvest

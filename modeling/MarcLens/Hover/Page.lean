import MarcLens.Fault
import MarcLens.Text.Digit

/-!
# Documentation pages

Where the Library of Congress documents a tag.
-/

namespace MarcLens

/-- The page that documents a tag of three digits; other tags have none. The tags 852 to 878 and
    those from 880 on are documented for holdings records, all others for bibliographic ones. Digits
    that spell no number are a fault. -/
def documentationPage (tag : Text) : Except Fault (Option String) :=
  if tag.length = 3 ∧ tag.all isDigitLike then
    match Text.decimalNumber? tag with
    | none => .error (.tagNotDecimal tag)
    | some n =>
      let written := String.ofList tag
      if (852 ≤ n ∧ n ≤ 878) ∨ 880 ≤ n then
        .ok (some ("https://www.loc.gov/marc/holdings/hd" ++ written ++ ".html"))
      else .ok (some ("https://www.loc.gov/marc/bibliographic/bd" ++ written ++ ".html"))
  else .ok none

end MarcLens

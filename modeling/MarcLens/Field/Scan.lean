import MarcLens.Field.Basic
import MarcLens.Text.Blank

/-!
# Scanning subfield data

A marker is a dollar sign followed by a code, which is a lower case ASCII letter or an ASCII digit.
The subfield of a marker reaches up to the next dollar sign, whether or not that one is a marker.
-/

namespace MarcLens

/-- A character that may stand after a dollar sign as the code of a subfield. -/
def isSubfieldCode (c : Char) : Bool := c.isLower || c.isDigit

namespace Subfield

/-- The subfield that begins with `c` at `offset`, if `c` is the dollar sign of a marker. -/
def ofMarker? (offset : Nat) (c : Char) (rest : Text) : Option Subfield :=
  match rest with
  | [] => none
  | code :: tail =>
    if c = '$' ∧ isSubfieldCode code then
      let raw := tail.takeWhile (· ≠ '$')
      some
        { code := [code], content := Text.trimRight raw
          start := offset, stop := offset + 2 + raw.length }
    else none

/-- The subfields whose markers stand in a text, with spans counted from `offset`. -/
def scanFrom (offset : Nat) : Text → List Subfield
  | [] => []
  | c :: cs => (ofMarker? offset c cs).toList ++ scanFrom (offset + 1) cs

/-- The subfields of a piece of subfield data. -/
def scan (data : Text) : List Subfield := scanFrom 0 data

end Subfield

end MarcLens

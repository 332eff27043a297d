import MarcLens.Field.Scan
import MarcLens.Text.LineEnd

/-!
# MRK lines

In MRK every field starts with an equals sign and its tag:

    =LDR  00000nam  2200000 a 4500
    =001  123456789
    =245  10$aTitle$bsubtitle

One or more blanks follow the tag. Tags below 010 are those of control fields.
-/

namespace MarcLens.Mrk

/-- Two indicators and the subfield data up to the end of the line. -/
def indicatorsAndData : Text → Option (Char × Char × Text)
  | a :: b :: rest =>
    if a = '\n' ∨ b = '\n' then none else (Text.upToEnd rest).map fun data => (a, b, data)
  | _ => none

/-- An indicator as it is kept: every blank counts as a space. -/
def indicator (c : Char) : Text := if isBlank c then [' '] else [c]

/-- Reads a field without subfields from what follows its tag. -/
def contentField? (kind : FieldKind) (tag rest : Text) : Option Field :=
  (Text.afterBlanks Text.contentUpToEnd rest).map fun content =>
    { tag := tag, kind := kind, content := some content }

/-- Reads a data field from what follows its tag. -/
def dataField? (tag rest : Text) : Option Field :=
  (Text.afterBlanks indicatorsAndData rest).map fun (a, b, data) =>
    { tag := tag, kind := .data, indicator1 := some (indicator a), indicator2 := some (indicator b)
      subfields := some (Subfield.scan data) }

/-- Reads a field from the three characters of its tag and what follows them. -/
def taggedField? (a b c : Char) (rest : Text) : Option Field :=
  if [a, b, c] = ['L', 'D', 'R'] then contentField? .leader [a, b, c] rest
  else if a.isDigit && b.isDigit && c.isDigit then
    if a = '0' ∧ b = '0' then contentField? .control [a, b, c] rest
    else dataField? [a, b, c] rest
  else none

/-- Reads the field on an MRK line with the given number. -/
def field? (line : Text) (number : Int) : Option Field :=
  match line with
  | '=' :: a :: b :: c :: rest =>
    (taggedField? a b c rest).map fun f => { f with line := number, stop := line.length }
  | _ => none

end MarcLens.Mrk

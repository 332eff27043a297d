import MarcLens.Field.Scan
import MarcLens.Text.Digit
import MarcLens.Text.LineEnd

/-!
# Line mode

In line mode the leader stands alone, and every other field has its parts in fixed columns:

    00000nam  2200000 a 4500
    001 123456789
    245 10 $a Title $b subtitle

The tag takes columns 0 to 2, the indicators columns 4 and 5. Columns 3 and 6 hold blanks.
-/

namespace MarcLens.LineMode

/-- A leader has 24 characters, none of them a line feed, of which the first five are decimal
    digits. -/
def isLeader (t : Text) : Bool :=
  t.length = 24 && (t.take 5).all isDecimal && (t.drop 5).all (· ≠ '\n')

/-- The tags 001 to 009, in ASCII digits. -/
def isControlTag (tag : Text) : Bool :=
  match tag with
  | ['0', '0', c] => c.isDigit && c ≠ '0'
  | _ => false

/-- Reads a control field from a line. -/
def controlField? : Text → Option Field
  | a :: b :: c :: gap :: rest =>
    if isControlTag [a, b, c] && isBlank gap then
      (Text.contentUpToEnd rest).map fun content =>
        { tag := [a, b, c], kind := .control, content := some content }
    else none
  | _ => none

/-- Reads a data field from a line. The blank in front of the subfields counts as subfield data. -/
def dataField? : Text → Option Field
  | a :: b :: c :: gap :: i :: j :: gap2 :: rest =>
    if [a, b, c].all isDecimal && isBlank gap && i ≠ '\n' && j ≠ '\n' && isBlank gap2 then
      (Text.upToEnd rest).map fun data =>
        { tag := [a, b, c], kind := .data, indicator1 := some [i], indicator2 := some [j]
          subfields := some (Subfield.scan (gap2 :: data)) }
    else none
  | _ => none

/-- Reads the field on a line, apart from where the line stands. Blanks around a leader do not
    matter, and the first reading that succeeds counts. -/
def reading? (line : Text) : Option Field :=
  let leader := Text.trim line
  if isLeader leader then some { tag := ['L', 'D', 'R'], kind := .leader, content := some leader }
  else (controlField? line).or (dataField? line)

/-- Reads the field on a line with the given number. -/
def field? (line : Text) (number : Int) : Option Field :=
  (reading? line).map fun f => { f with line := number, stop := line.length }

end MarcLens.LineMode

import MarcLens.Format.LineMode
import MarcLens.Format.Mrk

/-!
# Formats

A document is written in MRK or in line mode. A caller may also name some other format; such a line
is read as MRK, and everything else about it follows the columns of line mode.

## Main definitions

- `Format.detect`: the format of a document
- `Format.field?`: the field on a line
- `Format.looksLikeField`: whether a line starts the way a field does
- `Format.indicators?`: where the indicators stand in a line
- `Format.contentStart?`: where the content of a field starts in a line
-/

namespace MarcLens

inductive Format where
  | mrk
  | line
  | other
deriving DecidableEq, Repr

namespace Format

/-- The format of a document: MRK if its first line that is not void starts with an equals sign,
    blanks aside, or if there is no such line. -/
def detect (document : Text) : Format :=
  match document.lines.find? fun l => !Text.isVoid l with
  | none => .mrk
  | some l => if (Text.trim l).head? = some '=' then .mrk else .line

/-- Reads the field on a line with the given number. -/
def field? : Format → Text → Int → Option Field
  | .line => LineMode.field?
  | _ => Mrk.field?

/-- The line as the reader of a whole document takes it: in MRK without the blanks around it. -/
def prepare : Format → Text → Text
  | .line => id
  | _ => Text.trim

/-- A line starts the way a field does: with an equals sign in MRK, with a decimal digit otherwise,
    blanks aside. -/
def looksLikeField (fmt : Format) (l : Text) : Bool :=
  match fmt, (Text.trim l).head? with
  | _, none => false
  | .mrk, some c => c = '='
  | _, some c => isDecimal c

/-- The last column that counts as part of the tag. -/
def tagEnd : Format → Int
  | .mrk => 4
  | _ => 2

/-- The tag of a field as it is written in a line. -/
def writtenTag : Format → Text → Text
  | .mrk, tag => '=' :: tag
  | _, tag => tag

/-- A leader that has no tag in front of it. -/
def isBareLeader (fmt : Format) (tag : Text) : Bool := fmt = .line && tag = ['L', 'D', 'R']

/-- The position at which the content of the field with the given tag starts in a line: after the
    tag and the spaces that follow it. -/
def contentStart? (fmt : Format) (l tag : Text) : Option Nat :=
  if fmt.isBareLeader tag then some 0
  else
    let written := fmt.writtenTag tag
    (Text.find? written l).map fun i =>
      let start := i + written.length
      start + ((l.drop start).takeWhile (· = ' ')).length

/-- A tag followed by two indicators, with their positions in a line, and the position at which the
    whole ends. -/
structure Indicators where
  tag : Text
  tagAt : Nat
  first : Char
  firstAt : Nat
  second : Char
  secondAt : Nat
  stop : Nat
deriving DecidableEq, Repr

/-- Two indicators in front of a dollar sign, and the number of characters from the first of them
    to the end of the text. -/
def indicatorsBeforeDollar : Text → Option (Char × Char × Nat)
  | a :: b :: '$' :: rest =>
    if a = '\n' ∨ b = '\n' then none else some (a, b, rest.length + 3)
  | _ => none

/-- The tag and the indicators of an MRK field that starts at the head of a text, the text being
    the end of a line from position `offset` on. -/
def mrkIndicatorsHere? (offset : Nat) : Text → Option Indicators
  | '=' :: a :: b :: c :: rest =>
    if [a, b, c].all isDecimal then
      (Text.afterBlanks indicatorsBeforeDollar rest).map fun (i, j, left) =>
        let at1 := offset + 4 + (rest.length - left)
        { tag := [a, b, c], tagAt := offset + 1, first := i, firstAt := at1, second := j
          secondAt := at1 + 1, stop := at1 + 2 }
    else none
  | _ => none

/-- The first MRK tag with indicators in the end of a line from position `offset` on. -/
def mrkIndicatorsFrom? (offset : Nat) : Text → Option Indicators
  | [] => none
  | c :: cs => (mrkIndicatorsHere? offset (c :: cs)).or (mrkIndicatorsFrom? (offset + 1) cs)

/-- The tag and the indicators in the columns of line mode. -/
def columnIndicators? : Text → Option Indicators
  | a :: b :: c :: gap :: i :: j :: gap2 :: _ =>
    if [a, b, c].all isDecimal && isBlank gap && i ≠ '\n' && j ≠ '\n' && isBlank gap2 then
      some { tag := [a, b, c], tagAt := 0, first := i, firstAt := 4, second := j, secondAt := 5
             stop := 7 }
    else none
  | _ => none

/-- The first place in a line where a tag is followed by two indicators. -/
def indicators? : Format → Text → Option Indicators
  | .mrk, l => mrkIndicatorsFrom? 0 l
  | _, l => columnIndicators? l

end Format

end MarcLens

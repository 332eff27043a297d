import MarcLens.Format.Basic
import MarcLens.Record

/-!
# Documents

A document is a text whose lines hold the fields of records, one field a line.

## Main definitions

- `Document.records`: the records of a document
- `Document.line?`: a line of a document by its number
- `Document.fieldAt?`: the field on a line of an MRK document
-/

namespace MarcLens.Document

/-- The fields of a document in a given format, in order and numbered from line 1. Lines that are
    void, or that the format cannot read, hold no field. -/
def fields (fmt : Format) (document : Text) : List Field :=
  document.lines.zipIdx.filterMap fun (l, i) =>
    if Text.isVoid l then none else fmt.field? (fmt.prepare l) (i + 1)

def records (fmt : Format) (document : Text) : List Record := Record.group (fields fmt document)

/-- The line with a given number, counted from 0. A negative number counts from the end of the
    document. There is no line after the last one, and asking before the first one is a fault. -/
def line? (document : Text) (number : Int) : Except Fault (Option Text) :=
  let lines := document.lines
  if lines.length ≤ number then .ok none
  else
    let index := if number < 0 then number + lines.length else number
    if index < 0 then .error .lineOutOfRange else .ok lines[index.toNat]?

/-- The field on a line of an MRK document. -/
def fieldAt? (document : Text) (number : Int) : Except Fault (Option Field) := do
  return (← line? document number).bind fun l => Mrk.field? l (number + 1)

end MarcLens.Document

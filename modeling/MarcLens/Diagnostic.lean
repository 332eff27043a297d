import MarcLens.Document
import MarcLens.Field.Complaint

/-!
# Diagnostics

The verdict on a document, line by line: a line that holds no field is an error, and every complaint
about a field is a warning.
-/

namespace MarcLens

/-- A place in a document: a line and a character of it, both counted from 0. The protocol knows
    whole numbers from 0 to 2^31 - 1 only, and a server cannot build a place outside of these
    bounds. A place is not held to them here. -/
structure Place where
  line : Int
  character : Int
deriving DecidableEq, Repr

/-- The part of a document from one place up to another. As for places, the bounds of the protocol
    are not asked for. -/
structure Range where
  start : Place
  stop : Place
deriving DecidableEq, Repr

/-- The characters from `start` up to `stop` of a line. -/
def Range.onLine (line start stop : Int) : Range := ⟨⟨line, start⟩, ⟨line, stop⟩⟩

inductive Severity where
  | error
  | warning
deriving DecidableEq, Repr

structure Diagnostic where
  range : Range
  severity : Severity
  message : String
deriving DecidableEq, Repr

namespace Diagnostic

/-- What is wrong with a line that is not void. -/
def verdict (fmt : Format) (l : Text) (number : Int) : List (Severity × String) :=
  match if fmt.looksLikeField l then fmt.field? l (number + 1) else none with
  | none => [(.error, "Invalid MARC line format")]
  | some f => f.complaints.map fun c => (.warning, c.message f.tag)

/-- The diagnostics of the line with the given number, counted from 0. Each covers the whole line.
    -/
def ofLine (fmt : Format) (l : Text) (number : Int) : List Diagnostic :=
  if Text.isVoid l then []
  else (verdict fmt l number).map fun (severity, message) =>
    { range := .onLine number 0 l.length, severity := severity, message := message }

/-- The diagnostics of a document, in the order of its lines. -/
def ofDocument (document : Text) : List Diagnostic :=
  let fmt := Format.detect document
  document.lines.zipIdx.flatMap fun (l, i) => ofLine fmt l i

end Diagnostic

end MarcLens

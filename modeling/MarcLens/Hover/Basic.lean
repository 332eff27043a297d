import MarcLens.Hover.Locate

/-!
# Hovers

The answer to a cursor that rests on a place of a document.
-/

namespace MarcLens

/-- A text in Markdown and the part of the document that it is about, unless that is a whole line.
    -/
structure Hover where
  text : String
  range : Option Range
deriving Repr

namespace Hover

/-- The hover for a note on characters of a line. -/
def ofLocated (l : Text) (line : Int) (found : Located) : Except Fault Hover := do
  let text ← found.note.markdown
  return ⟨text, if found.stop - found.start < l.length then some (found.range line) else none⟩

/-- The hover for a character of a line of a document. There is none where the line holds no field
    or nothing is known about what stands there. -/
def onLine? (cat : Catalogue) (document l : Text) (line character : Int) :
    Except Fault (Option Hover) := do
  let fmt := Format.detect document
  match if fmt.looksLikeField l then fmt.field? l (line + 1) else none with
  | none => return none
  | some f =>
    match ← Locate.at? cat fmt l f character (RecordType.ofDocument? fmt document) with
    | none => return none
    | some found => return some (← ofLocated l line found)

/-- The hover for a place of a document. -/
def at? (cat : Catalogue) (document : Text) (place : Place) : Except Fault (Option Hover) := do
  match ← Document.line? document place.line with
  | none => return none
  | some l => onLine? cat document l place.line place.character

end Hover

end MarcLens

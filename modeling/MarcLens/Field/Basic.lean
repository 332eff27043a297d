import MarcLens.Fault

/-!
# Fields

A line of a record is a field: the leader, a control field with plain content, or a data field with
two indicators and subfields. A field may also be put together by hand, so its parts are optional
and its positions are any integers.

## Main definitions

- `Subfield`, `FieldKind`, `Field`
- `Field.subfieldAt?`: the subfield under a character position
-/

namespace MarcLens

/-- A coded part of a data field. Its span counts characters from the start of the subfield data
    and includes the marker in front of the code. -/
structure Subfield where
  code : Text
  content : Text := []
  start : Int := 0
  stop : Int := 0
deriving DecidableEq, Repr

inductive FieldKind where
  | leader
  | control
  | data
deriving DecidableEq, Repr

/-- The word for a kind of field. -/
def FieldKind.word : FieldKind → String
  | leader => "leader"
  | control => "control"
  | data => "data"

/-- The kind of field that a word names. -/
def FieldKind.ofWord (word : String) : Except Fault FieldKind :=
  match [leader, control, data].find? fun k => k.word = word with
  | some k => .ok k
  | none => .error (.notAFieldKind word)

/-- A field of a record, with the number of its line and the characters that it spans there. -/
structure Field where
  tag : Text
  kind : FieldKind := .data
  indicator1 : Option Text := none
  indicator2 : Option Text := none
  content : Option Text := none
  subfields : Option (List Subfield) := none
  line : Int := 0
  start : Int := 0
  stop : Int := 0
deriving DecidableEq, Repr

namespace Field

/-- The subfields of a field; a field without a list of them has none. -/
def subfieldList (f : Field) : List Subfield := f.subfields.getD []

/-- The first subfield whose span, its end included, holds the position. -/
def subfieldAt? (f : Field) (position : Int) : Option Subfield :=
  f.subfieldList.find? fun s => s.start ≤ position && position ≤ s.stop

end Field

end MarcLens

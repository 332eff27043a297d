import MarcLens.Fault
import MarcLens.Json.Compare
import MarcLens.RecordType

/-!
# The catalogue of documentation

What is known about tags, their subfields, and the character positions of fixed fields. Tags are
documented apart for bibliographic and for holdings records; fixed fields are documented for each
type of record. What is documented is a JSON value as the data files have it: a text is usually a
string, a table of indicators or values an object, and a bound of a position an integer.

## Main definitions

- `TagDefinition`, `SubfieldDefinition`, `Position`
- `Catalogue`: all documentation, and whether it was loaded in full
- `Catalogue.tag?`, `Catalogue.subfield?`, `Catalogue.position?`: looking things up
-/

namespace MarcLens

structure SubfieldDefinition where
  code : Json
  name : Json
  description : Json
  repeatable : Json := .bool false
deriving Repr

/-- What is known about a tag. Indicators are filed by number and then by value, subfields by
    code. -/
structure TagDefinition where
  tag : Json
  name : Json
  description : Json
  indicators : Json := .obj []
  subfields : Table SubfieldDefinition := []
deriving Repr

/-- The definition of a tag whose indicators may be null, which counts as an empty table. -/
def TagDefinition.make (tag name description indicators : Json)
    (subfields : Table SubfieldDefinition) : TagDefinition :=
  { tag := tag, name := name, description := description
    indicators := match indicators with
      | .null => .obj []
      | indicators => indicators
    subfields := subfields }

/-- A run of characters in a fixed field, from `start` to `stop` inclusive. -/
structure Position where
  start : Json
  stop : Json
  name : Json
  description : Json
  values : Json := .null
deriving Repr

namespace Position

/-- A position whose stop is -1 reaches to the end of the field. -/
def isOpen (p : Position) : Bool := p.stop.isInt (-1)

/-- The fault of a position that starts at no number. -/
def startFault (p : Position) : Fault :=
  if p.isOpen then .openStartNotNumber p.start.kindWord else .startNotNumber p.start.kindWord

/-- A position covers a character. The stop only matters if the character is not before the
    start. -/
def covers (p : Position) (character : Int) : Except Fault Bool :=
  match p.start.atMost? character with
  | none => .error p.startFault
  | some false => .ok false
  | some true =>
    if p.isOpen then .ok true
    else
      match p.stop.atLeast? character with
      | none => .error (.stopNotNumber p.stop.kindWord)
      | some reached => .ok reached

/-- The first position in a table that covers a character. -/
def first? (character : Int) : Table Position → Except Fault (Option Position)
  | [] => .ok none
  | (_, p) :: rest => do if ← p.covers character then return some p else first? character rest

end Position

/-- The positions of fixed fields, filed by tag and then by name. -/
abbrev FixedFields := Table (Table Position)

/-- All documentation. Fixed fields are filed by the key of a type of record; those of the samples
    belong to no type and are only counted. -/
structure Catalogue where
  bibliographic : Table TagDefinition := []
  holdings : Table TagDefinition := []
  sampleFields : FixedFields := []
  fixedFields : Table FixedFields := []
  loaded : Bool := false
deriving Repr

namespace Catalogue

/-- The definition of a tag: that for bibliographic records, or else that for holdings. -/
def tag? (c : Catalogue) (tag : String) : Option TagDefinition :=
  (c.bibliographic.get? tag).or (c.holdings.get? tag)

def subfield? (c : Catalogue) (tag code : String) : Option SubfieldDefinition :=
  (c.tag? tag).bind (·.subfields.get? code)

/-- All documented tags in ascending order, each once. -/
def allTags (c : Catalogue) : List String :=
  (c.bibliographic.names ++ c.holdings.names).eraseDups.mergeSort fun a b => a ≤ b

/-- The codes under which the subfields of a tag are filed. -/
def subfieldCodes (c : Catalogue) (tag : String) : List String :=
  ((c.tag? tag).map (·.subfields.names)).getD []

/-- The positions of a fixed field in records of a given type. -/
def fixedField? (c : Catalogue) (tag : String) (type : RecordType) : Option (Table Position) :=
  (c.fixedFields.get? type.key).bind (·.get? tag)

/-- A tag is that of a fixed field in records of a given type. Without a type no field is fixed. -/
def isFixed (c : Catalogue) (tag : String) (type : Option RecordType) : Bool :=
  (type.bind (c.fixedField? tag)).isSome

/-- The first position of a fixed field that covers a character. -/
def position? (c : Catalogue) (tag : String) (character : Int) (type : RecordType) :
    Except Fault (Option Position) :=
  Position.first? character ((c.fixedField? tag type).getD [])

/-- How much a catalogue holds. -/
structure Extent where
  bibliographicTags : Nat
  holdingsTags : Nat
  sampleFields : Nat
  loaded : Bool
deriving DecidableEq, Repr

def Extent.totalTags (e : Extent) : Nat := e.bibliographicTags + e.holdingsTags

def extent (c : Catalogue) : Extent :=
  { bibliographicTags := c.bibliographic.length
    holdingsTags := c.holdings.length
    sampleFields := c.sampleFields.length
    loaded := c.loaded }

end Catalogue

end MarcLens

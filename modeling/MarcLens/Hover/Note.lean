import MarcLens.Catalogue.Basic
import MarcLens.Field.Basic
import MarcLens.Hover.Page
import MarcLens.Json.Lookup
import MarcLens.Json.Shown

/-!
# Notes

What there is to say about a part of a field, and its wording in Markdown. Documentation that is not
of the expected kind is a fault only where the wording needs it.

## Main definitions

- `Note`: something to say about a part of a field
- `Note.markdown`: the wording of a note
-/

namespace MarcLens

/-- One of the two indicators of a data field. -/
inductive IndicatorNumber where
  | first
  | second
deriving DecidableEq, Repr

def IndicatorNumber.key : IndicatorNumber → String
  | first => "1"
  | second => "2"

inductive Note where
  /-- The name and the description of a tag. -/
  | tag (tag : Text) (definition : TagDefinition)
  /-- All that is known about a tag, its indicators only for a data field. -/
  | sheet (tag : Text) (definition : TagDefinition) (withIndicators : Bool)
  /-- An indicator, and the indicators that the tag documents. -/
  | indicator (number : IndicatorNumber) (value : Text) (documented : Json)
  /-- A subfield of a field with the given tag. -/
  | subfield (tag : Text) (subfield : Subfield) (definition : Option SubfieldDefinition)
  /-- A position of a fixed field and the characters that stand there. -/
  | position (tag : Text) (position : Position) (value : Text)
  /-- A character of a fixed field that no position covers. -/
  | character (tag : Text) (character : Int)
deriving Repr

namespace Note

/-- A heading: a label, a name, and a blank line. -/
def heading (label name : String) : String := "**" ++ label ++ " - " ++ name ++ "**\n\n"

/-- The values of an indicator, or of anything else that has values, one on a line. -/
def valueLines (mark : String) (values : Table Json) : String :=
  String.join (values.map fun (value, meaning) =>
    mark ++ "`" ++ value ++ "`: " ++ meaning.shown ++ "\n")

/-- The part of a sheet on indicators. -/
def indicatorLines (indicators : Json) : Except Fault String := do
  if !indicators.holds then return ""
  let parts ← (← indicators.entries).mapM fun (number, values) => do
    return "Indicator " ++ number ++ ":\n" ++ valueLines "- " (← values.entries) ++ "\n"
  return "**Indicators:**\n\n" ++ String.join parts

/-- A subfield on a sheet. A description that only repeats the name is left out. -/
def subfieldLines (code : String) (d : SubfieldDefinition) : String :=
  "- `$" ++ code ++ "`: " ++ d.name.shown ++ (if d.repeatable.holds then " (R)" else "") ++ "\n" ++
    if d.description.same d.name then ""
    else "  " ++ d.description.shown ++ "\n"

/-- The part of a sheet on subfields, in the order of their codes. -/
def subfieldsLines (subfields : Table SubfieldDefinition) : String :=
  if subfields.isEmpty then ""
  else
    let sorted := subfields.mergeSort fun a b => a.1 ≤ b.1
    "**Subfields:**\n\n" ++ String.join (sorted.map fun (code, d) => subfieldLines code d)

/-- The bounds of a position. -/
def bounds (p : Position) : String :=
  if p.isOpen then p.start.shown ++ "+"
  else if p.start.same p.stop then p.start.shown
  else p.start.shown ++ "-" ++ p.stop.shown

/-- The meaning of the value at a position, and the other values that could stand there. -/
def positionValues (values : Json) (value : String) : Except Fault String := do
  if !values.holds then return ""
  let current := match ← values.filed? value with
    | some meaning => " = " ++ meaning.shown
    | none => " (not recognized)"
  let others := (← values.entries).filter fun entry => entry.1 ≠ value
  return "**Current:** `" ++ value ++ "`" ++ current ++ "\n\n**Other values:**\n" ++
    valueLines "" others

/-- The meaning of an indicator, where it is documented. -/
def indicatorMeaning (number : IndicatorNumber) (value : String) (documented : Json) :
    Except Fault String := do
  if !documented.holds then return ""
  match ← documented.filed? number.key with
  | none => return ""
  | some values => return "\n\n" ++ (← values.meaning value).shown

/-- The wording of a note. The description of a tag has to be a text where it ends the note. A sheet
    needs a tag for which a documentation page can be told, although it does not name the page. -/
def markdown : Note → Except Fault String
  | .tag label d =>
    match d.description with
    | .str description => .ok (heading (String.ofList label) d.name.shown ++ description)
    | other => .error (.descriptionNotText other.kindWord)
  | .sheet label d withIndicators => do
    let indicators ← if withIndicators then indicatorLines d.indicators else .ok ""
    let _ ← documentationPage label
    return heading d.tag.shown d.name.shown ++ d.description.shown ++ "\n\n" ++ indicators ++
      subfieldsLines d.subfields
  | .indicator number value documented => do
    let value := String.ofList value
    return "**Indicator " ++ number.key ++ ":** `" ++ value ++ "`" ++
      (← indicatorMeaning number value documented)
  | .subfield _ s (some d) =>
    .ok (heading ("$" ++ d.code.shown) d.name.shown ++ d.description.shown ++ "\n\n" ++
      (if d.repeatable.holds then "*Repeatable subfield*\n\n" else "") ++
      "**Content:** " ++ String.ofList s.content ++ "\n\n")
  | .subfield label s none =>
    .ok ("**$" ++ String.ofList s.code ++ "** - Unknown subfield for tag " ++ String.ofList label)
  | .position label p value => do
    let value := String.ofList value
    return heading (String.ofList label) p.name.shown ++ "Position: " ++ bounds p ++ "\nValue: `" ++
      value ++ "`\n\n" ++ p.description.shown ++ "\n\n" ++ (← positionValues p.values value)
  | .character label c =>
    .ok ("**" ++ String.ofList label ++ " position " ++ c.repr ++
      "** - Character position in fixed field")

end Note

end MarcLens

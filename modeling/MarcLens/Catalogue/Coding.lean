import MarcLens.Catalogue.Basic

/-!
# Documentation in JSON

Definitions and positions as members of a data file. A definition has to have all its texts, and a
position its bounds, of whatever kind they are.

## Main definitions

- `TagDefinition.ofJson?`, `SubfieldDefinition.ofJson?`, `Position.ofJson?`: reading
- `TagDefinition.toJson`, `SubfieldDefinition.toJson`, `Position.toJson`: writing
-/

namespace MarcLens

/-- Reads the definition of a subfield. -/
def SubfieldDefinition.ofJson? (j : Json) : Option SubfieldDefinition := do
  return {
    code := ← j.get? "code"
    name := ← j.get? "name"
    description := ← j.get? "description"
    repeatable := (j.get? "repeatable").getD (.bool false) }

def SubfieldDefinition.toJson (d : SubfieldDefinition) : Json :=
  .obj [("code", d.code), ("name", d.name), ("description", d.description),
    ("repeatable", d.repeatable)]

/-- Reads a member that is an object of entries, or is left out when there are none. -/
def entries? {α : Type} (read? : Json → Option α) (j : Option Json) : Option (Table α) :=
  match j with
  | none => some []
  | some j => j.table?.bind (·.mapValues? read?)

/-- Reads the definition of a tag. -/
def TagDefinition.ofJson? (j : Json) : Option TagDefinition := do
  return .make (← j.get? "tag") (← j.get? "name") (← j.get? "description")
    ((j.get? "indicators").getD .null)
    (← entries? SubfieldDefinition.ofJson? (j.get? "subfields"))

/-- Writes the definition of a tag, together with whether the tag may be repeated. Indicators that
    are not set are written as an empty object. -/
def TagDefinition.toJson (d : TagDefinition) (repeatable : Json) : Json :=
  .obj [("tag", d.tag), ("name", d.name), ("description", d.description),
    ("repeatable", repeatable), ("indicators", d.indicators.orEmpty),
    ("subfields", .obj (d.subfields.mapValues SubfieldDefinition.toJson))]

/-- Reads a position. -/
def Position.ofJson? (j : Json) : Option Position := do
  return {
    start := ← j.get? "start"
    stop := ← j.get? "end"
    name := ← j.get? "name"
    description := ← j.get? "description"
    values := (j.get? "values").getD .null }

/-- Writes a position. Values that are not set are written as an empty object. -/
def Position.toJson (p : Position) : Json :=
  .obj [("start", p.start), ("end", p.stop), ("name", p.name), ("description", p.description),
    ("values", p.values.orEmpty)]

/-- Reads the fixed fields of one type of record. -/
def FixedFields.ofJson? (j : Json) : Option FixedFields := do
  (← j.table?).mapValues? fun positions => positions.table?.bind (·.mapValues? Position.ofJson?)

def FixedFields.toJson (fields : FixedFields) : Json :=
  .obj (fields.mapValues fun positions => .obj (positions.mapValues Position.toJson))

end MarcLens

import MarcLens.Catalogue.Coding

/-!
# Documentation in JSON, written and read

Definitions and positions are read back from the JSON values that they are written as. Indicators
and values that are not set come back as empty tables, and everything else as it was.

## Main definitions

- `TagDefinition.filled`, `Position.filled`, `FixedFields.filled`: what is read back

## Main statements

- `TagDefinition.ofJson?_toJson`, `FixedFields.ofJson?_toJson`: reading undoes writing
-/

namespace MarcLens

theorem Json.get?_obj (members : Table Json) (name : String) :
    (Json.obj members).get? name = members.get? name := rfl

theorem Json.orEmpty_ne_null (j : Json) : j.orEmpty ≠ .null := by
  rw [orEmpty]
  split
  · rintro rfl
    simp_all [holds]
  · simp

/-- The definition of a tag with an empty table for indicators that are not set. -/
def TagDefinition.filled (d : TagDefinition) : TagDefinition :=
  { d with indicators := d.indicators.orEmpty }

/-- A position with an empty table for values that are not set. -/
def Position.filled (p : Position) : Position := { p with values := p.values.orEmpty }

def FixedFields.filled (fields : FixedFields) : FixedFields :=
  fields.mapValues fun positions => positions.mapValues Position.filled

theorem SubfieldDefinition.ofJson?_toJson (d : SubfieldDefinition) : ofJson? d.toJson = some d := by
  simp [ofJson?, toJson, Json.get?_obj, Table.get?_cons]

theorem TagDefinition.ofJson?_toJson (d : TagDefinition) (repeatable : Json) :
    ofJson? (d.toJson repeatable) = some d.filled := by
  have hsubfields : entries? SubfieldDefinition.ofJson?
      (some (.obj (d.subfields.mapValues SubfieldDefinition.toJson))) = some d.subfields := by
    change Table.mapValues? _ _ = _
    rw [Table.mapValues?_mapValues SubfieldDefinition.ofJson?_toJson]
    simp [Table.mapValues]
  have hmake : make d.tag d.name d.description d.indicators.orEmpty d.subfields = d.filled := by
    -- What is written for the indicators is never null, so it is taken as it is.
    have hset := d.indicators.orEmpty_ne_null
    simp only [make, filled]
  simp [ofJson?, toJson, Json.get?_obj, Table.get?_cons, hsubfields, hmake]

theorem Position.ofJson?_toJson (p : Position) : ofJson? p.toJson = some p.filled := by
  simp [ofJson?, toJson, filled, Json.get?_obj, Table.get?_cons]

theorem FixedFields.ofJson?_toJson (fields : FixedFields) :
    ofJson? (toJson fields) = some (filled fields) := by
  simp only [ofJson?, toJson, Json.table?, Option.bind_eq_bind, Option.bind_some]
  refine Table.mapValues?_mapValues ?_ fields
  intro positions
  exact Table.mapValues?_mapValues Position.ofJson?_toJson positions

end MarcLens

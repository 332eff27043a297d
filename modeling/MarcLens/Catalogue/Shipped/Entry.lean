import MarcLens.Catalogue.Basic

/-!
# Entries of the shipped documentation

Short forms for the definitions that come with the library. No shipped tag documents its indicators,
and nearly all subfields may be repeated.
-/

namespace MarcLens.Shipped

/-- A tag filed under itself. -/
def entry (tag name description : String) (subfields : Table SubfieldDefinition) :
    String × TagDefinition :=
  (tag, { tag := .str tag, name := .str name, description := .str description
          subfields := subfields })

/-- A subfield that may be repeated, filed under its code. -/
def described (code name description : String) : String × SubfieldDefinition :=
  (code, { code := .str code, name := .str name, description := .str description
           repeatable := .bool true })

/-- A subfield that may be repeated, and whose name describes it. -/
def named (code name : String) : String × SubfieldDefinition := described code name name

/-- A control subfield, which is described in one place for all tags. -/
def control (code name : String) : String × SubfieldDefinition :=
  described code name "See description of this subfield in Appendix A: Control Subfields."

/-- A subfield that may not be repeated. -/
def once (code name description : String) : String × SubfieldDefinition :=
  (code, { code := .str code, name := .str name, description := .str description })

/-- A position of a fixed field, with the meaning of its values. -/
def position (start stop : Int) (name description : String) (values : Table String) : Position :=
  { start := .int start, stop := .int stop, name := .str name, description := .str description
    values := .obj (values.mapValues .str) }

end MarcLens.Shipped

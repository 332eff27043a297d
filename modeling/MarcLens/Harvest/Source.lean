import MarcLens.Catalogue.Coding

/-!
# What a source tells

A source tells the definitions of tags and the positions of fixed fields, as a catalogue holds them.

## Main definitions

- `Harvest.TagInfo`: what a source tells about a tag
- `Harvest.Finding`, `Harvest.Lookup`: what looking up a tag gives
-/

namespace MarcLens.Harvest

/-- What a source tells about a tag: its definition, and whether it may be repeated. -/
structure TagInfo where
  definition : TagDefinition
  repeatable : Json
deriving Repr

def TagInfo.toJson (info : TagInfo) : Json := info.definition.toJson info.repeatable

/-- What looking up a tag gives. -/
inductive Finding where
  | found (info : TagInfo)
  | missing
  | failed (reason : String)
deriving Repr

/-- A source of documentation. -/
abbrev Lookup := String → Finding

end MarcLens.Harvest

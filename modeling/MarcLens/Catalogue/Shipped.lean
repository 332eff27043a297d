import MarcLens.Catalogue.Shipped.FixedFields
import MarcLens.Catalogue.Shipped.Holdings
import MarcLens.Catalogue.Shipped.AddedEntries
import MarcLens.Catalogue.Shipped.Description
import MarcLens.Catalogue.Shipped.MainEntries
import MarcLens.Catalogue.Shipped.Notes
import MarcLens.Catalogue.Shipped.Numbers
import MarcLens.Catalogue.Shipped.Series
import MarcLens.Catalogue.Shipped.SeriesEntries
import MarcLens.Catalogue.Shipped.Subjects
import MarcLens.Catalogue.Shipped.Titles

/-!
# The shipped catalogue
-/

namespace MarcLens

namespace Shipped

/-- The tags of bibliographic records, in ascending order. -/
def bibliographic : Table TagDefinition :=
  numbers ++ mainEntries ++ titles ++ physicalDescription ++ series ++
    notes ++ subjects ++ addedEntries ++ seriesEntries

end Shipped

/-- The catalogue that comes with the library. -/
def Catalogue.shipped : Catalogue :=
  { bibliographic := Shipped.bibliographic
    holdings := Shipped.holdings
    fixedFields := Shipped.fixedFields
    loaded := true }

end MarcLens

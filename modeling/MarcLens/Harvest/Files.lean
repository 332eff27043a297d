import MarcLens.Catalogue.Load
import MarcLens.Harvest.Gather
import MarcLens.Harvest.Tags
import MarcLens.Json.Printer

/-!
# Data files from a harvest

A harvest gathers the documentation of all tags and writes the data files from which a catalogue is
loaded.

## Main definitions

- `Harvest.fieldsByType`: the fixed fields for each type of record
- `Harvest.run`: the files of a harvest, its log and its announcement
-/

namespace MarcLens.Harvest

/-- The fixed fields for each type of record, and whether they differ by type. Here `byType` is
    filed by tag, by type and by position, if the source tells anything type by type. Where it
    tells of field 008, those types count, each with its own 008 followed by all other fields;
    otherwise all fields hold for five types of records. -/
def fieldsByType (fixed : FixedFields) (byType : Option (Table FixedFields)) :
    Table FixedFields × Bool :=
  match (byType.bind (·.get? "008")).getD [] with
  | [] =>
    ([("BIB", fixed), ("HOLD", fixed), ("AUTH", fixed), ("CLASS", fixed), ("COMM", fixed)], false)
  | types =>
    let others := fixed.filter fun entry => entry.1 ≠ "008"
    (Table.ofList (types.map fun (type, positions) =>
      (String.ofList (Text.upper type.toList), ("008", positions) :: others)), true)

/-- Where and when the documentation in a file comes from. -/
def metadata (generated : String) : Json :=
  .obj [("generated", .str generated), ("source", .str "Library of Congress MARC documentation"),
    ("version", .str "1.0"), ("generator", .str "marc-lsp-server data extraction script")]

/-- The text of a data file with one member beside its metadata. -/
def fileText (generated name : String) (member : Json) : String :=
  String.ofList (Json.pretty (.obj [("metadata", metadata generated), (name, member)]))

/-- The text of a file of tags. -/
def tagFile (generated : String) (tags : Table TagInfo) : String :=
  fileText generated "tags" (.obj (tags.mapValues TagInfo.toJson))

/-- The text of a file of fixed fields. -/
def fixedFile (generated : String) (fields : Table FixedFields) : String :=
  fileText generated "fields" (.obj (fields.mapValues FixedFields.toJson))

/-- What a harvest leaves: the files of the data directory, the log, the number of pauses, and what
    is announced at the end. -/
structure Report where
  files : Directory
  log : List LogEntry
  pauses : Nat
  announcement : String

/-- A title between two rules. -/
def banner (title : String) : List LogEntry :=
  let rule := LogEntry.info (String.ofList (List.replicate 60 '='))
  [rule, .info title, rule]

/-- Harvests all tags and all fixed fields. The files are marked as generated at the given time, and
    `home` is the place that holds the data directory. -/
def run (lookup : Lookup) (fixed : FixedFields) (byType : Option (Table FixedFields))
    (generated home : String) : Report :=
  let bibliographic := gather lookup bibliographicTags "bibliographic"
  let holdings := gather lookup holdingsTags "holdings"
  let (fields, specific) := fieldsByType fixed byType
  let total := (bibliographic.tags.length + holdings.tags.length + fixed.length).repr
  { files :=
      [("marc_bibliographic.json", tagFile generated bibliographic.tags),
       ("marc_holdings.json", tagFile generated holdings.tags),
       ("marc_fixed_fields.json", fixedFile generated fields)]
    log :=
      [.info "Starting MARC data extraction..."] ++
      banner "EXTRACTING BIBLIOGRAPHIC RECORDS" ++ bibliographic.log ++
      [.info "Bibliographic data saved to data/marc_bibliographic.json"] ++
      banner "EXTRACTING HOLDINGS RECORDS" ++ holdings.log ++
      [.info "Holdings data saved to data/marc_holdings.json"] ++
      banner "EXTRACTING FIXED FIELD DATA" ++
      [.info (if specific then
          "Fixed fields organized by record type with record-type-specific 008 definitions"
        else "Fixed fields organized by record type (generic definitions)"),
       .info "Fixed field data saved to data/marc_fixed_fields.json"] ++
      banner "EXTRACTION COMPLETE" ++
      [.info ("Bibliographic tags: " ++ bibliographic.tags.length.repr),
       .info ("Holdings tags: " ++ holdings.tags.length.repr),
       .info ("Fixed fields: " ++ fixed.length.repr),
       .info ("Total: " ++ total)]
    pauses := bibliographic.pauses.length + holdings.pauses.length
    announcement :=
      "\n🎉 MARC data extraction completed successfully!\n📊 Generated " ++ total ++
        " definitions\n📁 Files saved to: " ++ home ++ "/data\n" }

end MarcLens.Harvest

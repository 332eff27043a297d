import MarcLens.Catalogue.Coding
import MarcLens.Json.Parser
import MarcLens.Log

/-!
# Loading a catalogue

A catalogue is loaded from the files of a data directory in four stages: bibliographic tags,
holdings tags, fixed fields, and, as long as there are no tags at all, samples. A file that is
missing is passed over. A file that cannot be read ends the loading; what the stages before it have
put into the catalogue stays there, and loading can be tried again.

## Main definitions

- `Directory`: the files of a data directory
- `Catalogue.load`: loading, with the log of it
- `Site.choose`: where the data directory is when none is named
-/

namespace MarcLens

/-- The texts of the files of a directory, filed by file name. -/
abbrev Directory := Table String

/-- What a stage of loading leaves: the catalogue, the log, and whether loading has to end. -/
structure Loading where
  catalogue : Catalogue
  log : List LogEntry := []
  failed : Bool := false

/-- Goes on with the next stage, unless loading has to end. -/
def Loading.next (l : Loading) (stage : Catalogue → Loading) : Loading :=
  if l.failed then l
  else
    let done := stage l.catalogue
    { done with log := l.log ++ done.log }

namespace Catalogue

/-- The member of a file that holds an object. A member that is missing is an empty object. -/
def fileMember? (text name : String) : Option Json := do
  let table ← (← Json.parse? text.toList).table?
  return (table.get? name).getD (.obj [])

/-- The tags in the text of a file. -/
def tagsOfFile? (name text : String) : Option (Table TagDefinition) := do
  entries? TagDefinition.ofJson? (some (← fileMember? text name))

/-- Loads the tags for bibliographic records. -/
def loadBibliographic (d : Directory) (c : Catalogue) : Loading :=
  match d.get? "marc_bibliographic.json" with
  | none => { catalogue := c }
  | some text =>
    match tagsOfFile? "tags" text with
    | none => { catalogue := c, failed := true }
    | some tags =>
      { catalogue := { c with bibliographic := tags }
        log := [.info ("Loaded " ++ tags.length.repr ++ " bibliographic tags")] }

/-- Loads the tags for holdings records. -/
def loadHoldings (d : Directory) (c : Catalogue) : Loading :=
  match d.get? "marc_holdings.json" with
  | none => { catalogue := c }
  | some text =>
    match tagsOfFile? "tags" text with
    | none => { catalogue := c, failed := true }
    | some tags =>
      { catalogue := { c with holdings := tags }
        log := [.info ("Loaded " ++ tags.length.repr ++ " holdings tags")] }

/-- Files the fixed fields of one type of record after the other, up to the first type that cannot
    be read. The second component tells whether there was such a type. -/
def addTypes (filed : Table FixedFields) : List (String × Json) → Table FixedFields × Bool
  | [] => (filed, false)
  | (key, j) :: rest =>
    match FixedFields.ofJson? j with
    | none => (filed, true)
    | some fields => addTypes (filed.put key fields) rest

/-- Loads the fixed fields, type by type. Types that were filed before and are not in the file
    stay. -/
def loadFixedFields (d : Directory) (c : Catalogue) : Loading :=
  match d.get? "marc_fixed_fields.json" with
  | none => { catalogue := c }
  | some text =>
    match (fileMember? text "fields").bind Json.table? with
    | none => { catalogue := c, failed := true }
    | some types =>
      let (filed, failed) := addTypes c.fixedFields types
      { catalogue := { c with fixedFields := filed }
        log :=
          if failed then []
          else [.info ("Loaded record-type-specific fixed field definitions for: " ++
            ", ".intercalate filed.names)]
        failed := failed }

/-- Loads the samples, if there are no tags yet. The tags of the samples count as bibliographic. -/
def loadSamples (d : Directory) (c : Catalogue) : Loading :=
  if !c.bibliographic.isEmpty || !c.holdings.isEmpty then { catalogue := c }
  else
    match d.get? "test_extraction.json" with
    | none => { catalogue := c }
    | some text =>
      let log : List LogEntry := [.info "Using test extraction data"]
      match tagsOfFile? "marc_tags" text with
      | none => { catalogue := c, log := log, failed := true }
      | some tags =>
        let c := { c with bibliographic := tags }
        match (fileMember? text "fixed_fields").bind FixedFields.ofJson? with
        | none => { catalogue := c, log := log, failed := true }
        | some fields => { catalogue := { c with sampleFields := fields }, log := log }

/-- All stages of loading. -/
def loadStages (d : Directory) (c : Catalogue) : Loading :=
  (loadBibliographic d c).next (loadHoldings d) |>.next (loadFixedFields d) |>.next (loadSamples d)

/-- Loads a catalogue from a directory. A catalogue that was loaded in full is not loaded again. The
    log tells that loading failed but not why: the reason, which a server adds to this message
    behind a colon, is in the words of whatever could not be read and is left out. -/
def load (d : Directory) (c : Catalogue) : Catalogue × List LogEntry :=
  if c.loaded then (c, [])
  else
    let l := loadStages d c
    if l.failed then (l.catalogue, l.log ++ [.error "Failed to load static MARC data"])
    else ({ l.catalogue with loaded := true }, l.log)

/-- The catalogue that a directory holds, with the log of its loading. -/
def ofDirectory (d : Directory) : Catalogue × List LogEntry := load d {}

end Catalogue

/-- Where a data directory may be when none is named. -/
inductive Site where
  /-- Beside the program. -/
  | beside
  /-- Where the program was installed. -/
  | installed
deriving DecidableEq, Repr

/-- The directory beside the program is taken if it exists. -/
def Site.choose (beside : Option Directory) : Site :=
  if beside.isSome then .beside else .installed

/-- The files to load from when no directory is named. A directory that does not exist has none. -/
def Site.directory (beside installed : Option Directory) : Directory :=
  match choose beside with
  | .beside => beside.getD []
  | .installed => installed.getD []

end MarcLens

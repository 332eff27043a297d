import MarcLens.Catalogue.Shipped.Entry

/-!
# Shipped documentation: fixed fields
-/

namespace MarcLens.Shipped

def bibliographicLeader : Table Position :=
  [
    ("record_length",
      position 0 4 "Record length" "The length of the entire record in bytes (00000-99999)" []),
    ("record_status",
      position 5 5 "Record status" "The status of the record (new, corrected, deleted, etc.)" [
        ("a", "Increase in encoding level"),
        ("c", "Corrected or revised"),
        ("d", "Deleted"),
        ("n", "New"),
        ("p", "Increase in encoding level from prepublication"),
        ("x", "Record type changed")]),
    ("record_type",
      position 6 6 "Type of record" ("The type of bibliographic record (language material, " ++
          "cartographic, etc.)") [
        ("a", "Language material"),
        ("c", "Notated music"),
        ("d", "Manuscript notated music"),
        ("e", "Cartographic material"),
        ("f", "Manuscript cartographic material"),
        ("g", "Projected medium"),
        ("i", "Nonmusical sound recording"),
        ("j", "Musical sound recording"),
        ("k", "Two-dimensional nonprojectable graphic"),
        ("m", "Computer file"),
        ("o", "Kit"),
        ("p", "Mixed materials"),
        ("r", "Three-dimensional artifact or naturally occurring object"),
        ("t", "Manuscript language material"),
        ("v", "Videorecording")]),
    ("bibliographic_level",
      position 7 7 "Bibliographic level" "The hierarchical level of the record" [
        ("a", "Monographic component part"),
        ("b", "Serial component part"),
        ("c", "Collection"),
        ("d", "Subunit"),
        ("i", "Integrating resource"),
        ("m", "Monograph"),
        ("s", "Serial")]),
    ("type_of_control",
      position 8 8 "Type of control" "Whether this is an archival control record" [
        (" ", "No specified type"),
        ("a", "Archival")]),
    ("character_coding_scheme",
      position 9 9 "Character coding scheme" "The character set encoding used in the record" [
        (" ", "MARC-8"),
        ("a", "UCS/Unicode")]),
    ("indicator_count",
      position 10 10 "Indicator count" ("Number of indicators in variable data fields (always " ++
          "2)") []),
    ("subfield_code_count",
      position 11 11 "Subfield code count" ("Number of characters that precede a subfield " ++
          "(always 2: $ and code)") []),
    ("base_address_data",
      position 12 16 "Base address of data" "Starting position of first data field in record" []),
    ("encoding_level",
      position 17 17 "Encoding level" "The level of encoding of bibliographic information" [
        (" ", "Full level"),
        ("1", "Full level, material not examined"),
        ("2", "Less-than-full level, material not examined"),
        ("3", "Abbreviated level"),
        ("4", "Core level"),
        ("5", "Partial level"),
        ("7", "Minimal level"),
        ("8", "Prepublication level"),
        ("u", "Unknown"),
        ("z", "Not applicable")]),
    ("descriptive_cataloging_form",
      position 18 18 "Descriptive cataloging form" "The form of cataloging used in the record" [
        (" ", "Non-ISBD"),
        ("a", "AACR2"),
        ("c", "ISBD punctuation omitted"),
        ("d", "ISBD punctuation included"),
        ("i", "Incremental (ISBD based)"),
        ("n", "AACR2 (not applicable)"),
        ("u", "Unknown")]),
    ("multipart_resource_record_level",
      position 19 19 "Multipart resource record level" "Level of multipart resource" [
        (" ", "Not specified or not applicable"),
        ("a", "Set level"),
        ("b", "Part level")])]

def bibliographicField001 : Table Position :=
  [
    ("control_number",
      position 0 (-1) "Control number" ("Control number assigned to the record - " ++
          "system-specific identifier") [])]

def field003 : Table Position :=
  [
    ("control_number_identifier",
      position 0 (-1) "Control number identifier" ("Organization code that assigned the " ++
          "control number in field 001") [])]

def field005 : Table Position :=
  [
    ("date_and_time_last_transaction",
      position 0 (-1) "Date and time of last transaction" ("Date and time the record was last " ++
          "modified (YYYYMMDDHHMMSS.f format)") [])]

def bibliographicField006 : Table Position :=
  [
    ("fixed_length_data_elements",
      position 0 (-1) "Fixed-length data elements - additional material characteristics"
        "Additional coding information for type of record material" [])]

def bibliographicField007 : Table Position :=
  [
    ("physical_description_fixed_field",
      position 0 (-1) "Physical description fixed field" ("Describes the physical form of the " ++
          "item being cataloged") [])]

def bibliographicField008 : Table Position :=
  [
    ("date_entered",
      position 0 5 "Date entered on file" ("Date the record was entered into the database " ++
          "(YYMMDD format)") []),
    ("type_of_date",
      position 6 6 "Type of date/Publication status" "Type of date in Date 1 and Date 2" [
        ("b", "No dates given; B.C. date involved"),
        ("c", "Continuing resource currently published"),
        ("d", "Continuing resource ceased publication"),
        ("e", "Detailed date"),
        ("i", "Inclusive dates of collection"),
        ("k", "Range of years of bulk of collection"),
        ("m", "Multiple dates"),
        ("n", "Dates unknown"),
        ("p", "Date of distribution/release/issue and production/recording session different"),
        ("q", "Questionable date"),
        ("r", "Reprint/reissue date and original date"),
        ("s", "Single known/probable date"),
        ("t", "Publication date and copyright date"),
        ("u", "Continuing resource status unknown"),
        ("|", "No attempt to code")]),
    ("date1",
      position 7 10 "Date 1" "First date in bibliographic record (YYYY or other format)" []),
    ("date2",
      position 11 14 "Date 2" "Second date in bibliographic record (YYYY or other format)" []),
    ("place_of_publication",
      position 15 17 "Place of publication, production, or execution" ("Geographic area code " ++
          "(3-character MARC country code)") []),
    ("illustrations",
      position 18 21 "Illustrations" ("Four character positions indicating types of " ++
          "illustrations") [
        ("a", "Illustrations"),
        ("b", "Maps"),
        ("c", "Portraits"),
        ("d", "Charts"),
        ("e", "Plans"),
        ("f", "Plates"),
        ("g", "Music"),
        ("h", "Facsimiles"),
        ("i", "Coats of arms"),
        ("j", "Genealogical tables"),
        ("k", "Forms"),
        ("l", "Samples"),
        ("m", "Phonorecord grooves"),
        ("o", "Optical discs"),
        ("p", "Photographs"),
        ("r", "Artwork"),
        ("u", "Unspecified"),
        ("v", "Technical drawings"),
        ("w", "Manuscripts"),
        ("x", "No illustrations"),
        ("z", "Other"),
        ("|", "No attempt to code")]),
    ("target_audience",
      position 22 22 "Target audience" "Intended or actual audience for the work" [
        (" ", "Unknown or not specified"),
        ("a", "Preschool"),
        ("b", "Primary"),
        ("c", "Pre-adolescent"),
        ("d", "Adolescent"),
        ("e", "Adult"),
        ("f", "Specialized"),
        ("g", "General"),
        ("j", "Juvenile"),
        ("|", "No attempt to code")]),
    ("form_of_item",
      position 23 23 "Form of item" "Physical form of the item being described" [
        (" ", "None of the following"),
        ("a", "Microfilm"),
        ("b", "Microfiche"),
        ("c", "Microopaque"),
        ("d", "Large print"),
        ("e", "Braille"),
        ("f", "Online resource"),
        ("s", "Electronic resource"),
        ("|", "No attempt to code")]),
    ("nature_of_contents",
      position 24 27 "Nature of contents" ("Four character positions indicating type of " ++
          "contents") [
        ("a", "Abstracts/summaries"),
        ("b", "Bibliographies"),
        ("c", "Catalogs"),
        ("d", "Dictionaries"),
        ("e", "Encyclopedias"),
        ("f", "Handbooks"),
        ("g", "Legal articles"),
        ("h", "Biography"),
        ("i", "Indexes"),
        ("j", "Patent document"),
        ("k", "Discographies"),
        ("l", "Legislation"),
        ("m", "Theses"),
        ("n", "Surveys of literature in a subject"),
        ("o", "Reviews"),
        ("p", "Programmed texts"),
        ("q", "Filmographies"),
        ("r", "Directories"),
        ("s", "Statistics"),
        ("t", "Technical reports"),
        ("u", "Standards/specifications"),
        ("v", "Legal cases and case notes"),
        ("w", "Law reports and digests"),
        ("x", "Other"),
        ("y", "Yearbooks"),
        ("z", "Treaties"),
        ("|", "No attempt to code")]),
    ("government_publication",
      position 28 28 "Government publication" "Whether the item is a government publication" [
        (" ", "Not a government publication"),
        ("a", "Autonomous or semi-autonomous component"),
        ("c", "Multilocal"),
        ("f", "Federal/national"),
        ("i", "International intergovernmental"),
        ("l", "Local"),
        ("m", "Multistate"),
        ("o", "Government agency or instrument"),
        ("s", "State, provincial, territorial, dependent, etc."),
        ("u", "Unknown"),
        ("z", "Other"),
        ("|", "No attempt to code")]),
    ("conference_publication",
      position 29 29 "Conference publication" "Whether the item is a conference publication" [
        ("0", "Not a conference publication"),
        ("1", "Conference publication"),
        ("|", "No attempt to code")]),
    ("festschrift",
      position 30 30 "Festschrift" "Whether the item is a Festschrift" [
        ("0", "Not a Festschrift"),
        ("1", "Festschrift"),
        ("|", "No attempt to code")]),
    ("index",
      position 31 31 "Index" "Whether the item contains an index" [
        ("0", "No index"),
        ("1", "Index present"),
        ("|", "No attempt to code")]),
    ("undefined_32",
      position 32 32 "Undefined" "Undefined character position" []),
    ("literary_form",
      position 33 33 "Literary form" "Literary form of the work" [
        (" ", "Not fiction; not further identified"),
        ("0", "Not fiction"),
        ("1", "Fiction"),
        ("d", "Dramas"),
        ("e", "Essays"),
        ("f", "Novels"),
        ("g", "Short stories"),
        ("h", "Humor, satire, etc."),
        ("i", "Letters"),
        ("j", "Science fiction"),
        ("m", "Mixed forms"),
        ("p", "Poetry"),
        ("s", "Speeches"),
        ("t", "Treatises"),
        ("u", "Unknown"),
        ("|", "No attempt to code")]),
    ("biography",
      position 34 34 "Biography" "Whether the work is biographical" [
        (" ", "No biographical material"),
        ("a", "Autobiography"),
        ("b", "Individual biography"),
        ("c", "Collective biography"),
        ("d", "Contains biographical information"),
        ("|", "No attempt to code")]),
    ("language",
      position 35 37 "Language" ("Language code for the language of the item (ISO 639-2 " ++
          "three-letter code)") []),
    ("modified_record",
      position 38 38 "Modified record" "Whether the record has been modified" [
        (" ", "Not modified"),
        ("d", "Dashed-on information omitted"),
        ("o", "Completely romanized/printed cards romanized"),
        ("r", "Completely romanized/printed cards in script"),
        ("s", "Shortened"),
        ("x", "Missing characters"),
        ("|", "No attempt to code")]),
    ("cataloging_source",
      position 39 39 "Cataloging source" "Original cataloging source" [
        (" ", "National bibliographic agency"),
        ("c", "Cooperative cataloging program"),
        ("d", "Other"),
        ("u", "Unknown"),
        ("|", "No attempt to code")])]

def holdingsLeader : Table Position :=
  [
    ("record_length",
      position 0 4 "Record length" "The length of the entire record in bytes (00000-99999)" []),
    ("record_status",
      position 5 5 "Record status" "The status of the record (new, corrected, deleted, etc.)" [
        ("a", "Increase in encoding level"),
        ("c", "Corrected or revised"),
        ("d", "Deleted"),
        ("n", "New"),
        ("p", "Increase in encoding level from prepublication"),
        ("x", "Record type changed")]),
    ("record_type",
      position 6 6 "Type of record" ("Holdings record type indicator (always v, x, y, or z " ++
          "for holdings)") [
        ("v", "Holdings record"),
        ("x", "Holdings record - mixed"),
        ("y", "Holdings record - serial"),
        ("z", "Holdings record - integrating resource")])]

def holdingsField001 : Table Position :=
  [
    ("control_number",
      position 0 (-1) "Control number" ("Control number assigned to the holdings record - " ++
          "system-specific identifier") [])]

def holdingsField008 : Table Position :=
  [
    ("date_entered",
      position 0 5 "Date entered on file" ("Date the record was entered into the database " ++
          "(YYMMDD format)") []),
    ("type_of_record",
      position 6 6 "Type of record" "Holdings record type indicator" [
        ("v", "Holdings record"),
        ("x", "Holdings record - mixed"),
        ("y", "Holdings record - serial"),
        ("z", "Holdings record - integrating resource")]),
    ("undefined_7_8",
      position 7 8 "Undefined" "Undefined character positions" []),
    ("shelving_scheme",
      position 9 9 "Shelving scheme" "Shelving/arrangement scheme for holdings" [
        (" ", "No arrangement"),
        ("0", "LC shelving scheme"),
        ("1", "Dewey Decimal Classification"),
        ("2", "National Library of Medicine classification"),
        ("3", "National Agricultural Library call number"),
        ("4", "Shelving pattern (LC)"),
        ("5", "Shelving pattern (NLM)"),
        ("6", "Shelving pattern (NAL)"),
        ("7", "Other shelving scheme"),
        ("8", "Other shelving scheme (e.g., UDC, Medical Subject Headings)"),
        ("|", "No attempt to code")]),
    ("format_of_binding",
      position 10 10 "Format of binding or binding complexity" "Binding or packaging format" [
        (" ", "Unknown"),
        ("a", "Bound"),
        ("b", "Loose-leaf"),
        ("c", "Continues binding"),
        ("d", "Bound and continues"),
        ("e", "Other binding"),
        ("|", "No attempt to code")]),
    ("undefined_11_12",
      position 11 12 "Undefined" "Undefined character positions" []),
    ("completeness",
      position 13 13 "Completeness" "Completeness of the item holdings" [
        (" ", "Complete"),
        ("c", "Incomplete"),
        ("i", "Incomplete holdings"),
        ("x", "Other"),
        ("|", "No attempt to code")]),
    ("undefined_14",
      position 14 14 "Undefined" "Undefined character position" []),
    ("undefined_15_17",
      position 15 17 "Undefined" "Undefined character positions" []),
    ("undefined_18_37",
      position 18 37 "Undefined" "Undefined character positions - reserved for future use" []),
    ("modified_record",
      position 38 38 "Modified record" "Whether the record has been modified" [
        (" ", "Not modified"),
        ("d", "Dashed-on information omitted"),
        ("x", "Missing characters"),
        ("|", "No attempt to code")]),
    ("cataloging_source",
      position 39 39 "Cataloging source" "Holdings cataloging source" [
        (" ", "Unknown or not specified"),
        ("a", "Archival agency"),
        ("c", "Cooperative cataloging program"),
        ("d", "Other"),
        ("p", "Preference indicated"),
        ("|", "No attempt to code")])]

def authorityLeader : Table Position :=
  [
    ("record_length",
      position 0 4 "Record length" "The length of the entire record in bytes (00000-99999)" []),
    ("record_status",
      position 5 5 "Record status" "The status of the record (new, corrected, deleted, etc.)" [
        ("a", "Increase in encoding level"),
        ("c", "Corrected or revised"),
        ("d", "Deleted"),
        ("n", "New"),
        ("p", "Increase in encoding level from prepublication"),
        ("x", "Record type changed")]),
    ("record_type",
      position 6 6 "Type of record" ("Type of authority record (classification, subject, or " ++
          "name)") [
        ("c", "Classification"),
        ("d", "Subject"),
        ("n", "Name"),
        ("z", "Other")])]

def authorityField001 : Table Position :=
  [
    ("control_number",
      position 0 (-1) "Control number" ("Control number assigned to the authority record - " ++
          "system-specific identifier") [])]

def authorityField008 : Table Position :=
  [
    ("date_entered",
      position 0 5 "Date entered on file" ("Date the record was entered into the database " ++
          "(YYMMDD format)") []),
    ("undefined_6",
      position 6 6 "Undefined" "Undefined character position" []),
    ("subject_heading_system",
      position 10 10 "Subject heading or thesaurus in use" ("Subject heading system or " ++
          "thesaurus used") [
        ("a", "LC Subject Headings"),
        ("b", "Library of Congress Children's Subject Headings"),
        ("c", "Medical Subject Headings"),
        ("d", "National Agricultural Library Subject Authority File"),
        ("k", "Canadian Subject Headings"),
        ("n", "Not applicable"),
        ("r", "Art and Architecture Thesaurus"),
        ("s", "Sears List of Subject Headings"),
        ("v", "Repertoire of Art and Archaeology"),
        ("y", "Library of Congress Name Authority File"),
        ("z", "Other"),
        ("|", "No attempt to code")]),
    ("thesaurus",
      position 11 11 "Thesaurus construction rules" "Thesaurus used in record" [
        ("a", "Library of Congress Subject Headings"),
        ("b", "Library of Congress Children's Subject Headings"),
        ("c", "Medical Subject Headings"),
        ("d", "National Agricultural Library Subject Authority File"),
        ("n", "Not applicable"),
        ("z", "Other"),
        ("|", "No attempt to code")]),
    ("undefined_12_13",
      position 12 13 "Undefined" "Undefined character positions" []),
    ("kind_of_record",
      position 9 9 "Kind of record" "Type of authority record" [
        ("a", "Established heading"),
        ("b", "Provisional heading"),
        ("c", "Reference record"),
        ("d", "Subdivision record"),
        ("e", "Node label record"),
        ("f", "Node/Label alternate graphic record"),
        ("g", "Reference record - node label"),
        ("n", "Not applicable"),
        ("z", "Other"),
        ("|", "No attempt to code")]),
    ("roman_alphabet",
      position 14 14 "Roman alphabet" "Romanization scheme used" [
        (" ", "No roman alphabet data"),
        ("a", "Fully romanized"),
        ("b", "Not romanized"),
        ("c", "Mixed romanization"),
        ("d", "Omitted diacritics"),
        ("|", "No attempt to code")]),
    ("language_of_field",
      position 7 9 "Language of field 008 and subfield $a of field 040" ("Language code (ISO " ++
          "639-2 three-letter code)") []),
    ("undefined_15_37",
      position 15 37 "Undefined" "Undefined character positions - reserved for future use" []),
    ("modified_record",
      position 38 38 "Modified record" "Whether the record has been modified" [
        (" ", "Not modified"),
        ("d", "Dashed-on information omitted"),
        ("x", "Missing characters"),
        ("|", "No attempt to code")]),
    ("cataloging_source",
      position 39 39 "Cataloging source" "Cataloging source" [
        (" ", "Unknown or not specified"),
        ("c", "Cooperative cataloging program"),
        ("d", "Other"),
        ("|", "No attempt to code")])]

/-- The fixed fields of bibliographic records. -/
def bibliographicFields : FixedFields :=
  [("LDR", bibliographicLeader), ("001", bibliographicField001), ("003", field003),
   ("005", field005), ("006", bibliographicField006), ("007", bibliographicField007),
   ("008", bibliographicField008)]

/-- The fixed fields of holdings records. -/
def holdingsFields : FixedFields :=
  [("LDR", holdingsLeader), ("001", holdingsField001), ("003", field003), ("005", field005),
   ("008", holdingsField008)]

/-- The fixed fields of authority records. -/
def authorityFields : FixedFields :=
  [("LDR", authorityLeader), ("001", authorityField001), ("003", field003), ("005", field005),
   ("008", authorityField008)]

/-- The fixed fields of all types of records. -/
def fixedFields : Table FixedFields :=
  [("BIB", bibliographicFields), ("HOLD", holdingsFields), ("AUTH", authorityFields)]

end MarcLens.Shipped

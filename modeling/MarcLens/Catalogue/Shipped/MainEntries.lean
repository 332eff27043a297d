import MarcLens.Catalogue.Shipped.Entry

/-!
# Shipped documentation: main entries (tags 110 to 130)
-/

namespace MarcLens.Shipped

def tag110 : String × TagDefinition :=
  entry "110" "Main Entry-Corporate Name (NR)" ("Corporate name used as a main entry in a " ++
      "bibliographic record. According to various cataloging rules, main entry under " ++
      "corporate name is assigned to works that represent the collective thought of a body. " ++
      "Conference and meeting names that are entered subordinately to a corporate body are " ++
      "contained in this field rather than in field 111.") [
    named "a" "Corporate name or jurisdiction name as entry element",
    named "b" "Subordinate unit",
    named "c" "Location of meeting",
    named "d" "Date of meeting or treaty signing",
    named "e" "Relator term",
    named "f" "Date of a work",
    named "g" "Miscellaneous information",
    named "k" "Form subheading",
    named "l" "Language of a work",
    named "n" "Number of part/section/meeting",
    named "p" "Name of part/section of a work",
    named "t" "Title of a work",
    named "u" "Affiliation",
    named "0" "Authority record control number or standard number",
    named "1" "Real World Object URI",
    named "2" "Source of heading or term",
    named "4" "Relationship",
    named "6" "Linkage",
    named "7" "Data provenance",
    named "8" "Field link and sequence number"]

def tag111 : String × TagDefinition :=
  entry "111" "Main Entry-Meeting Name (NR)" ("Meeting or conference name used as a main " ++
      "entry in a bibliographic record. According to various cataloging rules, main entry " ++
      "under a meeting name is assigned to works that contain proceedings, reports, etc. " ++
      "Meetings entered subordinately to a corporate body that are used as main entries are " ++
      "recorded in field 110.") [
    named "a" "Meeting name or jurisdiction name as entry element",
    named "c" "Location of meeting",
    named "d" "Date of meeting or treaty signing",
    named "e" "Subordinate unit",
    named "f" "Date of a work",
    named "g" "Miscellaneous information",
    named "j" "Relator term",
    named "k" "Form subheading",
    named "l" "Language of a work",
    named "n" "Number of part/section/meeting",
    named "p" "Name of part/section of a work",
    named "q" "Name of meeting following jurisdiction name entry element",
    named "t" "Title of a work",
    named "u" "Affiliation",
    named "0" "Authority record control number or standard number",
    named "1" "Real World Object URI",
    named "2" "Source of heading or term",
    named "4" "Relationship",
    named "6" "Linkage",
    named "7" "Data provenance",
    named "8" "Field link and sequence number"]

def tag130 : String × TagDefinition :=
  entry "130" "Main Entry-Uniform Title (NR)" ("Descriptions of the first indicator position " ++
      "and all subfield codes, as well as input conventions for the 130 field, are given in " ++
      "the X30 Uniform Titles-General Information section. Because the second indicator is " ++
      "different for various X30 fields, it is not described in the general information " ++
      "section, but is described below.") [
    named "a" "Uniform title",
    named "d" "Date of treaty signing",
    named "f" "Date of a work",
    named "g" "Miscellaneous information",
    named "h" "Medium",
    named "k" "Form subheading",
    named "l" "Language of a work",
    named "m" "Medium of performance for music",
    named "n" "Number of part/section of a work",
    named "o" "Arranged statement for music",
    named "p" "Name of part/section of a work",
    named "r" "Key for music",
    named "s" "Version",
    named "t" "Title of a work",
    named "0" "Authority record control number or standard number",
    named "1" "Real World Object URI",
    named "2" "Source of heading or term",
    named "6" "Linkage",
    named "7" "Data provenance",
    named "8" "Field link and sequence number"]

/-- Main entries (tags 110 to 130). -/
def mainEntries : Table TagDefinition :=
  [tag110, tag111, tag130]

end MarcLens.Shipped

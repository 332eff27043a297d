import MarcLens.Catalogue.Shipped.Entry

/-!
# Shipped documentation: series statements (tags 400 to 490)
-/

namespace MarcLens.Shipped

def tag400 : String × TagDefinition :=
  entry "400" "Series Statement/Added Entry-Personal Name (R)" ("Used in the United States to " ++
      "support retrospective conversion of Pre-AACR 2 cataloging records. It was made " ++
      "obsolete in CAN/MARC in 1988. This field contains an author/title series statement in " ++
      "which the author portion is a personal name or a pronoun representing it that refers " ++
      "back to a 100 field. Field 400 is both a series statement and a series added entry. " ++
      "When a 400 field is present, a corresponding 800 field is not used since it would " ++
      "duplicate the 400 field.") [
    named "a" "Personal name",
    named "b" "Numeration",
    named "c" "Titles and other words associated with a name",
    named "d" "Dates associated with a name",
    named "e" "Relator term",
    named "f" "Date of a work",
    named "g" "Miscellaneous information",
    named "k" "Form subheading",
    named "l" "Language of a work",
    named "n" "Number of part/section of a work",
    named "p" "Name of part/section of a work",
    named "t" "Title of a work",
    named "u" "Affiliation",
    named "v" "Volume/sequential designation",
    named "x" "International Standard Serial Number",
    named "4" "Relator code",
    named "6" "Linkage",
    named "8" "Field link and sequence number"]

def tag410 : String × TagDefinition :=
  entry "410" "Series Statement/Added Entry-Corporate Name (R)" ("Used in the United States " ++
      "to support retrospective conversion of Pre-AACR 2 cataloging records. It was made " ++
      "obsolete in CAN/MARC in 1988. This field contains an author/title series statement in " ++
      "which the author portion is a corporate name or a pronoun representing it that refers " ++
      "back to a 110 field. Field 410 is both a series statement and a series added entry. " ++
      "When a 410 field is present, a corresponding 810 field is not used since it would " ++
      "duplicate the 410 field.") [
    named "a" "Corporate name or jurisdiction name as entry element",
    named "b" "Subordinate unit",
    named "c" "Location of meeting",
    named "d" "Date of meeting or treaty signing",
    named "e" "Relator term",
    named "f" "Date of a work",
    named "g" "Miscellaneous information",
    named "k" "Form subheading",
    named "l" "Language of a work",
    named "n" "Number of part/section/meeting",
    named "p" "Name of part/section of a work",
    named "t" "Title of a work",
    named "u" "Affiliation",
    named "v" "Volume/sequential designation",
    named "x" "International Standard Serial Number",
    named "4" "Relator code",
    named "6" "Linkage",
    named "8" "Field link and sequence number"]

def tag411 : String × TagDefinition :=
  entry "411" "Series Statement/Added Entry Meeting Name (R)" ("Used in the United States to " ++
      "support retrospective conversion of Pre-AACR 2 cataloging records. It was made " ++
      "obsolete in CAN/MARC in 1988. This local field contains an author/title series " ++
      "statement in which the author portion is a conference/meeting name or a pronoun " ++
      "representing it that refers back to a 111 field. Field 411 is both a series statement " ++
      "and a series added entry. When a 411 field is present, a corresponding 811 field is " ++
      "not used since it would duplicate the 411 field.") [
    named "a" "Meeting name or jurisdiction name as entry element",
    named "c" "Location of meeting",
    named "d" "Date of meeting",
    named "e" "Subordinate unit",
    named "f" "Date of a work",
    named "g" "Miscellaneous information",
    named "k" "Form subheading",
    named "l" "Language of a work",
    named "n" "Number of part/section/meeting",
    named "p" "Name of part/section of a work",
    named "q" "Name of meeting following jurisdiction name entry element",
    named "t" "Title of a work",
    named "u" "Affiliation",
    named "v" "Volume/sequential designation",
    named "x" "International Standard Serial Number",
    named "4" "Relator code",
    named "6" "Linkage",
    named "8" "Field link and sequence number"]

def tag440 : String × TagDefinition :=
  entry "440" "Series Statement/Added Entry-Title (R)" ("This field was made obsolete in 2008 " ++
      "to simplify the series area so that all title series statements would be entered in " ++
      "the 490 field and all title series added entries in the 830.") [
    named "a" "Title",
    named "n" "Number of part/section of a work",
    named "p" "Name of part/section of a work",
    named "v" "Volume/sequential designation",
    named "w" "Bibliographic record control number",
    named "x" "International Standard Serial Number",
    named "0" "Authority record control number",
    named "6" "Linkage",
    named "8" "Field link and sequence number"]

def tag490 : String × TagDefinition :=
  entry "490" "Series Statement (R)" ("Series statement for a series title. Field 490 does " ++
      "not serve as a series added entry. When field 490 is used and a series added entry is " ++
      "desired, both the series statement (field 490) and a corresponding series added entry " ++
      "(fields 800-830) are recorded in the bibliographic record.") [
    described "a" "Series statement" ("Note that in field 490 the names and numbers of parts " ++
        "and sections of a title are not separately subfield coded."),
    described "l" "Library of Congress call number" ("LC series call number when it is given " ++
        "as part of the series statement."),
    described "v" "Volume/sequential designation" ("Volume number or other sequential " ++
        "designation used in a series statement. Alternate numbering systems, preceded by an " ++
        "equal sign (=), are not placed in separate subfields."),
    described "x" "International Standard Serial Number" ("International Standard Serial " ++
        "Number (ISSN) for a series title given in a series statement. The ISSN is an " ++
        "authoritative-agency data element. ISSNs are assigned to serial publications " ++
        "(including series) by national centers under the auspices of the ISSN Network."),
    described "y" "Incorrect ISSN" ("Incorrect ISSN that has been associated with the " ++
        "continuing resource. Each incorrect ISSN is contained in a separate subfield $y. A " ++
        "canceled ISSN is contained in subfield $z. Note: The phrase ISSN (incorrect) may be " ++
        "generated for display, associated with the content of subfield $y."),
    described "z" "Canceled ISSN" ("Canceled ISSN that has been associated with the " ++
        "continuing resource. Each canceled ISSN is contained in a separate subfield $z. An " ++
        "incorrect ISSN is contained in subfield $y. Note: The phrase ISSN (canceled) may be " ++
        "generated for display, associated with the content of subfield $z."),
    described "3" "Materials specified" ("Part of the described materials to which the field " ++
        "applies."),
    control "6" "Linkage",
    described "7" "Data provenance" ("See description of this subfield in Appendix J: Data " ++
        "Provenance Subfields."),
    control "8" "Field link and sequence number"]

/-- Series statements (tags 400 to 490). -/
def series : Table TagDefinition :=
  [tag400, tag410, tag411, tag440, tag490]

end MarcLens.Shipped

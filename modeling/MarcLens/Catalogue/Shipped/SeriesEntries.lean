import MarcLens.Catalogue.Shipped.Entry

/-!
# Shipped documentation: series added entries and electronic location (tags 800 to 857)
-/

namespace MarcLens.Shipped

def tag800 : String × TagDefinition :=
  entry "800" "Series Added Entry-Personal Name (R)" ("Author/title series added entry in " ++
      "which the author portion is a personal name. An 800 field is usually justified by a " ++
      "series statement (field 490) or a general note (field 500) relating to the series. For " ++
      "reproductions, it may be justified by a series statement in subfield $f of field 533 " ++
      "(Reproduction Note).") [
    named "a" "Personal name",
    named "b" "Numeration",
    named "c" "Titles and other words associated with a name",
    named "d" "Dates associated with a name",
    named "e" "Relator term",
    named "f" "Date of a work",
    named "g" "Miscellaneous information",
    named "h" "Medium",
    named "j" "Attribution qualifier",
    named "k" "Form subheading",
    named "l" "Language of a work",
    named "m" "Medium of performance for music",
    named "n" "Number of part/section of a work",
    named "o" "Arranged statement for music",
    named "p" "Name of part/section of a work",
    named "q" "Fuller form of name",
    named "r" "Key for music",
    named "s" "Version",
    named "t" "Title of a work",
    named "u" "Affiliation",
    named "v" "Volume/sequential designation",
    named "w" "Bibliographic record control number",
    named "x" "International Standard Serial Number",
    named "y" "Data provenance",
    named "0" "Authority record control number or standard number",
    named "1" "Real World Object URI",
    named "2" "Source of heading or term",
    named "3" "Materials specified",
    named "4" "Relationship",
    named "5" "Institution to which field applies",
    named "6" "Linkage",
    named "7" "Control subfield",
    named "8" "Field link and sequence number"]

def tag810 : String × TagDefinition :=
  entry "810" "Series Added Entry-Corporate Name (R)" ("Author/title series added entry in " ++
      "which the author portion is a corporate name. An 810 field is usually justified by a " ++
      "series statement (field 490) or a general note (field 500) relating to the series. For " ++
      "reproductions, it may be justified by a series statement in subfield $f of field 533 " ++
      "(Reproduction Note).") [
    named "a" ("Corporate name or jurisdiction name as entry\n                     " ++
        "\t\t\t\t\telement"),
    named "b" "Subordinate unit",
    named "c" "Location of meeting",
    named "d" "Date of meeting or treaty signing",
    named "e" "Relator term",
    named "f" "Date of a work",
    named "g" "Miscellaneous information",
    named "h" "Medium",
    named "k" "Form subheading",
    named "l" "Language of a work",
    named "m" "Medium of performance for music",
    named "n" "Number of part/section/meeting",
    named "o" "Arranged statement for music",
    named "p" "Name of part/section of a work",
    named "r" "Key for music",
    named "s" "Version",
    named "t" "Title of a work",
    named "u" "Affiliation",
    named "v" "Volume/sequential designation",
    named "w" "Bibliographic record control number",
    named "x" "International Standard Serial Number",
    named "y" "Data provenance",
    named "0" "Authority record control number or standard number",
    named "1" "Real World Object URI",
    named "2" "Source of heading or term",
    named "3" "Materials specified",
    named "4" "Relationship",
    named "5" "Institution to which field applies",
    named "6" "Linkage",
    named "7" "Control subfield",
    named "8" "Field link and sequence number"]

def tag811 : String × TagDefinition :=
  entry "811" "Series Added Entry-Meeting Name (R)" ("Author/title series added entry in " ++
      "which the author portion is a meeting name or conference name. An 811 field is usually " ++
      "justified by a series statement (field 490) or a general note (field 500) relating to " ++
      "the series. For reproductions, it may be justified by a series statement in subfield " ++
      "$f of field 533 (Reproduction Note). Series added entries for meetings entered " ++
      "subordinately to a corporate body are recorded in field 810.") [
    named "a" "Meeting name or jurisdiction name as entry\n                     \t\t\t\t\telement",
    named "c" "Location of meeting",
    named "d" "Date of meeting or treaty signing",
    named "e" "Subordinate unit",
    named "f" "Date of a work",
    named "g" "Miscellaneous information",
    named "h" "Medium",
    named "j" "Relator term",
    named "k" "Form subheading",
    named "l" "Language of a work",
    named "n" "Number of part/section/meeting",
    named "p" "Name of part/section of a work",
    named "q" ("Name of meeting following jurisdiction name\n                     " ++
        "\t\t\t\t\tentry element"),
    named "s" "Version",
    named "t" "Title of a work",
    named "u" "Affiliation",
    named "v" "Volume/sequential designation",
    named "w" "Bibliographic record control number",
    named "x" "International Standard Serial Number",
    named "y" "Data provenance",
    named "0" "Authority record control number or standard number",
    named "1" "Real World Object URI",
    named "2" "Source of heading or term",
    named "3" "Materials specified",
    named "4" "Relationship",
    named "5" "Institution to which field applies",
    named "6" "Linkage",
    named "7" "Control subfield",
    named "8" "Field link and sequence number"]

def tag830 : String × TagDefinition :=
  entry "830" "Series Added Entry-Uniform Title (R)" ("Series added entry consisting of a " ++
      "series title alone. An 830 field is usually justified by a series statement (field " ++
      "490) or a general note (field 500) relating to the series. For reproductions, it may " ++
      "be justified by a series statement in subfield $f of field 533 (Reproduction Note).") [
    named "a" "Uniform title",
    named "d" "Date of treaty signing",
    named "f" "Date of a work",
    named "g" "Miscellaneous information",
    named "h" "Medium",
    named "k" "Form subheading",
    named "l" "Language of a work",
    named "m" "Medium of performance for music",
    named "n" "Number of part/section of a work",
    named "o" "Arranged statement for music",
    named "p" "Name of part/section of a work",
    named "r" "Key for music",
    named "s" "Version",
    named "t" "Title of a work",
    named "v" "Volume/sequential designation",
    named "w" "Bibliographic record control number",
    named "x" "International Standard Serial Number",
    named "y" "Data provenance",
    named "0" "Authority record control number or standard number",
    named "1" "Real World Object URI",
    named "2" "Source of heading or term",
    named "3" "Materials specified",
    named "5" "Institution to which field applies",
    named "6" "Linkage",
    named "7" "Control subfield",
    named "8" "Field link and sequence number"]

def tag857 : String × TagDefinition :=
  entry "857" "Electronic Archive Location and Access (R)" ("Field 857 is repeated when an " ++
      "electronic resource has been stored in more than one Web archive or digital archive " ++
      "repository.") [
    described "b" "Name of archiving agency" ("Agency responsible for the Web archive or " ++
        "digital archive repository."),
    described "c" "Name of Web archive or digital archive repository" ("The name by which the " ++
        "Web archive or digital archive repository is known."),
    described "d" "Date range of archived material" ("The subfield is intended primarily for " ++
        "archived electronic continuing resources and other dynamic resources to provide " ++
        "information about the range of dates during which the archived material was issued."),
    described "f" "Archive completeness" ("The subfield is intended primarily for archived " ++
        "electronic continuing resources or other archived dynamic resources. It contains " ++
        "information about how often or how many times an electronic continuing resource has " ++
        "been harvested."),
    described "g" "Persistent identifier" ("Persistent identifier (PID) which enables search " ++
        "and retrieval of a resource from a Web archive or digital archive repository using " ++
        "existing Internet protocols. It is assigned to the resource for automated access and " ++
        "other resolution services by a PID resolver."),
    described "h" "Non-functioning Uniform Resource Identifier" ("Uniform Resource Identifier " ++
        "(URI), for any archive or repository that has ceased to exist. Subfield $h may be " ++
        "repeated if there is more than one non-functioning URI. A note on the status change " ++
        "(including the date) may be added in either subfield $x or subfield $z, depending on " ++
        "the local policy."),
    described "l" "Standardized information governing access" ("The subfield contains " ++
        "standardized information about the access status of a resource. The information may " ++
        "be in the form of a value from a controlled vocabulary, or a Uniform Resource " ++
        "Identifier (URI)."),
    described "m" "Contact for access assistance" ("Name of a contact for assistance in " ++
        "accessing a resource at the host specified in subfield $b. For addresses relating to " ++
        "the content of the resource itself (i.e. the item represented by the title recorded " ++
        "in field 245) rather than access assistance, field 270 is used."),
    described "n" "Terms governing access" ("The subfield contains textual information about " ++
        "the access status of a resource."),
    described "q" "Electronic format type" ("Identification of the electronic format type and " ++
        "version. Electronic format type should be specified with a code from the list of " ++
        "registered Internet Media Types (MIME types), taken from: IANA Media Types."),
    described "r" "Standardized information governing use and reproduction"
      ("The subfield contains standardized information about the use and reproduction rights " ++
        "of a resource. The information may be in the form of a value from a controlled " ++
        "vocabulary, or a Uniform Resource Identifier (URI)."),
    described "s" "File size" ("Size of the file(s) as stored in the archive indicated in " ++
        "subfield $c. It is generally expressed in terms of 8-bit bytes (megabytes, " ++
        "gigabytes)."),
    described "t" "Terms governing use and reproduction" ("The subfield contains textual " ++
        "information about the use and reproduction rights of a resource."),
    described "u" "Uniform Resource Identifier" ("Uniform Resource Identifier (URI), which " ++
        "provides standard syntax for locating an object using existing Internet protocols or " ++
        "by resolution of a persistent identifier (PID). Subfield $u may be repeated if more " ++
        "than one URI is recorded."),
    described "x" "Nonpublic note" ("Note relating to the electronic location of the source " ++
        "identified in the field. The note is written in a form that is not adequate or " ++
        "intended for public display. It may also contain processing information about the " ++
        "file at the location specified."),
    described "y" "Link text" ("Used for display in place of the URL in subfield $u. When " ++
        "subfield $y is present, applications should use the contents of subfield $y as the " ++
        "link instead of the content of subfield $u when linking to the destination in " ++
        "subfield $u."),
    described "z" "Public note" ("Note relating to the electronic location of the source " ++
        "identified in the field. The note is written in a form that is adequate or intended " ++
        "for public display."),
    described "2" "Access method" ("Access method when the first indicator position contains " ++
        "value 7. Code from: Electronic Access Methods Code List."),
    described "3" "Materials specified" ("Part of the described material to which the field " ++
        "applies"),
    control "5" "Institution to which field applies",
    control "6" "Linkage",
    described "7" "Access status" ("Code indicating the availability of access to the " ++
        "networked electronic resource the address of which appears in subfield $g and/or " ++
        "subfield $u. Subfield $7 applies to all subfields $g and $u present in the field."),
    control "8" "Field link and sequence number"]

/-- Series added entries and electronic location (tags 800 to 857). -/
def seriesEntries : Table TagDefinition :=
  [tag800, tag810, tag811, tag830, tag857]

end MarcLens.Shipped

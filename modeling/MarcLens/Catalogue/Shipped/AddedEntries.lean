import MarcLens.Catalogue.Shipped.Entry

/-!
# Shipped documentation: added and linking entries (tags 700 to 787)
-/

namespace MarcLens.Shipped

def tag700 : String × TagDefinition :=
  entry "700" "Added Entry-Personal Name (R)" ("Added entry in which the entry element is a " ++
      "personal name. Added entries are assigned according to various cataloging rules to " ++
      "give access to the bibliographic record from personal name headings which may not be " ++
      "more appropriately assigned as 600 (Subject Added Entry-Personal Name) or 800 (Series " ++
      "Added Entry-Personal Name) fields.") [
    named "a" "Personal name",
    named "b" "Numeration",
    named "c" "Titles and other words associated with a name",
    named "d" "Dates associated with a name",
    named "e" "Relator term",
    named "f" "Date of a work",
    named "g" "Miscellaneous information",
    named "h" "Medium",
    named "i" "Relationship information",
    named "j" "Attribution qualifier",
    named "k" "Form subheading",
    named "l" "Language of a work",
    named "m" "Medium of performance for music",
    named "n" "Number of part/section of a work",
    named "o" "Arranged statement for music",
    named "p" "Name of part/section of a work",
    named "q" "Fuller form of name",
    named "r" "Key for music",
    named "s" "Version",
    named "t" "Title of a work",
    named "u" "Affiliation",
    named "x" "International Standard Serial Number",
    named "0" "Authority record control number or standard number",
    named "1" "Real World Object URI",
    named "2" "Source of heading or term",
    named "3" "Materials specified",
    named "4" "Relationship",
    named "5" "Institution to which field applies",
    named "6" "Linkage",
    named "7" "Data provenance",
    named "8" "Field link and sequence number"]

def tag710 : String × TagDefinition :=
  entry "710" "Added Entry-Corporate Name (R)" ("Added entry in which the entry element is a " ++
      "corporate name. Added entries are assigned according to various cataloging rules to " ++
      "give access to the bibliographic record from corporate name headings which may not be " ++
      "more appropriately assigned as 610 (Subject Added Entry-Corporate Name) or 810 (Series " ++
      "Added Entry-Corporate Name) fields.") [
    named "a" "Corporate name or jurisdiction name as entry element",
    named "b" "Subordinate unit",
    named "c" "Location of meeting",
    named "d" "Date of meeting or treaty signing",
    named "e" "Relator term",
    named "f" "Date of a work",
    named "g" "Miscellaneous information",
    named "h" "Medium",
    named "i" "Relationship information",
    named "k" "Form subheading",
    named "l" "Language of a work",
    named "m" "Medium of performance for music",
    named "n" "Number of part/section/meeting",
    named "o" "Arranged statement for music",
    named "p" "Name of part/section of a work",
    named "r" "Key for music",
    named "s" "Version",
    named "t" "Title of a work",
    named "u" "Affiliation",
    named "x" "International Standard Serial Number",
    named "0" "Authority record control number or standard number",
    named "1" "Real World Object URI",
    named "2" "Source of heading or term",
    named "3" "Materials specified",
    named "4" "Relationship",
    named "5" "Institution to which field applies",
    named "6" "Linkage",
    named "7" "Data provenance",
    named "8" "Field link and sequence number"]

def tag711 : String × TagDefinition :=
  entry "711" "Added Entry-Meeting Name (R)" ("Added entry in which the entry element is a " ++
      "meeting name. Added entries are assigned according to various cataloging rules to give " ++
      "access to the bibliographic record from meeting or conference name headings which may " ++
      "not be more appropriately assigned as 611 (Subject Added Entry-Meeting Name) or 811 " ++
      "(Series Added Entry-Meeting Name) fields.") [
    named "a" "Meeting name or jurisdiction name as entry element",
    named "c" "Location of meeting",
    named "d" "Date of meeting or treaty signing",
    named "e" "Subordinate unit",
    named "f" "Date of a work",
    named "g" "Miscellaneous information",
    named "h" "Medium",
    named "i" "Relationship information",
    named "j" "Relator term",
    named "k" "Form subheading",
    named "l" "Language of a work",
    named "n" "Number of part/section/meeting",
    named "p" "Name of part/section of a work",
    named "q" "Name of meeting following jurisdiction name entry element",
    named "s" "Version",
    named "t" "Title of a work",
    named "u" "Affiliation",
    named "x" "International Standard Serial Number",
    named "0" "Authority record control number or standard number",
    named "1" "Real World Object URI",
    once "2" "Source of heading or term" "Source of heading or term",
    named "3" "Materials specified",
    named "4" "Relationship",
    named "5" "Institution to which field applies",
    named "6" "Linkage",
    named "7" "Data provenance",
    named "8" "Field link and sequence number"]

def tag720 : String × TagDefinition :=
  entry "720" "Added Entry-Uncontrolled Name (R)" ("Used when one of the other access fields " ++
      "(e.g., 1XX (Headings) or 7XX (Added Entries)) cannot be used because the level of " ++
      "control and/or structure of the name does not meet the requirements of the other " ++
      "access fields. Field 720 should not be used for uncontrolled names intended to provide " ++
      "subject access. In that case, field 653 (Index Term-Uncontrolled) is preferred.") [
    described "a" "Name" ("Uncontrolled name. There are no requirements for the style, " ++
        "formulation, or structure of name, whether is consists of one part or several. Parts " ++
        "may be recorded in direct or inverted order. A single occurrence of subfield $a " ++
        "contains all the parts of the name."),
    described "e" "Relator term" ("Relationship between a name and a work, e.g., ed., comp., " ++
        "ill., tr., collector, joint author."),
    described "0" "Authority record control number or standard number" ("A standard number or " ++
        "code associated with the entity named in $a."),
    control "1" "Real World Object URI",
    described "4" "Relationship" ("Code or URI that specifies the relationship from the " ++
        "entity described in the record to the entity referenced in the field. More than one " ++
        "relationship code or URI may be used if the name entity has more than one function."),
    control "5" "Institution to which field applies",
    control "6" "Linkage",
    described "7" "Data provenance" ("See description of this subfield in Appendix J: Data " ++
        "Provenance Subfields."),
    control "8" "Field link and sequence number"]

def tag730 : String × TagDefinition :=
  entry "730" "Added Entry-Uniform Title (R)" ("Uniform title, a related or an analytical " ++
      "title that is controlled by an authority file or list, used as an added entry. Added " ++
      "entries are assigned according to various cataloging rules to give access to the " ++
      "bibliographic record from headings which may not be more appropriately assigned as 630 " ++
      "(Subject Added Entry-Uniform Title) or 830 (Series Added Entry-Uniform Title) fields.") [
    named "a" "Uniform title",
    named "d" "Date of treaty signing",
    named "f" "Date of a work",
    named "g" "Miscellaneous information",
    named "h" "Medium",
    named "i" "Relationship information",
    named "k" "Form subheading",
    named "l" "Language of a work",
    named "m" "Medium of performance for music",
    named "n" "Number of part/section of a work",
    named "o" "Arranged statement for music",
    named "p" "Name of part/section of a work",
    named "r" "Key for music",
    named "s" "Version",
    named "t" "Title of a work",
    named "x" "International Standard Serial Number",
    named "0" "Authority record control number or standard number",
    named "1" "Real World Object URI",
    named "2" "Source of heading or term",
    named "3" "Materials specified",
    named "4" "Relationship",
    named "5" "Institution to which field applies",
    named "6" "Linkage",
    named "8" "Field link and sequence number"]

def tag740 : String × TagDefinition :=
  entry "740" "Added Entry-Uncontrolled Related/Analytical Title (R)" ("Added entries for " ++
      "related or analytical titles that are not controlled through an authority file or " ++
      "list. (If related or analytical titles are controlled by an authority file, use field " ++
      "730 (Added entry - uniform title)).") [
    named "a" "Uncontrolled related/analytical title",
    named "h" "Medium",
    named "n" "Number of part/section of a work",
    named "p" "Name of part/section of a work",
    named "5" "Institution to which field applies",
    named "6" "Linkage",
    named "8" "Field link and sequence number"]

def tag751 : String × TagDefinition :=
  entry "751" "Added Entry-Geographic Name (R)" ("$g - Miscellaneous information Data element " ++
      "that is not more appropriately contained in another defined subfield. 751 " ++
      "##$0(DE-588)4036729-0$0http://d-nb.info/gnd/4036729-0$aLuxemburg$gStadt$4dbp$2gnd") [
    described "a" "Geographic name" ("Geographic name that has a relationship with the " ++
        "described item."),
    described "e" "Relator term" ("Designation of the relationship between a geographic name " ++
        "and the described materials (e.g., event place, publication place, etc.)."),
    described "g" "Miscellaneous information" ("Data element that is not more appropriately " ++
        "contained in another defined subfield."),
    control "0" "Authority record control number or standard number",
    control "1" "Real World Object URI",
    described "2" "Source of heading or term" ("MARC code that identifies the source list " ++
        "from which the geographic name was assigned."),
    described "3" "Materials specified" ("Part of the described materials to which the field " ++
        "applies."),
    described "4" "Relationship" ("Code or URI that specifies the relationship from the " ++
        "entity described in the record to the entity referenced in the field. More than one " ++
        "relationship code or URI may be used if the geographic name has more than one " ++
        "function. A source of relationship codes is: MARC Code List for Relators."),
    control "6" "Linkage",
    described "7" "Data provenance" ("See description of this subfield in Appendix J: Data " ++
        "Provenance Subfields."),
    control "8" "Field link and sequence number"]

def tag753 : String × TagDefinition :=
  entry "753" "System Details Access to Computer Files (R)" ("$0 - Authority record control " ++
      "number or standard number See description of this subfield in Appendix A: Control " ++
      "Subfields. 753 ##$aSony PlayStation " ++
      "4$0(uri)http://gamemetadata.org/uri/platform/1071$2gcipplatform") [
    named "a" "Make and model of machine",
    described "b" "Programming language" ("Name of the programming language associated with " ++
        "the data comprising the computer file (e.g., Pascal)."),
    named "c" "Operating system",
    control "0" "Authority record control number or standard number",
    control "1" "Real World Object URI",
    described "2" "Source of term" ("MARC code that identifies the source of the terms in " ++
        "subfield $a and $c when they are from a controlled list."),
    control "6" "Linkage",
    control "8" "Field link and sequence number"]

def tag754 : String × TagDefinition :=
  entry "754" "Added Entry-Taxonomic Identification (R)" ("Added entry in which the entry " ++
      "element is the taxonomic name or category associated with the described item. " ++
      "Subfields $a and $2 are always used.") [
    described "a" "Taxonomic name" ("Taxonomic names conform to the syntax controls of the " ++
        "taxonomic classification system identified in subfield $2. Subfield $a is repeatable " ++
        "for each taxonomic name associated with the item. Subfield $a is preceded by " ++
        "subfield $c, which indicates the taxonomic hierarchical category to which the name " ++
        "belongs."),
    described "c" "Taxonomic category" ("Taxonomic category to which the name in subfield $a " ++
        "belongs. The terms used in this subfield are specified by the thesaurus identified " ++
        "in subfield $2. Subfield $c always precedes the data with which it is associated."),
    described "d" "Common or alternative name" ("Common or alternative name to which the name " ++
        "in subfield $a belongs. Subfield $d may refer to one or multiple occurrences of " ++
        "subfield $a."),
    described "x" "Non-public note" "Note that is not displayed to the public.",
    described "z" "Public note" ("Note relating to the taxonomic identification written in a " ++
        "form that is adequate or intended for public display."),
    control "0" "Authority record control number or standard number",
    control "1" "Real World Object URI",
    described "2" "Source of taxonomic identification" ("Name or a MARC code that identifies " ++
        "the source list from which the taxonomic identification was assigned. Code from: " ++
        "Taxonomic Classification Source Codes."),
    control "6" "Linkage",
    control "8" "Field link and sequence number"]

def tag760 : String × TagDefinition :=
  entry "760" "Main Series Entry (R)" ("Information concerning the related main series when " ++
      "the target item is a subseries (vertical relationship). When a note is generated from " ++
      "this field, the introductory phrase Main series: or Subseries of: may be generated " ++
      "based on the field tag for display. Recorded in addition to any other series " ++
      "information in the record.") [
    named "a" "Main entry heading",
    named "b" "Edition",
    named "c" "Qualifying information",
    named "d" "Place, publisher, and date of publication",
    named "g" "Related parts",
    named "h" "Physical description",
    named "i" "Relationship information",
    named "l" "Data provenance",
    named "m" "Material-specific details",
    named "n" "Note",
    named "o" "Other item identifier",
    named "s" "Uniform title",
    named "t" "Title",
    named "w" "Record control number",
    named "x" "International Standard Serial Number",
    named "y" "CODEN designation",
    named "4" "Relationship",
    named "6" "Linkage",
    named "7" "Control subfield",
    named "8" "Field link and sequence number"]

def tag762 : String × TagDefinition :=
  entry "762" "Subseries Entry (R)" ("Information concerning a related subseries when the " ++
      "target item is a main series or a parent subseries (vertical relationship). When a " ++
      "note is generated from this field, the introductory phrase Has subseries: may be " ++
      "generated based on the field tag for display. Recorded in addition to any other series " ++
      "information in the record.") [
    named "a" "Main entry heading",
    named "b" "Edition",
    named "c" "Qualifying information",
    named "d" "Place, publisher, and date of publication",
    named "g" "Related parts",
    named "h" "Physical description",
    named "i" "Relationship information",
    named "l" "Data provenance",
    named "m" "Material-specific details",
    named "n" "Note",
    named "o" "Other item identifier",
    named "s" "Uniform title",
    named "t" "Title",
    named "w" "Record control number",
    named "x" "International Standard Serial Number",
    named "y" "CODEN designation",
    named "4" "Relationship",
    named "6" "Linkage",
    named "7" "Control subfield",
    named "8" "Field link and sequence number"]

def tag765 : String × TagDefinition :=
  entry "765" "Original Language Entry (R)" ("Information concerning the publication in its " ++
      "original language when the target item is a translation (horizontal relationship). " ++
      "When a note is generated from this field, the introductory phrase Translation of: may " ++
      "be generated based on the field tag for display.") [
    named "a" "Main entry heading",
    named "b" "Edition",
    named "c" "Qualifying information",
    named "d" "Place, publisher, and date of publication",
    named "g" "Related parts",
    named "h" "Physical description",
    named "i" "Relationship information",
    named "k" "Series data for related item",
    named "l" "Data provenance",
    named "m" "Material-specific details",
    named "n" "Note",
    named "o" "Other item identifier",
    named "r" "Report number",
    named "s" "Uniform title",
    named "t" "Title",
    named "u" "Standard Technical Report Number",
    named "w" "Record control number",
    named "x" "International Standard Serial Number",
    named "y" "CODEN designation",
    named "z" "International Standard Book Number",
    named "4" "Relationship",
    named "6" "Linkage",
    named "7" "Control subfield",
    named "8" "Field link and sequence number"]

def tag767 : String × TagDefinition :=
  entry "767" "Translation Entry (R)" ("Information concerning the publication in some other " ++
      "language other than the original when the target item is in the original language or " ++
      "is another translation (horizontal relationship). When a note is generated from this " ++
      "field, the introductory phrase Translated as: may be generated based on the field tag " ++
      "for display.") [
    named "a" "Main entry heading",
    named "b" "Edition",
    named "c" "Qualifying information",
    named "d" "Place, publisher, and date of publication",
    named "g" "Related parts",
    named "h" "Physical description",
    named "i" "Relationship information",
    named "k" "Series data for related item",
    named "l" "Data provenance",
    named "m" "Material-specific details",
    named "n" "Note",
    named "o" "Other item identifier",
    named "r" "Report number",
    named "s" "Uniform title",
    named "t" "Title",
    named "u" "Standard Technical Report Number",
    named "w" "Record control number",
    named "x" "International Standard Serial Number",
    named "y" "CODEN designation",
    named "z" "International Standard Book Number",
    named "4" "Relationship",
    named "6" "Linkage",
    named "7" "Control subfield",
    named "8" "Field link and sequence number"]

def tag770 : String × TagDefinition :=
  entry "770" "Supplement/Special Issue Entry (R)" ("Information concerning the supplement or " ++
      "special issue associated with the target item but cataloged and/or input as a separate " ++
      "record (vertical relationship). When a note is generated from this field, the " ++
      "introductory phrase Has supplement: may be generated based on the field tag for " ++
      "display.") [
    named "a" "Main entry heading",
    named "b" "Edition",
    named "c" "Qualifying information",
    named "d" "Place, publisher, and date of publication",
    named "g" "Related parts",
    named "h" "Physical description",
    named "i" "Relationship information",
    named "k" "Series data for related item",
    named "l" "Data provenance",
    named "m" "Material-specific details",
    named "n" "Note",
    named "o" "Other item identifier",
    named "r" "Report number",
    named "s" "Uniform title",
    named "t" "Title",
    named "u" "Standard Technical Report Number",
    named "w" "Record control number",
    named "x" "International Standard Serial Number",
    named "y" "CODEN designation",
    named "z" "International Standard Book Number",
    named "4" "Relationship",
    named "6" "Linkage",
    named "7" "Control subfield",
    named "8" "Field link and sequence number"]

def tag772 : String × TagDefinition :=
  entry "772" "Supplement Parent Entry (R)" ("Information concerning the related parent " ++
      "record when the target item is a single issue, supplement or special issue (vertical " ++
      "relationship) of the parent item. When a note is generated from this field, the " ++
      "introductory phrase Supplement to: may be generated based on the field tag for display.") [
    named "a" "Main entry heading",
    named "b" "Edition",
    named "c" "Qualifying information",
    named "d" "Place, publisher, and date of publication",
    named "g" "Related parts",
    named "h" "Physical description",
    named "i" "Relationship information",
    named "k" "Series data for related item",
    named "l" "Data provenance",
    named "m" "Material-specific details",
    named "n" "Note",
    named "o" "Other item identifier",
    named "r" "Report number",
    named "s" "Uniform title",
    named "t" "Title",
    named "u" "Standard Technical Report Number",
    named "w" "Record control number",
    named "x" "International Standard Serial Number",
    named "y" "CODEN designation",
    named "z" "International Standard Book Number",
    named "4" "Relationship",
    named "6" "Linkage",
    named "7" "Control subfield",
    named "8" "Field link and sequence number"]

def tag773 : String × TagDefinition :=
  entry "773" "Host Item Entry (R)" ("Information concerning the host item for the " ++
      "constituent unit described in the record (vertical relationship). In the case of host " ++
      "items that are serial or multi-volume in nature, information in subfields $g and $q is " ++
      "necessary to point to the exact location of the component part within the " ++
      "bibliographic item. When a note is generated from this field, the introductory term In " ++
      "may be generated based on the field tag for display.") [
    named "a" "Main entry heading",
    named "b" "Edition",
    named "d" "Place, publisher, and date of publication",
    named "g" "Related parts",
    named "h" "Physical description",
    named "i" "Relationship information",
    named "k" "Series data for related item",
    named "l" "Data provenance",
    named "m" "Material-specific details",
    named "n" "Note",
    named "o" "Other item identifier",
    named "p" "Abbreviated title",
    named "q" "Enumeration and first page",
    named "r" "Report number",
    named "s" "Uniform title",
    named "t" "Title",
    named "u" "Standard Technical Report Number",
    named "w" "Record control number",
    named "x" "International Standard Serial Number",
    named "y" "CODEN designation",
    named "z" "International Standard Book Number",
    named "3" "Materials specified",
    named "4" "Relationship",
    named "5" "Institution to which field applies",
    named "6" "Linkage",
    named "7" "Control subfield",
    named "8" "Field link and sequence number"]

def tag774 : String × TagDefinition :=
  entry "774" "Constituent Unit Entry (R)" ("Information concerning a constituent unit " ++
      "associated with a larger bibliographic unit (vertical relationship). When a note is " ++
      "generated from this field, the introductory term Constituent unit: may be generated " ++
      "based on the field tag for display. Constituent units may be part of a single " ++
      "bibliographic item, a multipart item, or a collection. The constituent item may or may " ++
      "not be described in a separate bibliographic record.") [
    named "a" "Main entry heading",
    named "b" "Edition",
    named "c" "Qualifying information",
    named "d" "Place, publisher, and date of publication",
    named "g" "Related parts",
    named "h" "Physical description",
    named "i" "Relationship information",
    named "k" "Series data for related item",
    named "l" "Data provenance",
    named "m" "Material-specific details",
    named "n" "Note",
    named "o" "Other item identifier",
    named "r" "Report number",
    named "s" "Uniform title",
    named "t" "Title",
    named "u" "Standard Technical Report Number",
    named "w" "Record control number",
    named "x" "International Standard Serial Number",
    named "y" "CODEN designation",
    named "z" "International Standard Book Number",
    named "4" "Relationship",
    named "5" "Institution to which field applies",
    named "6" "Linkage",
    named "7" "Control subfield",
    named "8" "Field link and sequence number"]

def tag775 : String × TagDefinition :=
  entry "775" "Other Edition Entry (R)" ("Entry for another available edition of the target " ++
      "item (horizontal relationship). When a note is generated from this field, the " ++
      "introductory phrase Other editions available: may be generated based on the field tag " ++
      "for display.") [
    named "a" "Main entry heading",
    named "b" "Edition",
    named "c" "Qualifying information",
    named "d" "Place, publisher, and date of publication",
    named "e" "Language code",
    named "f" "Country code",
    named "g" "Related parts",
    named "h" "Physical description",
    named "i" "Relationship information",
    named "k" "Series data for related item",
    named "l" "Data provenance",
    named "m" "Material-specific details",
    named "n" "Note",
    named "o" "Other item identifier",
    named "r" "Report number",
    named "s" "Uniform title",
    named "t" "Title",
    named "u" "Standard Technical Report Number",
    named "w" "Record control number",
    named "x" "International Standard Serial Number",
    named "y" "CODEN designation",
    named "z" "International Standard Book Number",
    named "4" "Relationship",
    named "6" "Linkage",
    named "7" "Control subfield",
    named "8" "Field link and sequence number"]

def tag776 : String × TagDefinition :=
  entry "776" "Additional Physical Form Entry (R)" ("Information concerning another available " ++
      "physical form of the target item (horizontal relationship). When a note is generated " ++
      "from this field, the introductory phrase Available in other form: may be generated " ++
      "based on the field tag for display. Used to link multiple physical format records for " ++
      "the same title.") [
    named "a" "Main entry heading",
    named "b" "Edition",
    named "c" "Qualifying information",
    named "d" "Place, publisher, and date of publication",
    named "g" "Related parts",
    named "h" "Physical description",
    named "i" "Relationship information",
    named "k" "Series data for related item",
    named "l" "Data provenance",
    named "m" "Material-specific details",
    named "n" "Note",
    named "o" "Other item identifier",
    named "r" "Report number",
    named "s" "Uniform title",
    named "t" "Title",
    named "u" "Standard Technical Report Number",
    named "w" "Record control number",
    named "x" "International Standard Serial Number",
    named "y" "CODEN designation",
    named "z" "International Standard Book Number",
    named "4" "Relationship",
    named "6" "Linkage",
    named "7" "Control subfield",
    named "8" "Field link and sequence number"]

def tag777 : String × TagDefinition :=
  entry "777" "Issued With Entry (R)" ("Information concerning the publication that is " ++
      "separately cataloged but that is issued with or included in the target item " ++
      "(horizontal relationship). When a note is generated from this field, the introductory " ++
      "phrase Issued with: may be generated based on the field tag for display. This field is " ++
      "not used for bound with notes (field 501 (With Note)) that refer to local binding " ++
      "practices nor for component parts (analytical relationships).") [
    named "a" "Main entry heading",
    named "b" "Edition",
    named "c" "Qualifying information",
    named "d" "Place, publisher, and date of publication",
    named "g" "Related parts",
    named "h" "Physical description",
    named "i" "Relationship information",
    named "k" "Series data for related item",
    named "l" "Data provenance",
    named "m" "Material-specific details",
    named "n" "Note",
    named "o" "Other item identifier",
    named "r" "Report number",
    named "s" "Uniform title",
    named "t" "Title",
    named "u" "Standard Technical Report Number",
    named "w" "Record control number",
    named "x" "International Standard Serial Number",
    named "y" "CODEN designation",
    named "z" "International Standard Book Number",
    named "4" "Relationship",
    named "6" "Linkage",
    named "7" "Control subfield",
    named "8" "Field link and sequence number"]

def tag780 : String × TagDefinition :=
  entry "780" "Preceding Entry (R)" ("Information concerning the immediate predecessor of the " ++
      "target item (chronological relationship). When a note is generated from this field, " ++
      "the introductory term or phrase may be generated based on the value in the second " ++
      "indicator position for display. If there is more than one predecessor entry, field 780 " ++
      "is repeated.") [
    named "a" "Main entry heading",
    named "b" "Edition",
    named "c" "Qualifying information",
    named "d" "Place, publisher, and date of publication",
    named "g" "Related parts",
    named "h" "Physical description",
    named "i" "Relationship information",
    named "k" "Series data for related item",
    named "l" "Data provenance",
    named "m" "Material-specific details",
    named "n" "Note",
    named "o" "Other item identifier",
    named "r" "Report number",
    named "s" "Uniform title",
    named "t" "Title",
    named "u" "Standard Technical Report Number",
    named "w" "Record control number",
    named "x" "International Standard Serial Number",
    named "y" "CODEN designation",
    named "z" "International Standard Book Number",
    named "4" "Relationship",
    named "6" "Linkage",
    named "7" "Control subfield",
    named "8" "Field link and sequence number"]

def tag785 : String × TagDefinition :=
  entry "785" "Succeeding Entry (R)" ("Information concerning the immediate successor to the " ++
      "target item (chronological relationship). When a note is generated from this field, " ++
      "the introductory phrase may be generated based on the value in the second indicator " ++
      "position for display. Repeated for more than one succeeding entry.") [
    named "a" "Main entry heading",
    named "b" "Edition",
    named "c" "Qualifying information",
    named "d" "Place, publisher, and date of publication",
    named "g" "Related parts",
    named "h" "Physical description",
    named "i" "Relationship information",
    named "k" "Series data for related item",
    named "l" "Data provenance",
    named "m" "Material-specific details",
    named "n" "Note",
    named "o" "Other item identifier",
    named "r" "Report number",
    named "s" "Uniform title",
    named "t" "Title",
    named "u" "Standard Technical Report Number",
    named "w" "Record control number",
    named "x" "International Standard Serial Number",
    named "y" "CODEN designation",
    named "z" "International Standard Book Number",
    named "4" "Relationship",
    named "6" "Linkage",
    named "7" "Control subfield",
    named "8" "Field link and sequence number"]

def tag786 : String × TagDefinition :=
  entry "786" "Data Source Entry (R)" ("Description of the first indicator position and all " ++
      "subfield codes, as well as input conventions except for display constants, for field " ++
      "786 are given in the 760-787 Linking Entries-General Information section.") [
    named "a" "Main entry heading",
    named "b" "Edition",
    named "c" "Qualifying information",
    named "d" "Place, publisher, and date of publication",
    named "g" "Related parts",
    named "h" "Physical description",
    named "i" "Relationship information",
    named "j" "Period of content",
    named "k" "Series data for related item",
    named "l" "Data provenance",
    named "m" "Material-specific details",
    named "n" "Note",
    named "o" "Other item identifier",
    named "p" "Abbreviated title",
    named "r" "Report number",
    named "s" "Uniform title",
    named "t" "Title",
    named "u" "Standard Technical Report Number",
    named "v" "Source Contribution",
    named "w" "Record control number",
    named "x" "International Standard Serial Number",
    named "y" "CODEN designation",
    named "z" "International Standard Book Number",
    named "4" "Relationship",
    named "6" "Linkage",
    named "7" "Control subfield",
    named "8" "Field link and sequence number"]

def tag787 : String × TagDefinition :=
  entry "787" "Other Relationship Entry (R)" ("Information concerning the work related to the " ++
      "target item when the relationship does not fit any of those defined in fields 760-785. " ++
      "In most cases, a note is recorded in field 580 that defines the specific relationship.") [
    named "a" "Main entry heading",
    named "b" "Edition",
    named "c" "Qualifying information",
    named "d" "Place, publisher, and date of publication",
    named "g" "Related parts",
    named "h" "Physical description",
    named "i" "Relationship information",
    named "k" "Series data for related item",
    named "l" "Data provenance",
    named "m" "Material-specific details",
    named "n" "Note",
    named "o" "Other item identifier",
    named "r" "Report number",
    named "s" "Uniform title",
    named "t" "Title",
    named "u" "Standard Technical Report Number",
    named "w" "Record control number",
    named "x" "International Standard Serial Number",
    named "y" "CODEN designation",
    named "z" "International Standard Book Number",
    named "4" "Relationship",
    named "5" "Institution to which field applies",
    named "6" "Linkage",
    named "7" "Control subfield",
    named "8" "Field link and sequence number"]

/-- Added and linking entries (tags 700 to 787). -/
def addedEntries : Table TagDefinition :=
  [tag700, tag710, tag711, tag720, tag730, tag740, tag751, tag753, tag754, tag760, tag762,
   tag765, tag767, tag770, tag772, tag773, tag774, tag775, tag776, tag777, tag780, tag785,
   tag786, tag787]

end MarcLens.Shipped

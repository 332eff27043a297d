import MarcLens.Catalogue.Shipped.Entry

/-!
# Shipped documentation: notes (tags 500 to 588)
-/

namespace MarcLens.Shipped

def tag500 : String × TagDefinition :=
  entry "500" "General Note (R)" ("General information for which a specialized 5XX note field " ++
      "has not been defined.") [
    described "a" "General note" ("Note that provides general information for which a " ++
        "specialized note field (i.e., a specific 5XX field) has not been defined."),
    described "3" "Materials specified" ("Part of the described material to which the field " ++
        "applies."),
    control "5" "Institution to which field applies",
    control "6" "Linkage",
    described "7" "Data provenance" ("See description of this subfield in Appendix J: Data " ++
        "Provenance Subfields."),
    control "8" "Field link and sequence number"]

def tag501 : String × TagDefinition :=
  entry "501" "With Note (R)" ("The field usually begins with the designation With:, Issued " ++
      "with:, etc.") [
    described "a" "With note" ("Entire text of the note, including the introductory phrase " ++
        "(e.g., With:, On reel with:, Issued with, etc.)."),
    control "5" "Institution to which field applies",
    control "6" "Linkage",
    described "7" "Data provenance" ("See description of this subfield in Appendix J: Data " ++
        "Provenance Subfields."),
    control "8" "Field link and sequence number"]

def tag502 : String × TagDefinition :=
  entry "502" "Dissertation Note (R)" ("Designation of an academic dissertation or thesis and " ++
      "the institution to which it was presented. Other notes indicating the relationship " ++
      "between the item being cataloged and the author's dissertation or thesis, such as " ++
      "statements indicating that the work represents or is based on the author's thesis " ++
      "(e.g., Originally presented as ...) are recorded in field 500 (General Note). Notes " ++
      "concerning abstracts, abridgements, or revisions of theses are also recorded in field " ++
      "500.") [
    described "a" "Dissertation note" "Entire text of the note.",
    described "b" "Degree type" "Degree for which author was candidate.",
    named "c" "Name of granting institution",
    named "d" "Year degree granted",
    described "g" "Miscellaneous information" ("Data that is not more appropriately contained " ++
        "in another defined subfield."),
    described "o" "Dissertation identifier" ("Identifier assigned to a dissertation or theses " ++
        "for identification purposes. May be a local or global identifier."),
    control "6" "Linkage",
    described "7" "Data provenance" ("See description of this subfield in Appendix J: Data " ++
        "Provenance Subfields."),
    control "8" "Field link and sequence number"]

def tag504 : String × TagDefinition :=
  entry "504" "Bibliography, Etc. Note (R)" ("$b - Number of references Number of references " ++
      "contained in the bibliography. A simple numerical count of references is given in this " ++
      "subfield, following the bibliography note. Used to indicate the significance of a " ++
      "bibliography. 504 ##$a\"Literature cited\": p. 67-68.$b19") [
    named "a" "Bibliography, etc. note",
    named "b" "Number of references",
    named "6" "Linkage",
    named "8" "Field link and sequence number"]

def tag505 : String × TagDefinition :=
  entry "505" "Formatted Contents Note (R)" ("Titles of separate works or parts of an item or " ++
      "the table of contents. The field may also contain statements of responsibility and " ++
      "volume numbers or other sequential designations.") [
    described "a" "Formatted contents note" ("Formatted contents note, whether complete, " ++
        "incomplete, or partial when the second indicator is value # (Basic). The text of the " ++
        "contents note may include titles, statements of responsibility, volume numbers and " ++
        "sequential designations, durations (for sound recordings), etc."),
    described "g" "Miscellaneous information" ("Any information other than the statement of " ++
        "responsibility or title, used in a coding-enhanced note (second indicator is value " ++
        "0). It may include volume, part, page numbering or other extent information such as " ++
        "dates."),
    described "r" "Statement of responsibility" ("Statement of responsibility of the article " ++
        "or part in the coding-enhanced contents note (second indicator is value 0). The " ++
        "author itself may be a personal or corporate name."),
    described "t" "Title" ("Title used in the coding-enhanced contents note (second indicator " ++
        "is value 0)."),
    described "u" "Uniform Resource Identifier" ("Uniform Resource Identifier (URI), for " ++
        "example a URL or URN, which provides electronic access data in a standard syntax. " ++
        "This data can be used for automated access to an electronic item using one of the " ++
        "Internet protocols."),
    control "6" "Linkage",
    described "7" "Data provenance" ("See description of this subfield in Appendix J: Data " ++
        "Provenance Subfields."),
    control "8" "Field link and sequence number"]

def tag506 : String × TagDefinition :=
  entry "506" "Restrictions on Access Note (R)" ("For published works, this field contains " ++
      "information on limited distribution. For continuing resources, the restrictions must " ++
      "apply to all issues. If a note merely indicates the intended audience of a publication " ++
      "and does not imply restrictions on access, it is recorded in field 521 (Target " ++
      "Audience Note.) Terms governing the use of materials after access has been allowed are " ++
      "recorded in field 540 (Terms Governing Use and Reproduction).") [
    described "a" "Terms governing access" ("Legal, physical, or procedural restrictions " ++
        "imposed on individuals wishing to see the described materials."),
    described "b" "Jurisdiction" ("Name of a person, an institution, or a position or " ++
        "function within the institution, by whom or which the terms governing access are " ++
        "imposed and/or enforced, and to whom the restriction may be appealed."),
    described "c" "Physical access provisions" "Arrangements required for physical access.",
    described "d" "Authorized users" ("Class of users or specific individuals (by name or " ++
        "title) to whom the restrictions in subfield $a do not apply."),
    described "e" "Authorization" "Source of authority for the restriction.",
    described "f" "Standardized terminology for access restriction" ("Data taken from a " ++
        "standardized list of terms indicating the level or type of restriction."),
    described "g" "Availability date" ("Date when the resource changes its access status, " ++
        "e.g., when it becomes freely available. Preferred structure for the date is " ++
        "according to Date and Time (ISO 8601): yyyymmdd."),
    described "q" "Supplying agency" ("A MARC Organization Code, ISIL, or textual name of the " ++
        "organization or project responsible for the data in the field."),
    described "u" "Uniform Resource Identifier" ("Uniform Resource Identifier (URI), for " ++
        "example a URL or URN, which provides electronic access data in a standard syntax. " ++
        "The data that is accessed by the URI contains additional information about access " ++
        "restrictions."),
    described "0" "Authority record control number or standard number" ("Control number or " ++
        "standard number for a controlled term in subfield $f."),
    control "1" "Real World Object URI",
    described "2" "Source of term" ("MARC code that identifies the source of the term used to " ++
        "record the restriction in subfield $f. If terms from different sources are needed, " ++
        "separate fields should be used. Code from: Access Restriction Term Source Codes."),
    described "3" "Materials specified" ("Part of the described material to which the field " ++
        "applies."),
    control "5" "Institution to which field applies",
    control "6" "Linkage",
    control "8" "Field link and sequence number"]

def tag507 : String × TagDefinition :=
  entry "507" "Scale Note for Visual Materials (NR)" ("Scale of a visual material resource, " ++
      "for example a still image or three-dimensional form, given as a textual note. For " ++
      "cartographic materials, prefer field 255 (Cartographic Mathematical Data) to record " ++
      "the scale information.") [
    named "a" "Representative fraction of scale note",
    named "b" "Remainder of scale note",
    control "6" "Linkage",
    control "8" "Field link and sequence number"]

def tag508 : String × TagDefinition :=
  entry "508" "Creation/Production Credits Note (R)" ("Credits for persons or organizations, " ++
      "other than members of the cast, who have participated in the creation and/or " ++
      "production of the work. The introductory term Credits: is usually generated as a " ++
      "display constant. Field 508 is repeatable to record complex or multiple credit notes.") [
    described "a" "Creation/production credits note" "Entire text of the note.",
    described "3" "Materials specified" ("Part of the described materials to which the field " ++
        "applies."),
    control "6" "Linkage",
    described "7" "Data provenance" ("See description of this subfield in Appendix J: Data " ++
        "Provenance Subfields."),
    control "8" "Field link and sequence number"]

def tag510 : String × TagDefinition :=
  entry "510" "Citation/References Note (R)" ("Used to specify where an item has been cited " ++
      "or reviewed. Citations or references may be given in a brief form (i.e., using " ++
      "generally recognizable abbreviations, etc.). The actual text of a published " ++
      "description is not recorded in field 510 but rather in field 520 (Summary, Etc. Note).") [
    described "a" "Name of source" ("Name of the source in which the reference or citation " ++
        "appears. The name of the source may be given in either full cataloging form or as a " ++
        "conventionalized abbreviation, for example Evans for Evans, Charles."),
    described "b" "Coverage of source" ("Dates and/or volume designations of the serial with " ++
        "which the service began and ended coverage."),
    described "c" "Location within source" ("Specific location of the citation or reference " ++
        "within the source (e.g., page number, item number, etc.). Note that the first " ++
        "indicator position contains value 4 (Location in source given) when subfield $c is " ++
        "present."),
    named "u" "Uniform Resource Identifier",
    named "x" "International Standard Serial Number",
    described "3" "Materials specified" ("Part of the described material to which the field " ++
        "applies."),
    control "6" "Linkage",
    described "7" "Data provenance" ("See description of this subfield in Appendix J: Data " ++
        "Provenance Subfields."),
    control "8" "Field link and sequence number"]

def tag511 : String × TagDefinition :=
  entry "511" "Participant or Performer Note (R)" ("Part of the described materials to which " ++
      "the field applies.") [
    described "a" "Participant or performer note" ("Entire text of the participant or " ++
        "performer note."),
    described "3" "Materials specified" ("Part of the described materials to which the field " ++
        "applies."),
    control "6" "Linkage",
    control "8" "Field link and sequence number"]

def tag513 : String × TagDefinition :=
  entry "513" "Type of Report and Period Covered Note (R)" ("$6 - Linkage See description of " ++
      "this subfield in Appendix A: Control Subfields.") [
    named "a" "Type of report",
    named "b" "Period covered",
    named "6" "Linkage",
    named "8" "Field link and sequence number"]

def tag514 : String × TagDefinition :=
  entry "514" "Data Quality Note (NR)" ("$f - Horizontal position accuracy report Explanation " ++
      "of the accuracy of the horizontal coordinate measurements and a description of the " ++
      "tests used. The use of this subfield is usually limited to cartographic items.") [
    named "a" "Attribute accuracy report",
    named "b" "Attribute accuracy value",
    named "c" "Attribute accuracy explanation",
    named "d" "Logical consistency report",
    named "e" "Completeness report",
    named "f" "Horizontal position accuracy report",
    named "g" "Horizontal position accuracy value",
    named "h" "Horizontal position accuracy explanation",
    named "i" "Vertical positional accuracy report",
    named "j" "Vertical positional accuracy value",
    named "k" "Vertical positional accuracy explanation",
    named "m" "Cloud cover",
    named "u" "Uniform Resource Identifier",
    named "z" "Display note",
    named "6" "Linkage",
    named "8" "Field link and sequence number"]

def tag515 : String × TagDefinition :=
  entry "515" "Numbering Peculiarities Note (R)" ("Statement on the numbering irregularity or " ++
      "peculiarity. Types of numbering irregularities and peculiarities recorded in subfield " ++
      "$a include: Irregularities or peculiarities in numbering, including double numbering, " ++
      "combined issues or volumes, confusion in the use of series numbering or multiple " ++
      "numbering systems, publication of preliminary issues not included in the regular " ++
      "numbering, and numbering that does not begin with volume one.") [
    described "a" "Numbering peculiarities note" ("Statement on the numbering irregularity or " ++
        "peculiarity. Types of numbering irregularities and peculiarities recorded in " ++
        "subfield $a include:"),
    control "6" "Linkage",
    described "7" "Data provenance" ("See description of this subfield in Appendix J: Data " ++
        "Provenance Subfields."),
    control "8" "Field link and sequence number"]

def tag516 : String × TagDefinition :=
  entry "516" "Type of Computer File or Data Note (R)" ("$6 - Linkage See description of this " ++
      "subfield in Appendix A: Control Subfields.") [
    named "a" "Type of computer file or data note",
    named "6" "Linkage",
    named "8" "Field link and sequence number"]

def tag518 : String × TagDefinition :=
  entry "518" "Date/Time and Place of an Event Note (R)" ("Note on the date/time and/or place " ++
      "of creation, capture, recording, filming, execution, or broadcast associated with an " ++
      "event or the finding of a naturally occurring object. Field 033 (Date/Time and Place " ++
      "of an Event) contains the same information in coded form. Date/time and place of an " ++
      "event note information may be encoded as a note in subfield $a or parsed into specific " ++
      "subfields.") [
    described "a" "Date/time and place of an event note" "Entire contents of the note.",
    described "d" "Date of event" ("Date/time of event. May be in a controlled or " ++
        "uncontrolled form."),
    described "o" "Other event information" ("Other information that is related to the date " ++
        "or place of event."),
    described "p" "Place of event" "Place of event. May be in a controlled or uncontrolled form.",
    described "0" "Authority record control number or standard number" ("Control number of " ++
        "the record for a controlled place term in subfield $p."),
    control "1" "Real World Object URI",
    described "2" "Source of term" ("MARC code that identifies the source of the term in $p " ++
        "(Place of event) when it is from a controlled list."),
    described "3" "Materials specified" ("Part of the described material to which the field " ++
        "applies."),
    control "6" "Linkage",
    described "7" "Data provenance" ("See description of this subfield in Appendix J: Data " ++
        "Provenance Subfields."),
    control "8" "Field link and sequence number"]

def tag520 : String × TagDefinition :=
  entry "520" "Summary, Etc. (R)" ("This could be a summary, abstract, annotation, review, or " ++
      "only a phrase describing the material. The level of detail appropriate in a summary " ++
      "may vary depending on the audience for a particular product. When a distinction " ++
      "between levels of detail is required, a brief summary is given in subfield $a and a " ++
      "fuller annotation is given in subfield $b. The text is sometimes displayed and/or " ++
      "printed with an introductory term that is generated as a display constant based on the " ++
      "first indicator value.") [
    described "a" "Summary, etc." ("Text of the summary, abstract, review, etc. When no " ++
        "distinction between levels of detail in the text is required, subfield $a contains " ++
        "all the text. When a distinction is appropriate, subfield $a contains a brief " ++
        "statement, with additional information being provided in subfield $b."),
    described "b" "Expansion of summary note" ("Expansion of the brief summary recorded in " ++
        "subfield $a."),
    described "c" "Assigning source" ("Organization code or name of the agency or other " ++
        "source (e.g., journal or newspaper) that supplied the data (summary, review, " ++
        "abstract, content advice statement, etc.) recorded in subfield $a."),
    described "u" "Uniform Resource Identifier" ("Uniform Resource Identifier (URI), for " ++
        "example a URL or URN, which provides electronic access data in a standard syntax. " ++
        "This data can be used for automated access to an electronic item using one of the " ++
        "Internet protocols."),
    described "2" "Source" ("Source code for the particular classification system used (for " ++
        "example, the MPAA (USA) and BBFC (UK) film classification systems) to construct the " ++
        "content advice statement recorded in subfield $a. Code from: Content Advice " ++
        "Classification Source Codes."),
    described "3" "Materials specified" ("Part of the described materials to which the field " ++
        "applies."),
    control "6" "Linkage",
    described "7" "Data provenance" ("See description of this subfield in Appendix J: Data " ++
        "Provenance Subfields."),
    control "8" "Field link and sequence number"]

def tag521 : String × TagDefinition :=
  entry "521" "Target Audience Note (R)" ("0 - Reading grade level Numbered information in " ++
      "subfield $a pertains to the grade level at which the item is meant to be read. The " ++
      "value is used to generate the display constant Reading grade level:. 521 0#$a3.1.[The " ++
      "reading level is that for the first month of the third grade.]") [
    named "a" "Target audience note",
    named "b" "Source",
    named "3" "Materials specified",
    named "6" "Linkage",
    named "8" "Field link and sequence number"]

def tag522 : String × TagDefinition :=
  entry "522" "Geographic Coverage Note (R)" ("Information about the geographic coverage of " ++
      "the described material (usually survey material). This information in coded form may " ++
      "be contained in field 052 (Geographic Classification Code).") [
    named "a" "Geographic coverage note",
    named "6" "Linkage",
    named "8" "Field link and sequence number"]

def tag524 : String × TagDefinition :=
  entry "524" "Preferred Citation of Described Materials Note (R)" ("When multiple citation " ++
      "formats exist for the same item, each is recorded in a separate occurrence of field " ++
      "524.") [
    named "a" "Preferred citation of described materials note",
    named "2" "Source of schema used",
    named "3" "Materials specified",
    named "6" "Linkage",
    named "8" "Field link and sequence number"]

def tag525 : String × TagDefinition :=
  entry "525" "Supplement Note (R)" ("Information on the existence of supplements or special " ++
      "issues that are neither cataloged in separate records nor recorded in a linking entry " ++
      "field 770 (Supplement/Special Issue Entry).") [
    named "a" "Supplement note",
    named "6" "Linkage",
    named "8" "Field link and sequence number"]

def tag526 : String × TagDefinition :=
  entry "526" "Study Program Information Note (R)" ("Note giving the name of a study program " ++
      "which uses the title described in the record. Details about the study program data " ++
      "elements are also contained in the field. Field 526 is generally used for formal " ++
      "curriculum-based study or reading programs.") [
    named "a" "Program name",
    named "b" "Interest level",
    named "c" "Reading level",
    named "d" "Title point value",
    named "i" "Display text",
    named "x" "Nonpublic note",
    named "z" "Public note",
    named "5" "Institution to which field applies",
    named "6" "Linkage",
    named "8" "Field link and sequence number"]

def tag530 : String × TagDefinition :=
  entry "530" "Additional Physical Form Available Note (R)" ("If the publisher of the " ++
      "additional physical form is different from the publisher of the item being cataloged, " ++
      "this field also contains source and order number information for the additional form. " ++
      "The additional form may be published and/or made available for use at a repository in " ++
      "the additional form. When specific title and data base control number information is " ++
      "available for the other format, the title and control numbers may be recorded in field " ++
      "776 (Additional Physical Form Entry).") [
    named "a" "Additional physical form available note",
    named "b" "Availability source",
    named "c" "Availability conditions",
    named "d" "Order number",
    named "u" "Uniform Resource Identifier",
    named "3" "Materials specified",
    named "6" "Linkage",
    named "8" "Field link and sequence number"]

def tag533 : String × TagDefinition :=
  entry "533" "Reproduction Note (R)" ("The original item is described in the main portion of " ++
      "the bibliographic record and data relevant to the reproduction are given as a note in " ++
      "field 533 when they differ from the information describing the original. It is used " ++
      "whenever an institution chooses to have the description reflect the original and the " ++
      "notes reflect information about the copy.") [
    described "a" "Type of reproduction" ("Introductory phrase that identifies the type of " ++
        "reproduction being described."),
    described "b" "Place of reproduction" ("Name of the place where the reproduction was " ++
        "made. When more than one place is given, subfield $b is repeated."),
    described "c" "Agency responsible for reproduction" ("If more than one agency is " ++
        "simultaneously responsible for the same reproduction, subfield $c is repeated."),
    described "d" "Date of reproduction" ("For serials, the beginning and ending dates of the " ++
        "reproduction are given when available."),
    described "e" "Physical description of reproduction" ("Any physical description " ++
        "information about the reproduction. It normally contains the number of physical " ++
        "pieces and the dimensions of the reproduction. The polarity, when negative, is " ++
        "recorded in subfield $e as other physical details following the number of pieces and " ++
        "preceding the dimensions."),
    described "f" "Series statement of reproduction" ("Series to which the reproduction " ++
        "belongs. Subfield $f is always enclosed in parentheses."),
    named "m" "Dates and/or sequential designation of issues reproduced",
    described "n" "Note about reproduction" ("If more than one note is needed, subfield $n is " ++
        "repeated."),
    described "y" "Data provenance" ("See description of this subfield in Appendix J: Data " ++
        "Provenance Subfields."),
    described "3" "Materials specified" ("Part of the described material to which the field " ++
        "applies."),
    control "5" "Institution to which field applies",
    control "6" "Linkage",
    described "7" "Fixed-length data elements of reproduction" ("Fifteen character positions " ++
        "(designated 0, 1-4, etc.) that contain coded information pertaining to the " ++
        "reproduction. The coded data elements correspond to those in the 008 field " ++
        "(Fixed-Length Data Elements), character positions /06-17 (All Formats), /18-19 " ++
        "(Continuing resources), and /23 (Books) (where they pertain to the original)."),
    control "8" "Field link and sequence number"]

def tag534 : String × TagDefinition :=
  entry "534" "Original Version Note (R)" ("Descriptive data for an original item when the " ++
      "main portion of the bibliographic record describes a reproduction of that item and the " ++
      "data differ. Details relevant to the original are given in field 534.") [
    named "a" "Main entry of original",
    named "b" "Edition statement of original",
    named "c" "Publication, distribution, etc. of original",
    named "e" "Physical description, etc. of original",
    named "f" "Series statement of original",
    named "k" "Key title of original",
    named "l" "Location of original",
    named "m" "Material specific details",
    named "n" "Note about original",
    named "o" "Other resource identifier",
    named "p" "Introductory phrase",
    named "t" "Title statement of original",
    named "x" "International Standard Serial Number",
    named "z" "International Standard Book Number",
    named "3" "Materials specified",
    named "6" "Linkage",
    named "8" "Field link and sequence number"]

def tag535 : String × TagDefinition :=
  entry "535" "Location of Originals/Duplicates Note (R)" ("Name and address of the " ++
      "repository with custody over originals or duplicates of the described materials. This " ++
      "field is used only when the originals or duplicates are housed in a repository " ++
      "different from that of the materials being described.") [
    named "a" "Custodian",
    named "b" "Postal address",
    named "c" "Country",
    named "d" "Telecommunications address",
    named "g" "Repository location code",
    named "3" "Materials specified",
    named "6" "Linkage",
    named "8" "Field link and sequence number"]

def tag536 : String × TagDefinition :=
  entry "536" "Funding Information Note (R)" ("$a - Text of note Information concerning the " ++
      "sponsors or funding agencies. Subfield $a is not mandatory; a number may be recorded " ++
      "without linking it to an agency if no agency is given. 536 ##$aSponsored by the World " ++
      "Health Organization") [
    named "a" "Text of note",
    named "b" "Contract number",
    named "c" "Grant number",
    named "d" "Undifferentiated number",
    named "e" "Program element number",
    named "f" "Project number",
    named "g" "Task number",
    named "h" "Work unit number",
    named "6" "Linkage",
    named "8" "Field link and sequence number"]

def tag538 : String × TagDefinition :=
  entry "538" "System Details Note (R)" ("$i - Display text Display and identification of the " ++
      "materials described in subfield $u. 538 ##$aBenchmark for Faithful Digital " ++
      "Reproductions of Monographs and Serials. Version 1. December 2002$iDigital version " ++
      "conforms to:$uhttp://www.diglib.org/standards/bmarkfin.htm") [
    named "a" "System details note",
    named "i" "Display text",
    named "u" "Uniform Resource Identifier",
    named "3" "Materials specified",
    named "5" "Institution to which field applies",
    named "6" "Linkage",
    named "8" "Field link and sequence number"]

def tag540 : String × TagDefinition :=
  entry "540" "Terms Governing Use and Reproduction Note (R)" ("Terms governing the use of " ++
      "the materials after access has been provided. The field includes, but is not limited " ++
      "to, copyrights, film rights, trade restrictions, etc. that restrict the right to " ++
      "reproduce, exhibit, fictionalize, quote, etc. Information about restrictions imposed " ++
      "on access to the described materials is recorded in field 506 (Restrictions on Access " ++
      "Note).") [
    described "a" "Terms governing use and reproduction" ("Usually mean the text of a legal " ++
        "or official statement of restrictions."),
    described "b" "Jurisdiction" ("Name of a person, an institution, or a position or " ++
        "function within the institution, by whom or which the terms governing access are " ++
        "imposed and/or enforced, and to whom the restriction may be appealed."),
    described "c" "Authorization" ("Source of authority for the restriction (e.g., a specific " ++
        "statute, contract, etc.)."),
    described "d" "Authorized users" ("Class of users, or specific individuals (by name or " ++
        "title) to whom the restrictions in subfield $a do not apply."),
    described "f" "Standardized terminology for use and reproduction rights"
      ("Data taken from a standardized list of terms (e.g., Creative Commons or Rights " ++
        "Statements) indicating the use and reproduction rights."),
    described "g" "Availability date" ("Date when the resource changes its use and " ++
        "reproduction rights. Preferred structure for the date is according to Date and Time " ++
        "(ISO 8601): yyyymmdd."),
    described "q" "Supplying agency" ("A MARC Organization Code, ISIL, or textual name of the " ++
        "organization or project responsible for the data in the field."),
    described "u" "Uniform Resource Identifier" ("Uniform Resource Identifier (URI), for " ++
        "example a URL or URN, which provides electronic access data in a standard syntax. " ++
        "This data can be used for automated access to an electronic item using one of the " ++
        "Internet protocols."),
    described "0" "Authority record control number or standard number" ("Control number or " ++
        "standard number for a controlled term in subfield $f."),
    control "1" "Real World Object URI",
    described "2" "Source of term" ("MARC code that identifies the source of the term used to " ++
        "record the use and reproduction rights in subfield $f. If terms from different " ++
        "sources are needed, separate fields should be used. Code from: Access Restriction " ++
        "Term Source Codes."),
    described "3" "Materials specified" ("Part of the described material to which the field " ++
        "applies."),
    control "5" "Institution to which field applies",
    control "6" "Linkage",
    control "8" "Field link and sequence number"]

def tag541 : String × TagDefinition :=
  entry "541" "Immediate Source of Acquisition Note (R)" ("The original source of acquisition " ++
      "is recorded in field 561 (Ownership and Custodial History). Field 541 is repeated when " ++
      "recording the acquisition of additional material in a collection. An additional field " ++
      "541 is made for each addition.") [
    named "a" "Source of acquisition",
    named "b" "Address",
    named "c" "Method of acquisition",
    named "d" "Date of acquisition",
    named "e" "Accession number",
    named "f" "Owner",
    named "h" "Purchase price",
    named "n" "Extent",
    named "o" "Type of unit",
    named "3" "Materials specified",
    named "5" "Institution to which field applies",
    named "6" "Linkage",
    named "8" "Field link and sequence number"]

def tag542 : String × TagDefinition :=
  entry "542" "Information Relating to Copyright Status (R)" ("The entire field may be " ++
      "repeated if a non-repeatable subfield needs to be repeated (e.g., Personal creator, " ++
      "Research date) or if additional information is added at a later date.") [
    named "a" "Personal creator",
    named "b" "Personal creator death date",
    named "c" "Corporate creator",
    named "d" "Copyright holder",
    named "e" "Copyright holder contact information",
    named "f" "Copyright statement",
    named "g" "Copyright date",
    named "h" "Copyright renewal date",
    named "i" "Publication date",
    named "j" "Creation date",
    named "k" "Publisher",
    named "l" "Copyright status",
    named "m" "Publication status",
    named "n" "Note",
    named "o" "Research date",
    named "p" "Country of publication or creation",
    named "q" "Supplying agency",
    named "r" "Jurisdiction of copyright assessment",
    named "s" "Source of information",
    named "u" "Uniform Resource Identifier",
    named "3" "Materials specified",
    named "6" "Linkage",
    named "8" "Field link and sequence number"]

def tag544 : String × TagDefinition :=
  entry "544" "Location of Other Archival Materials Note (R)" ("$a - Custodian Name of the " ++
      "custodian of the material. Although the subfield is repeatable, it is recommended that " ++
      "a separate 544 field be created for each occurrence of subfield $a. 544 0#$dBurt " ++
      "Barnes papers;$eAlso located at;$aArchives of American Art, Smithsonian Institution. " ++
      "544 0#$dBurt Barnes papers;$eAlso located at;$aState Historical Society of Wisconsin.") [
    named "a" "Custodian",
    named "b" "Address",
    named "c" "Country",
    named "d" "Title",
    named "e" "Provenance",
    named "n" "Note",
    named "3" "Materials specified",
    named "6" "Linkage",
    named "8" "Field link and sequence number"]

def tag545 : String × TagDefinition :=
  entry "545" "Biographical or Historical Data (R)" ("Biographical information about an " ++
      "individual or historical information about an institution or event used as the main " ++
      "entry for the item being cataloged. When a distinction between levels of detail is " ++
      "required, a brief summary is given in subfield $a and a fuller annotation is given in " ++
      "subfield $b.") [
    named "a" "Biographical or historical data",
    named "b" "Expansion",
    named "u" "Uniform Resource Identifier",
    named "6" "Linkage",
    named "8" "Field link and sequence number"]

def tag546 : String × TagDefinition :=
  entry "546" "Language Note (R)" ("Textual information on the language or notation system " ++
      "used to convey the content of the described materials. A description of the alphabet, " ++
      "script, or other symbol system (e.g., arabic alphabet, ASCII, bar code, logarithmic " ++
      "graphing) may also be included, but for musical notation system terms, prefer field " ++
      "348 (Notated Music Characteristics). Coded language information is contained in fields " ++
      "008/35-37 (Language) and/or 041 (Language code).") [
    described "a" "Language note" "Specifies the language(s) of the resource.",
    described "b" "Information code or alphabet" ("Specifies the alphabet, script, or " ++
        "notation system that is used in the resource."),
    described "3" "Materials specified" ("Part of the described materials to which the " ++
        "language note applies."),
    control "6" "Linkage",
    described "7" "Data provenance" ("See description of this subfield in Appendix J: Data " ++
        "Provenance Subfields."),
    control "8" "Field link and sequence number"]

def tag547 : String × TagDefinition :=
  entry "547" "Former Title Complexity Note (R)" ("Description of the complex relationship " ++
      "between titles proper whenever an intelligible note cannot be system generated from " ++
      "the data in field 247 (Former Title).") [
    named "a" "Former title complexity note",
    named "6" "Linkage",
    named "8" "Field link and sequence number"]

def tag550 : String × TagDefinition :=
  entry "550" "Issuing Body Note (R)" ("Includes notes containing editing, compiling, or " ++
      "translating information that involves an issuing body and notes denoting the item as " ++
      "an official organ of a society, etc. Field 550 is generally used for issuing bodies " ++
      "traced in a 7XX added entry field. The field explains their relationship to the " ++
      "publication and justifies the 7XX added entries. Notes relating to commercial " ++
      "publishers, distributors, or places of publication are recorded in field 500 (General " ++
      "Note).") [
    named "a" "Issuing body note",
    control "6" "Linkage",
    described "7" "Data provenance" ("See description of this subfield in Appendix J: Data " ++
        "Provenance Subfields."),
    control "8" "Field link and sequence number"]

def tag552 : String × TagDefinition :=
  entry "552" "Entity and Attribute Information Note (R)" ("$d - Attribute definition and " ++
      "source Description of a defined characteristic of an entity and the authority of the " ++
      "definition. See subfield $c example.") [
    named "a" "Entity type label",
    named "b" "Entity type definition and source",
    named "c" "Attribute label",
    named "d" "Attribute definition and source",
    named "e" "Enumerated domain value",
    named "f" "Enumerated domain value definition and source",
    named "g" "Range domain minimum and maximum",
    named "h" "Codeset name and source",
    named "i" "Unrepresentable domain",
    named "j" "Attribute units of measurement and resolution",
    named "k" "Beginning and ending date of attribute values",
    named "l" "Attribute value accuracy",
    named "m" "Attribute value accuracy explanation",
    named "n" "Attribute measurement frequency",
    named "o" "Entity and attribute overview",
    named "p" "Entity and attribute detail citation",
    named "u" "Uniform Resource Identifier",
    named "z" "Display note",
    named "6" "Linkage",
    named "8" "Field link and sequence number"]

def tag555 : String × TagDefinition :=
  entry "555" "Cumulative Index/Finding Aids Note (R)" ("Field 510 (Citation/References Note) " ++
      "is used to record the existence of abstracting and indexing services for an item.") [
    described "a" "Cumulative index/finding aids note" ("Statement of the index or finding " ++
        "aid. For indexes, subfield $a may contain a formal or an informal note."),
    described "b" "Availability source" ("Organizational unit or vendor from which finding " ++
        "aids or other documentation may be obtained."),
    described "c" "Degree of control" ("Extent of administrative, bibliographic, or physical " ++
        "control available over the described materials."),
    described "d" "Bibliographic reference" ("Citation to a published or unpublished index or " ++
        "finding aid to the described materials when it is not cataloged with the item."),
    described "u" "Uniform Resource Identifier" ("Uniform Resource Identifier (URI), for " ++
        "example a URL or URN, which provides electronic access data in a standard syntax. " ++
        "This data can be used for automated access to an electronic item using one of the " ++
        "Internet protocols."),
    described "3" "Materials specified" ("Part of the described material to which the field " ++
        "applies. See examples under the descriptions of first indicator value 0 and subfield " ++
        "$b."),
    control "6" "Linkage",
    described "7" "Data provenance" ("See description of this subfield in Appendix J: Data " ++
        "Provenance Subfields."),
    control "8" "Field link and sequence number"]

def tag556 : String × TagDefinition :=
  entry "556" "Information About Documentation Note (R)" ("Material which is based on the " ++
      "use, study, or analysis of the materials is cited in field 581 (Publications About " ++
      "Described Materials Note).") [
    named "a" "Information about documentation note",
    named "z" "International Standard Book Number",
    named "6" "Linkage",
    named "8" "Field link and sequence number"]

def tag561 : String × TagDefinition :=
  entry "561" "Ownership and Custodial History (R)" ("Copy-specific field that contains " ++
      "information concerning the ownership and custodial history of the described materials " ++
      "from the time of their creation to the time of their accessioning, including the time " ++
      "at which individual items or groups of items were first brought together in their " ++
      "current arrangement or collation.") [
    named "a" "History",
    described "u" "Uniform Resource Identifier" ("Uniform Resource Identifier (URI), for " ++
        "example a URL or URN, which provides electronic access data in a standard syntax. " ++
        "The data that is accessed by the URI contains additional information about ownership " ++
        "and custodial history."),
    described "3" "Materials specified" ("Part of the described materials to which the field " ++
        "applies."),
    control "5" "Institution to which field applies",
    control "6" "Linkage",
    control "8" "Field link and sequence number"]

def tag562 : String × TagDefinition :=
  entry "562" "Copy and Version Identification Note (R)" ("NOTE: Statements relating to " ++
      "versions of manuscript works existing in two or more versions or states in single or " ++
      "multiple copies are recorded in field 250 (Edition Statement).") [
    named "a" "Identifying markings",
    named "b" "Copy identification",
    named "c" "Version identification",
    named "d" "Presentation format",
    named "e" "Number of copies",
    named "3" "Materials specified",
    named "5" "Institution to which field applies",
    named "6" "Linkage",
    named "8" "Field link and sequence number"]

def tag563 : String × TagDefinition :=
  entry "563" "Binding Information (R)" ("$3 - Materials specified Portion of the binding " ++
      "that is described in the field.") [
    named "a" "Binding note",
    named "u" "Uniform Resource Identifier",
    named "3" "Materials specified",
    named "5" "Institution to which field applies",
    named "6" "Linkage",
    named "8" "Field link and sequence number"]

def tag565 : String × TagDefinition :=
  entry "565" "Case File Characteristics Note (R)" ("For computer files, this field contains " ++
      "the number of cases or variables making up the file and, when taken in conjunction " ++
      "with the number of logical records recorded in field 256 (Computer File " ++
      "Characteristics), provides an indication of the extent of the file.") [
    named "a" "Number of cases/variables",
    named "b" "Name of variable",
    named "c" "Unit of analysis",
    named "d" "Universe of data",
    named "e" "Filing scheme or code",
    named "3" "Materials specified",
    named "6" "Linkage",
    named "8" "Field link and sequence number"]

def tag567 : String × TagDefinition :=
  entry "567" "Methodology Note (R)" ("$0 - Authority record control number or standard " ++
      "number See description of this subfield in Appendix A: Control Subfields.") [
    described "a" "Methodology note" "Entire text of the note.",
    described "b" "Controlled term" ("Index term to describe the methodology used in the " ++
        "material is from a controlled subject heading system or thesaurus."),
    control "0" "Authority record control number or standard number",
    control "1" "Real World Object URI",
    described "2" "Source of term" ("MARC code that identifies the source of the term used to " ++
        "record the methodology in subfield $b."),
    control "6" "Linkage",
    control "8" "Field link and sequence number"]

def tag580 : String × TagDefinition :=
  entry "580" "Linking Entry Complexity Note (R)" ("Description of the complex relationship " ++
      "between the item described in the record and other items that cannot be adequately " ++
      "generated from the linking entry fields 760-787.") [
    described "a" "Linking entry complexity note" ("Catalog entry for the related title and a " ++
        "statement describing the relationship."),
    control "5" "Institution to which field applies",
    control "6" "Linkage",
    control "8" "Field link and sequence number"]

def tag581 : String × TagDefinition :=
  entry "581" "Publications About Described Materials Note (R)" ("Documentation about a file, " ++
      "etc., is recorded in field 556 (Information about Documentation Note).") [
    named "a" "Publications about described materials note",
    named "z" "International Standard Book Number",
    named "3" "Materials specified",
    named "6" "Linkage",
    named "8" "Field link and sequence number"]

def tag583 : String × TagDefinition :=
  entry "583" "Action Note (R)" ("Field 583 is repeatable to record information about " ++
      "different actions.") [
    described "a" "Action" "Standardized terminology descriptive of the action.",
    described "b" "Action identification" ("Code or designation assigned to identify a " ++
        "specific action or to identify it in conjunction with time of action (e.g., an " ++
        "accession number or project code)."),
    described "c" "Time/date of action" "Concrete time or date of a future or past action.",
    described "d" "Action interval" ("Time period which cannot be expressed as a specific " ++
        "date (e.g., at end of academic term or every six months)."),
    described "e" "Contingency for action" ("Time or time period expressed in terms of an " ++
        "unpredictable event (e.g., at conclusion of court case, after death of daughter, or " ++
        "upon receipt)."),
    described "f" "Authorization" ("Text of, or citation to, a statute, action order, report, " ++
        "rationale, or rule governing a particular action."),
    described "h" "Jurisdiction" ("Name of a person, an institution, or a position or " ++
        "function within an institution, in whom or in which responsibility for an action is " ++
        "vested."),
    described "i" "Method of action" "Means or technique by which an action was performed.",
    described "j" "Site of action" ("Location at which the described materials are acted " ++
        "upon, including the site at which they are consulted by users."),
    described "k" "Action agent" "Person or organization which performs the action.",
    described "l" "Status" "Condition or state of the described materials",
    described "n" "Extent" "Number of items involved.",
    described "o" "Type of unit" "Name of the unit of measurement.",
    described "u" "Uniform Resource Identifier" ("Uniform Resource Identifier (URI), for " ++
        "example a URL or URN, which provides electronic access data in a standard syntax. " ++
        "This data can be used for automated access to an electronic item using one of the " ++
        "Internet protocols."),
    described "x" "Nonpublic note" ("Note pertaining to an action on an item that is not " ++
        "displayed to the public."),
    described "z" "Public note" ("Note pertaining to an action on an item that is displayed " ++
        "to the public."),
    described "2" "Source of term" ("MARC code that identifies the source of the term used to " ++
        "record the action information. Code from: Resource Action Term Source Codes."),
    described "3" "Materials specified" ("Part of the described material to which the field " ++
        "applies. When separate holdings records are made for the parts of a bibliographic " ++
        "item, each record may contain a field 583 that contains a subfield $3 to specify the " ++
        "part to which the note applies."),
    control "5" "Institution to which field applies",
    control "6" "Linkage",
    described "7" "Data provenance" ("See description of this subfield in Appendix J: Data " ++
        "Provenance Subfields."),
    control "8" "Field link and sequence number"]

def tag584 : String × TagDefinition :=
  entry "584" "Accumulation and Frequency of Use Note (R)" ("$5 - Institution to which field " ++
      "applies See description of this subfield in Appendix A: Control Subfields.") [
    named "a" "Accumulation",
    named "b" "Frequency of use",
    named "3" "Materials specified",
    named "5" "Institution to which field applies",
    named "6" "Linkage",
    named "8" "Field link and sequence number"]

def tag585 : String × TagDefinition :=
  entry "585" "Exhibitions Note (R)" ("Copy-specific field that contains a note which cites " ++
      "exhibitions where the material described has been shown.") [
    named "a" "Exhibitions note",
    named "3" "Materials specified",
    named "5" "Institution to which field applies",
    named "6" "Linkage",
    named "8" "Field link and sequence number"]

def tag586 : String × TagDefinition :=
  entry "586" "Awards Note (R)" "Field is repeated for each occurrence of an award." [
    named "a" "Awards note",
    named "3" "Materials specified",
    named "6" "Linkage",
    named "8" "Field link and sequence number"]

def tag588 : String × TagDefinition :=
  entry "588" "Source of Description Note (R)" ("# - No information provided Used if display " ++
      "terms are included in subfield $a, or are not needed. 588 ##$aCannot determine the " ++
      "relationship to Bowling illustrated, also published in New York, 1952-58.$5DLC") [
    described "a" "Source of description note" ("Note containing administrative information " ++
        "about the record, such as source of description or latest issue consulted."),
    control "5" "Institution to which field applies",
    control "6" "Linkage",
    control "8" "Field link and sequence number"]

/-- Notes (tags 500 to 588). -/
def notes : Table TagDefinition :=
  [tag500, tag501, tag502, tag504, tag505, tag506, tag507, tag508, tag510, tag511, tag513,
   tag514, tag515, tag516, tag518, tag520, tag521, tag522, tag524, tag525, tag526, tag530,
   tag533, tag534, tag535, tag536, tag538, tag540, tag541, tag542, tag544, tag545, tag546,
   tag547, tag550, tag552, tag555, tag556, tag561, tag562, tag563, tag565, tag567, tag580,
   tag581, tag583, tag584, tag585, tag586, tag588]

end MarcLens.Shipped

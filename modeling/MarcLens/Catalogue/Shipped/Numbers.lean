import MarcLens.Catalogue.Shipped.Entry

/-!
# Shipped documentation: control fields, numbers and codes (tags 003 to 088)
-/

namespace MarcLens.Shipped

def tag003 : String × TagDefinition :=
  entry "003" "Control Number Identifier (NR)" "This field has no indicators or subfield codes." []

def tag006 : String × TagDefinition :=
  entry "006" "Fixed-Length Data Elements-Additional Material Characteristics (R)"
    ("Field has no indicators or subfield codes; the data elements are positionally defined " ++
      "by form of material. Forms of material are listed in the same order that they appear " ++
      "in field 008 (Fixed-Length Data Elements). Refer to the corresponding positions " ++
      "(18-34) in field 008 for descriptions of field 006 character positions 01-17.") []

def tag007 : String × TagDefinition :=
  entry "007" "Physical Description Fixed Field-General Information (R)" ("Field has no " ++
      "indicators or subfield codes; the data elements are positionally defined by category " ++
      "of material. Categories of material are listed alphabetically by code.") []

def tag008 : String × TagDefinition :=
  entry "008" "Fixed-Length Data Elements-General Information (NR)" ("Character positions " ++
      "00-17 and 35-39 are defined the same across all types of material, with special " ++
      "consideration for position 06. The definition of character positions 18-34 was done " ++
      "independently for each type of material, although certain data elements are defined " ++
      "the same in the specifications for more than one type of material. When similar data " ++
      "elements are defined for inclusion in field 008 for different types of material, they " ++
      "occupy the same field 008 character positions.") []

def tag010 : String × TagDefinition :=
  entry "010" "Library of Congress Control Number (NR)" ("The control number for MARC records " ++
      "distributed by LC is an LC control number (LCCN). The LC control number is carried in " ++
      "field 001 (Control Number) in records distributed by LC's Cataloging Distribution " ++
      "Service and in field 010$a. An organization using LC records may remove the LC control " ++
      "number from field 001 and use field 001 for its own system control number.") [
    named "a" "LC control number",
    named "b" "NUCMC control number",
    named "z" "Canceled/invalid LC control number",
    named "8" "Field link and sequence number"]

def tag013 : String × TagDefinition :=
  entry "013" "Patent Control Information (R)" ("Information used to control patent " ++
      "documents. In addition to information about patents, this field may contain " ++
      "information relating to inventors' certificates, utility certificates, utility models, " ++
      "patents or certificates of addition, inventors' certificates of addition, utility " ++
      "certificates of addition, and published applications for any of these.") [
    named "a" "Number",
    named "b" "Country",
    named "c" "Type of number",
    named "d" "Date",
    named "e" "Status",
    named "f" "Party to document",
    named "6" "Linkage",
    named "8" "Field link and sequence number"]

def tag015 : String × TagDefinition :=
  entry "015" "National Bibliography Number (R)" ("Bibliography entry number(s) for " ++
      "cataloging information that is derived from a national bibliography. When cataloging " ++
      "information is derived from an entry in a national bibliography, the number of the " ++
      "entry is given in the record. A work may have more than one number from a single " ++
      "national bibliography or may have numbers from more than one national bibliography. " ++
      "Multiple numbers are recorded in repeating 015 fields.") [
    named "a" "National bibliography number",
    described "q" "Qualifying information" ("Volume numbers or other data that qualify a " ++
        "national bibliography number being recorded in subfield $a or subfield $z."),
    described "z" "Canceled/invalid national bibliography number" ("Canceled or invalid " ++
        "(structurally or application) national bibliography number."),
    described "2" "Source" ("Code that identifies the source of the National Bibliography " ++
        "Number. Code from: National Bibliography Number Source Codes.."),
    control "6" "Linkage",
    control "8" "Field link and sequence number"]

def tag016 : String × TagDefinition :=
  entry "016" "National Bibliographic Agency Control Number (R)" ("Unique numbers that have " ++
      "been assigned to a record by a national bibliographic agency other than the Library of " ++
      "Congress. The control number may also appear in field 001 (Control Number) in records " ++
      "distributed by the same national agency. This number is a record control number used " ++
      "in a national bibliographic agency system, rather than a number used for an entry in a " ++
      "national bibliography, field 015 (National Bibliography Number).") [
    named "a" "Record control number",
    named "z" "Canceled/invalid control number",
    named "2" "Source",
    named "8" "Field link and sequence number"]

def tag017 : String × TagDefinition :=
  entry "017" "Copyright or Legal Deposit Number (R)" ("Field is repeated when more than one " ++
      "agency has assigned a copyright or legal deposit number.") [
    named "a" "Copyright or legal deposit number",
    named "b" "Assigning agency",
    named "d" "Date",
    named "i" "Display text",
    named "z" "Canceled/invalid copyright or legal\n      deposit number",
    named "2" "Source",
    named "6" "Linkage",
    named "8" "Field link and sequence number"]

def tag018 : String × TagDefinition :=
  entry "018" "Copyright Article-Fee Code (NR)" ("$6 - Linkage See description of this " ++
      "subfield in Appendix A: Control Subfields.") [
    once "a" "Copyright article-fee code" "Copyright article-fee code",
    named "6" "Linkage",
    named "8" "Field link and sequence number"]

def tag020 : String × TagDefinition :=
  entry "020" "International Standard Book Number (R)" ("Each field contains all the " ++
      "information relevant to one ISBN, or if no ISBN exists, relevant to the item being " ++
      "cataloged.") [
    described "a" "International Standard Book Number" ("Valid ISBN. ISBN and the embedded " ++
        "hyphens may be generated for display."),
    described "c" "Terms of availability" ("Price or a brief statement of availability and " ++
        "any paranthetical qualifying information about availability."),
    described "q" "Qualifying information" ("A brief statement of qualifying information " ++
        "concerning the item associated with a number being recorded in subfield $a or " ++
        "subfield $z."),
    described "z" "Canceled/invalid ISBN" ("Canceled or invalid ISBN. ISBN (invalid) and the " ++
        "embedded hyphens may be generated for display."),
    control "6" "Linkage",
    control "8" "Field link and sequence number"]

def tag022 : String × TagDefinition :=
  entry "022" "International Standard Serial Number (R)" ("$y - Incorrect ISSN Incorrect ISSN " ++
      "that has been associated with the continuing resource. Each incorrect ISSN is " ++
      "contained in a separate subfield $y. A canceled ISSN is contained in subfield $z. ISSN " ++
      "(incorrect) may be generated for display. 022 0#$a0046-225X$y0046-2254") [
    described "a" "International Standard Serial Number" ("Valid ISSN for the continuing " ++
        "resource. ISSN may be generated for display."),
    described "y" "Incorrect ISSN" ("Incorrect ISSN that has been associated with the " ++
        "continuing resource. Each incorrect ISSN is contained in a separate subfield $y. A " ++
        "canceled ISSN is contained in subfield $z."),
    described "z" "Canceled ISSN" ("Canceled ISSN that is associated with the continuing " ++
        "resource. Each canceled ISSN is contained in a separate subfield $z."),
    described "0" "Authority record control number or standard number" ("A URI for the ISSN " ++
        "in subfield $a."),
    control "1" "Real World Object URI",
    described "2" "Source" ("ISSN Center responsible for assigning and maintaining ISSNs and " ++
        "related data."),
    control "6" "Linkage",
    control "8" "Field link and sequence number"]

def tag024 : String × TagDefinition :=
  entry "024" "Other Standard Identifier (R)" ("Standard number or code published on an item " ++
      "which cannot be accommodated in another field (e.g., field 020 (International Standard " ++
      "Book Number), 022 (International Standard Serial Number) , and 027 (Standard Technical " ++
      "Report Number)). The type of standard number or code is identified in the first " ++
      "indicator position or in subfield $2 (Source of number or code).") [
    named "a" "Standard number or code",
    described "c" "Terms of availability" ("Price or a brief statement of availability and " ++
        "any paranthetical qualifying information about availability. Information is only " ++
        "recorded in this subfield when a number is present in subfield $a."),
    described "d" "Additional codes following the standard number or code" ("Any optional " ++
        "digits carried to the right of the number or code, such as digits provided to " ++
        "identify price, title, or issue information."),
    described "q" "Qualifying information" ("A brief statement of qualifying information " ++
        "concerning the item associated with a number being recorded in subfield $a or " ++
        "subfield $z."),
    described "z" "Canceled/invalid standard number or code" ("Any canceled and/or invalid " ++
        "standard numbers or codes. If a valid number or code of the same type is not known, " ++
        "subfield $z may appear alone in field 024."),
    described "2" "Source of number or code" ("MARC code that identifies the source of the " ++
        "number or code. Used only when the first indicator contains value 7 (Source " ++
        "specified in subfield $2)."),
    control "6" "Linkage",
    control "8" "Field link and sequence number"]

def tag025 : String × TagDefinition :=
  entry "025" "Overseas Acquisition Number (R)" ("Used to record the acquisition source of " ++
      "the item and also identifies certain programs under which materials are acquired at " ++
      "LC. The following types of numbers are included in this field:") [
    named "a" "Overseas acquisition number",
    named "8" "Field link and sequence number"]

def tag026 : String × TagDefinition :=
  entry "026" "Fingerprint Identifier (R)" ("Guidelines used are identified in subfield $2 " ++
      "(Source). Fingerprints may be recorded in a parsed form by using subfields $a through " ++
      "$d or as a single string of characters in subfield $e.") [
    named "a" "First and second groups of characters",
    named "b" "Third and fourth groups of characters",
    named "c" "Date",
    named "d" "Number of volume or part",
    named "e" "Unparsed fingerprint",
    named "2" "Source",
    named "5" "Institution to which field applies",
    named "6" "Linkage",
    named "8" "Field link and sequence number"]

def tag027 : String × TagDefinition :=
  entry "027" "Standard Technical Report Number (R)" ("$q - Qualifying information A brief " ++
      "statement of qualifying information concerning the item associated with a number being " ++
      "recorded in subfield $a or subfield $z.") [
    named "a" "Standard technical report number",
    described "q" "Qualifying information" ("A brief statement of qualifying information " ++
        "concerning the item associated with a number being recorded in subfield $a or " ++
        "subfield $z."),
    described "z" "Canceled/invalid number" "Any canceled and/or invalid standard number.",
    control "6" "Linkage",
    control "8" "Field link and sequence number"]

def tag028 : String × TagDefinition :=
  entry "028" "Publisher or Distributor Number (R)" ("Formatted number used for sound " ++
      "recordings, printed music, other music-related materials, and video recordings. " ++
      "Publisher's and distributor's numbers that are given in an unformatted form are " ++
      "recorded in field 500 (General Note). A print constant identifying the kind of " ++
      "publisher or distributor number may be generated based on the value in the first " ++
      "indicator position. Repeatable for multiple numbers associated with an item.") [
    named "a" "Publisher or distributor number",
    described "b" "Source" ("Source of the publisher or distributor number. Varies according " ++
        "to the type of publication and the type of number being recorded. For sound " ++
        "recordings and video recordings, label and distributor names are recorded in " ++
        "subfield $b."),
    described "q" "Qualifying information" ("Contains qualifiers associated with the number " ++
        "such as part to which number pertains, where number found on item, etc."),
    control "6" "Linkage",
    control "8" "Field link and sequence number"]

def tag030 : String × TagDefinition :=
  entry "030" "CODEN Designation (R)" ("$z - Canceled/invalid CODEN If the valid CODEN is not " ++
      "known, subfield $z may be used alone in the record. 030 ##$aASIRAF$zASITAF") [
    named "a" "CODEN",
    named "z" "Canceled/invalid CODEN",
    named "6" "Linkage",
    named "8" "Field link and sequence number"]

def tag031 : String × TagDefinition :=
  entry "031" "Musical Incipits Information (R)" ("$c - Number of excerpt Order of incipits " ++
      "within the movement defined in subfield $b. If there is only one incipit for a " ++
      "movement, use 1. 031 ##$c1[An incipit for the instrumental introduction of an aria.] " ++
      "031 ##$c2[An incipit for the vocal part of an aria.]") [
    named "a" "Number of work",
    named "b" "Number of movement",
    named "c" "Number of excerpt",
    named "d" "Caption or heading",
    named "e" "Role",
    named "g" "Clef",
    named "m" "Voice/instrument",
    named "n" "Key signature",
    named "o" "Time signature",
    named "p" "Musical notation",
    named "q" "General note",
    named "r" "Key or mode",
    named "s" "Coded validity note",
    named "t" "Text incipit",
    named "u" "Uniform Resource Identifier",
    named "y" "Link text",
    named "z" "Public note",
    named "2" "System code",
    named "6" "Linkage",
    named "8" "Field link and sequence number"]

def tag032 : String × TagDefinition :=
  entry "032" "Postal Registration Number (R)" ("When the serial title is no longer mailed at " ++
      "second class rates (e.g., because the publisher abandoned the second class " ++
      "authorization), field 032 is deleted from the MARC record.") [
    named "a" "Postal registration number",
    named "b" "Source agency assigning number",
    named "6" "Linkage",
    named "8" "Field link and sequence number"]

def tag033 : String × TagDefinition :=
  entry "033" "Date/Time and Place of an Event (R)" ("Formatted date/time and/or coded place " ++
      "of creation, capture, recording, filming, execution, or broadcast associated with an " ++
      "event or the finding of a naturally occurring object. This information in textual form " ++
      "is contained in field 518 (Date/Time and Place of an Event Note).") [
    described "a" "Formatted date/time" ("Seventeen characters, recorded in the pattern " ++
        "yyyymmddhhmm+-hmm, that indicate the actual or approximate date (yyyymmdd)/time " ++
        "(hhmm) of capture, finding, or broadcast and Time Differential Factor (+-hhmm) " ++
        "information."),
    described "b" "Geographic classification area code" ("Four to six character numeric code " ++
        "for the main geographic area associated with an item. The code consists of the " ++
        "appropriate classification number from the range G3190-G9980 derived from the " ++
        "Library of Congress Classification--Class G by dropping the letter G."),
    described "c" "Geographic classification subarea code" ("Alphanumeric Cutter number for a " ++
        "geographic subarea, derived from the Library of Congress Classification-Class G or " ++
        "expanded Cutter number lists for place names. Cutter numbers for places in the " ++
        "United States are also published in Geographic Cutters."),
    described "p" "Place of event" "Place of event. May be in a controlled or uncontrolled form.",
    described "0" "Authority record control number or standard number" ("Control number of " ++
        "the record for a controlled place term in subfield $p."),
    control "1" "Real World Object URI",
    described "2" "Source of term" ("MARC code that identifies the source of the term used in " ++
        "$p when it is from a controlled list."),
    described "3" "Materials specified" ("Part of the described materials to which the field " ++
        "applies."),
    control "6" "Linkage",
    control "8" "Field link and sequence number"]

def tag034 : String × TagDefinition :=
  entry "034" "Coded Cartographic Mathematical Data (R)" ("Contains cartographic mathematical " ++
      "data, including scale, projection, and/or coordinates in coded form. For digital " ++
      "items, the coordinates can represent a bounding rectangle, the outline of the area " ++
      "covered and/or the outline of an interior area not covered. For celestial charts, it " ++
      "may also contain zone, declination data, and/or right ascension data, and/or equinox. " ++
      "For cartographic material, there should be an 034 field corresponding to each 255 " ++
      "field in a record.") [
    described "a" "Category of scale" ("One-character alphabetic code indicating the type of " ++
        "scale of the item."),
    described "b" "Constant ratio linear horizontal scale" ("Denominator of the " ++
        "representative fraction for the horizontal scale."),
    described "c" "Constant ratio linear vertical scale" ("Denominator of the representative " ++
        "fraction for the vertical scale of relief models and other three-dimensional " ++
        "cartographic items."),
    named "d" "Coordinates - westernmost longitude",
    named "e" "Coordinates - easternmost longitude",
    named "f" "Coordinates - northernmost latitude",
    described "g" "Coordinates - southernmost latitude" ("Subfields $d, $e, $f, and $g " ++
        "individually identify the four coordinates of the item. Subfield $d represents the " ++
        "westernmost extent of the item; subfield $e, the easternmost extent; subfield $f, " ++
        "the northernmost extent; and subfield $g, the southernmost extent."),
    described "h" "Angular scale" "Scale, if known, for celestial charts.",
    named "j" "Declination - northern limit",
    named "k" "Declination - southern limit",
    named "m" "Right ascension - eastern limit",
    described "n" "Right ascension - western limit" ("Subfields $j, $k, $m, and $n are used " ++
        "with celestial charts or celestial charts in atlases and contain the limits of the " ++
        "declination and the right ascension."),
    described "p" "Equinox" ("Equinox or epoch for a celestial chart. Usually recorded in the " ++
        "form yyyy (year) according to the Gregorian calendar, but may include a decimal " ++
        "including the month in the form yyyy.mm (year-month)."),
    described "r" "Distance from earth" ("Distance of celestial bodies, such as planets or " ++
        "stars, from the Earth in light-years in star atlases."),
    described "s" "G-ring latitude" "Latitude of a point of the g-ring.",
    described "t" "G-ring longitude" "Longitude of a point of the g-ring.",
    described "x" "Beginning date" ("Beginning of the time frame specific to the coordinates. " ++
        "The date is structured in the form of yyyymmdd. When no date is recorded, it is " ++
        "assumed that the coordinate information is current."),
    described "y" "Ending date" ("Ending of the time frame specific to the coordinates. The " ++
        "date is structured in the form of yyyymmdd. When no date is recorded, it is assumed " ++
        "that the coordinate information is current."),
    described "z" "Name of extraterrestrial body" ("Name of a planet or other " ++
        "extraterrestrial body specified when the coordinate data recorded in subfields $d, " ++
        "$e, $f and $g do not describe an entity on Earth."),
    control "0" "Authority record control number or standard number",
    control "1" "Real World Object URI",
    described "2" "Source" ("MARC code that identifies the source of the data recorded in " ++
        "field 034. If different sources are recorded, separate fields should be used. Code " ++
        "from: Cartographic Data Source Codes."),
    described "3" "Materials specified" ("Information that specifies the part of the entity " ++
        "to which the field applies."),
    control "6" "Linkage",
    control "8" "Field link and sequence number"]

def tag035 : String × TagDefinition :=
  entry "035" "System Control Number (R)" ("Control number of a system other than the one " ++
      "whose control number is contained in field 001 (Control Number), field 010 (Library of " ++
      "Congress Control Number) or field 016 (National Bibliographic Agency Control Number).") [
    named "a" "System control number",
    named "z" "Canceled/invalid control number",
    named "6" "Linkage",
    named "8" "Field link and sequence number"]

def tag036 : String × TagDefinition :=
  entry "036" "Original Study Number for Computer Data Files (NR)" ("Original study number " ++
      "assigned by the producer of the computer file. Introductory phrase Original study: may " ++
      "be generated based on the field tag.") [
    named "a" "Original study number",
    named "b" "Source agency assigning number",
    named "6" "Linkage",
    named "8" "Field link and sequence number"]

def tag037 : String × TagDefinition :=
  entry "037" "Source of Acquisition (R)" ("If a stock number is present (subfield $a), " ++
      "source of stock number/acquisition information (subfield $b) is required.") [
    described "a" "Stock number" ("Numbers such as distributor, publisher, or vendor numbers " ++
        "for resources other than music, music-related, or audiovisual materials are also " ++
        "recorded in this subfield."),
    described "b" "Source of stock number/acquisition" ("Name or abbreviation of the " ++
        "publisher, distributor, or vendor. Can contain full information relating to the name " ++
        "and address of the publisher, distributor, or vendor, including information that may " ++
        "also be found elsewhere in the record (e.g., in the imprint)."),
    described "c" "Terms of availability" ("Usually a price (and qualifying information such " ++
        "as time period or market) that is related to the other information in the field. Can " ++
        "contain information used to specify the price, such as the terms gratis, free, or " ++
        "N.T."),
    described "f" "Form of issue" ("Terms describing binding or format of the item available " ++
        "for order. Does not include statements of coverage or type of subscriber; such " ++
        "information is included as qualifiers in subfield $c. The subfield is commonly used " ++
        "when more than one physical form is recorded, each with a separate price."),
    named "g" "Additional format characteristics",
    described "n" "Note" "Textual note pertaining to the acquisition of the item.",
    described "3" "Materials specified" ("Part of the described materials to which the field " ++
        "applies."),
    control "5" "Institution to which field applies",
    control "6" "Linkage",
    control "8" "Field link and sequence number"]

def tag038 : String × TagDefinition :=
  entry "038" "Record Content Licensor (NR)" ("$6 - Linkage See description of this subfield " ++
      "in Appendix A: Control Subfields.") [
    named "a" "Record content licensor",
    named "6" "Linkage",
    named "8" "Field link and sequence number"]

def tag040 : String × TagDefinition :=
  entry "040" "Cataloging Source (NR)" ("MARC code for or the title of the description rules " ++
      "used in creating the record. The subfield may also be used to record the use of AACR " ++
      "2-based manuals. Subfield $e may contain either the name of the rules or a MARC code " ++
      "designating the rules") [
    named "a" "Original cataloging agency",
    named "b" "Language of cataloging",
    named "c" "Transcribing agency",
    named "d" "Modifying agency",
    named "e" "Description conventions",
    named "6" "Linkage",
    named "8" "Field link and sequence number"]

def tag042 : String × TagDefinition :=
  entry "042" "Authentication Code (NR)" "Field 042 is an agency-assigned data element." [
    named "a" "Authentication code"]

def tag043 : String × TagDefinition :=
  entry "043" "Geographic Area Code (R)" ("Geographic area codes associated with an item. " ++
      "Code from: MARC Code List for Geographic Areas. The source of a local code in subfield " ++
      "$b is indicated in subfield $2. The source of codes in subfield $c is ISO 3166, Codes " ++
      "for the representation of names of countries and their subdivisions - Part 1 : Country " ++
      "codes or Part 2 : Country subdivision codes.") [
    described "a" "Geographic area code" ("Seven-character MARC code for a geographic area. " ++
        "Each geographic area code associated with an item is contained in a separate " ++
        "subfield $a."),
    described "b" "Local GAC code" ("Code is formulated by attaching a local subentity code " ++
        "to an already established geographic area code. Each local GAC associated with an " ++
        "item is contained in a separate subfield $b. It is recommended that standard GACs " ++
        "also be included in subfield $a for international exchange and understanding."),
    described "c" "ISO code" ("Code taken from the International Organization for " ++
        "Standardization's Codes for the representation of names of countries and their " ++
        "subdivisions - Part 1: Country codes or Part 2 : Country subdivision codes (ISO " ++
        "3166)."),
    control "0" "Authority record control number or standard number",
    control "1" "Real World Object URI",
    described "2" "Source of local code" ("Source from which the local code was assigned. " ++
        "Used only when subfield $b is used to indicate a local GAC code."),
    control "6" "Linkage",
    control "8" "Field link and sequence number"]

def tag044 : String × TagDefinition :=
  entry "044" "Country of Publishing/Producing Entity Code (NR)" ("Source of subentity codes " ++
      "are indicated in subfield $2. Field is used in conjunction with 008/15-17 (Place of " ++
      "publication, production, or execution). The code in 008/15-17 is recorded in the first " ++
      "occurrence of subfield $a in field 044.") [
    named "a" "MARC country code",
    named "b" "Local subentity code",
    named "c" "ISO country code",
    named "2" "Source of local subentity code",
    named "6" "Linkage",
    named "8" "Field link and sequence number"]

def tag046 : String × TagDefinition :=
  entry "046" "Special Coded Dates (R)" ("Guidelines on how to transcribe a date in subfields " ++
      "$b, $c, $d, and $e are generally the same as those specified under 008/06 (Type of " ++
      "date/Publication status), 008/07-10 (Date 1) and 008/11-14 (Date 2), except that " ++
      "incorrect dates and B.C.E. dates may be recorded only in field 046.") [
    named "a" "Type of date code",
    described "b" "Date 1, B.C.E. date" ("Before Common Era (B.C.E.) Date 1 (type of date " ++
        "normally recorded in 008/07-10)."),
    described "c" "Date 1, C.E. date" ("Common Era (C.E.) Date 1 (type of date normally " ++
        "recorded in 008/07-10). In the case of an incorrect date 1, the incorrect date is " ++
        "recorded in field 046 while the corrected date is recorded in 008/07-10."),
    described "d" "Date 2, B.C.E. date" ("B.C.E. Date 2 (type of date normally recorded in " ++
        "008/11-14)."),
    described "e" "Date 2, C.E. date" ("C.E. Date 2 (type of date normally recorded in " ++
        "008/11-14). In the case of an incorrect date 2, the incorrect date is recorded in " ++
        "field 046 while the corrected date is recorded in 008/11-14."),
    described "j" "Date resource modified" ("Dates in subfield $j usually relate to Web pages " ++
        "and other electronic media that routinely contain the date of last update. The date " ++
        "and time are recorded according to Representations of Dates and Times (ISO 8601) " ++
        "unless subfield $2 (Source of date) specifies another date scheme."),
    described "k" "Beginning or single date created" ("Date or beginning of the date range on " ++
        "which a resource has been created. Dates contained in subfield $k may or may not be " ++
        "coded elsewhere in the formats. The date is recorded as specified in subfield $j " ++
        "(Date resource modified)."),
    described "l" "Ending date created" ("Ending date of a date range on which a resource has " ++
        "been created. The date is recorded as specified in subfield $j (Date resource " ++
        "modified)."),
    described "m" "Beginning of date valid" ("Beginning of the date span for the validity of " ++
        "a resource. The date is recorded as specified in subfield $j (Date resource " ++
        "modified)."),
    described "n" "End of date valid" ("Ending of the date span for the validity of a " ++
        "resource. The date is recorded as specified in subfield $j (Date resource modified)."),
    described "o" "Single or starting date for aggregated content" ("Single or starting date " ++
        "of original release of the contents of a collection/aggregation."),
    described "p" "Ending date for aggregated content" ("Ending date of original release of " ++
        "the contents of a collection/aggregation."),
    described "x" "Nonpublic note" ("Note relating to the date(s) recorded in the field. The " ++
        "note is written in a form that is not adequate or intended for public display."),
    described "z" "Public note" ("Note relating to the date(s) recorded in the field. The " ++
        "note is written in a form that is adequate or intended for public display. It is not " ++
        "intended to substitute for system programming that correctly parses the date " ++
        "information itself for display purposes."),
    described "2" "Source of date" ("Source of the date scheme used in the field if not in " ++
        "the form yyyymmdd as specified in subfield $j (Date resource modified)."),
    described "3" "Materials specified" ("Part of the described materials to which the field " ++
        "applies."),
    control "6" "Linkage",
    control "8" "Field link and sequence number"]

def tag047 : String × TagDefinition :=
  entry "047" "Form of Musical Composition Code (R)" ("Codes that indicate the form of " ++
      "musical composition of printed and manuscript music and musical sound recordings when " ++
      "character positions 18 and 19 (Form of composition) of field 008 (Fixed-Length Data " ++
      "Elements) for music contains the code mu for multiple forms or for non-MARC codes. " ++
      "MARC codes are listed under field 008 Music, /18-19 (Form of composition).") [
    named "a" "Form of musical composition code",
    named "2" "Source of code",
    named "8" "Field link and sequence number"]

def tag048 : String × TagDefinition :=
  entry "048" "Number of Musical Instruments or Voices Code (R)" ("Codes for the various " ++
      "types of instrumental and vocal combinations are listed in this section. The function " ++
      "of the instrumentalist or vocalist is represented by the choice of subfield code.") [
    named "a" "Performer or ensemble",
    named "b" "Soloist",
    named "2" "Source of code",
    named "8" "Field link and sequence number"]

def tag050 : String × TagDefinition :=
  entry "050" "Library of Congress Call Number (R)" ("Classification or call number that is " ++
      "taken from Library of Congress Classification or LC Classification Additions and " ++
      "Changes. The brackets that customarily surround alternate class/call numbers are not " ++
      "carried in the MARC record; they may be generated based on the presence of repeated $a " ++
      "subfields.") [
    described "a" "Classification number" ("Classification number portion of the call number. " ++
        "The source of the classification number is Library of Congress Classification and " ++
        "the LC Classification-Additions and Changes. Subfield $a is repeated to record an " ++
        "alternative class number."),
    described "b" "Item number" ("Item number portion of the call number. An item number is " ++
        "the Cutter, date, term, etc. that is added to a classification number to distinguish " ++
        "an item from any other item assigned the same classification number."),
    control "0" "Authority record control number or standard number",
    control "1" "Real World Object URI",
    described "3" "Materials specified" ("Part of the described material to which the field " ++
        "applies. The subfield is used with archival-type materials; its use is parallel with " ++
        "the use of subfield $3 in other fields."),
    control "6" "Linkage",
    control "8" "Field link and sequence number"]

def tag051 : String × TagDefinition :=
  entry "051" "Library of Congress Copy, Issue, Offprint Statement (R)" ("Used only for such " ++
      "information assigned by the Library of Congress. The field does not include " ++
      "supplements, indexes, etc., which are related to, but not the same as, the item in the " ++
      "main record. This field is frequently used for Library of Congress publications when " ++
      "the first two copies are given a call number based on the subject of the publication " ++
      "and additional copies are given a call number assigned to publications of LC.") [
    named "a" "Classification number",
    named "b" "Item number",
    named "c" "Copy information",
    named "8" "Field link and sequence number"]

def tag052 : String × TagDefinition :=
  entry "052" "Geographic Classification (R)" ("Geographic classification code that " ++
      "represents the geographic area and, if applicable, the geographic subarea and " ++
      "populated place name covered by an item. Code can provide more precise geographic " ++
      "access than the codes contained in field 043 (Geographic Area Code). Each main " ++
      "geographic area code and any related subarea codes associated with the item are " ++
      "contained in a separate 052 field. Subfield $d (Populated Place Name) may contain the " ++
      "name of the geographic area.") [
    described "a" "Geographic classification area code" ("Numeric or alphanumeric code that " ++
        "represents the main geographic area covered by an item."),
    described "b" "Geographic classification subarea code" ("Geographic subarea code related " ++
        "to the geographic area coded in subfield $a."),
    described "d" "Populated place name" "Approved form of name for a populated place.",
    control "0" "Authority record control number or standard number",
    control "1" "Real World Object URI",
    described "2" "Code source" ("MARC code for the source of the geographic classification. " ++
        "Code from: Classification Scheme Source Codes."),
    control "6" "Linkage",
    control "8" "Field link and sequence number"]

def tag055 : String × TagDefinition :=
  entry "055" "Classification Numbers Assigned in Canada (R)" ("Excludes those numbers " ++
      "assigned from the National Library of Medicine classification system, the Universal " ++
      "Decimal Classification, and the Dewey Decimal Classification. These latter numbers are " ++
      "input in fields 060 (National Library of Medicine Call Number), 080 (Universal Decimal " ++
      "Classification Number), and 082 (Dewey Decimal Classification Number), respectively.") [
    described "a" "Classification number" ("Classification number portion of the call number. " ++
        "Alternate call numbers are recorded in separate 055 fields."),
    described "b" "Item number" "Item number portion of the call number.",
    control "0" "Authority record control number or standard number",
    control "1" "Real World Object URI",
    named "2" "Source of call/class number",
    control "6" "Linkage",
    control "8" "Field link and sequence number"]

def tag060 : String × TagDefinition :=
  entry "060" "National Library of Medicine Call Number (R)" ("Current practice is to record " ++
      "alternative call numbers in separate occurrences of field 060.") [
    described "a" "Classification number" ("Either the classification number portion of the " ++
        "call number or an accession number. Source of the classification number is National " ++
        "Library of Medicine Classification."),
    described "b" "Item number" "Item number portion of the NLM call number.",
    control "0" "Authority record control number or standard number",
    control "1" "Real World Object URI",
    control "8" "Field link and sequence number"]

def tag066 : String × TagDefinition :=
  entry "066" "Character Sets Present (NR)" ("Since MARC Latin (including ASCII, MARC Greek, " ++
      "MARC subscript, or MARC superscript) is the MARC default set, if it is the primary set " ++
      "it does not need to be identified in this subfield.") [
    named "a" "Primary G0 character set",
    named "b" "Primary G1 character set",
    named "c" "Alternate G0 or G1 character set"]

def tag070 : String × TagDefinition :=
  entry "070" "National Agricultural Library Call Number (R)" ("$a - Classification number " ++
      "Classification number portion of the NAL call number. Subfield $a is repeated to " ++
      "record alternative classification numbers. 070 0#$aHD3492.H8$bL3 070 " ++
      "0#$aTRANSL$b17828[Number assigned to a translation.]") [
    described "a" "Classification number" ("Classification number portion of the NAL call " ++
        "number. Subfield $a is repeated to record alternative classification numbers."),
    described "b" "Item number" "NAL item number.",
    control "0" "Authority record control number or standard number",
    control "1" "Real World Object URI",
    control "8" "Field link and sequence number"]

def tag071 : String × TagDefinition :=
  entry "071" "National Agricultural Library Copy Statement (R)" ("$a - Classification number " ++
      "Classification number portion of the NAL call number. Prior to 1965, NAL used a USDA " ++
      "library classification scheme. In 1965 NAL began using the Library of Congress " ++
      "Classification for all newly-cataloged materials. Both schemes are still used. " ++
      "Subfield $a is repeated to record alternative classification numbers.") [
    named "a" "Classification number",
    named "b" "Item number",
    named "c" "Copy information",
    named "8" "Field link and sequence number"]

def tag072 : String × TagDefinition :=
  entry "072" "Subject Category Code (R)" ("Second Indicator - Code source Source of the " ++
      "subject category code. 0 - NAL subject category code list Source of the subject " ++
      "category code is AGRICOLA Subject Category Codes with Scope Notes. 072 #0$aK800 7 - " ++
      "Source specified in subfield $2") [
    named "a" "Subject category code",
    named "x" "Subject category code subdivision",
    named "2" "Source",
    named "6" "Linkage",
    named "8" "Field link and sequence number"]

def tag074 : String × TagDefinition :=
  entry "074" "GPO Item Number (R)" ("$a - GPO item number Qualifiers such as MF for " ++
      "microfilm are included in subfield $a. GPO Item No. : may be generated for display. " ++
      "074 ##$a334-C-1 074 ##$a277-A-2 (MF) 074 ##$a1002-A 074 ##$a1002-B (MF)[Two GPO item " ++
      "numbers associated with one record.]") [
    named "a" "GPO item number",
    named "z" "Canceled/invalid GPO item number",
    named "8" "Field link and sequence number"]

def tag080 : String × TagDefinition :=
  entry "080" "Universal Decimal Classification Number (R)" ("First Indicator - Type of " ++
      "edition Whether the classification number is from the full or the abridged edition of " ++
      "the classification schedules. The actual edition number is contained in subfield $2. # " ++
      "- No information provided 0 - Full Class number is from a full edition. 1 - Abridged " ++
      "Class number is from an abridged edition. Second Indicator - Undefined Undefined and " ++
      "contains a blank (#).") [
    named "a" "Universal Decimal Classification number",
    described "b" "Item number" ("Item number portion of the UDC number. An item number is a " ++
        "Cutter, date, term, etc. added to a classification number to distinguish one item " ++
        "from any other assigned the same classification number."),
    described "x" "Common auxiliary subdivision" ("Number that qualifies the concept " ++
        "represented by the main UDC number."),
    control "0" "Authority record control number or standard number",
    control "1" "Real World Object URI",
    described "2" "Edition identifier" ("Edition number, date, or other textual designation " ++
        "of the edition of UDC used to compose the classification number."),
    control "6" "Linkage",
    control "8" "Field link and sequence number"]

def tag082 : String × TagDefinition :=
  entry "082" "Dewey Decimal Classification Number (R)" ("First Indicator - Type of edition " ++
      "Indicates the edition from which the Dewey Decimal classification is taken. 0 - Full " ++
      "edition Class number was taken from the full edition. 082 04$a388/.0919$222 1 - " ++
      "Abridged edition Class number was taken from the abridged edition. 082 14$a914.3$213 7 " ++
      "- Other edition specified in subfield $2 The edition is specified in subfield $2 " ++
      "(Edition information). 082 74$a839.82$25/nor/20071204$qNO-OsNB") [
    described "a" "Classification number" ("Classification number assigned using an edition " ++
        "of the Dewey Decimal Classification. The source of the classification number is the " ++
        "Dewey Decimal Classification, accessed through electronic or printed versions."),
    described "b" "Item number" ("Item number portion of the number. This subfield may also " ++
        "contain a copy (or set) number."),
    described "m" "Standard or optional designation" ("Designates whether the classification " ++
        "number contained in the field is from the standard or optional part of the schedules " ++
        "or tables of the scheme identified by the first indicator (Type of edition) and by " ++
        "subfield $2 (Edition information)."),
    described "q" "Assigning agency" ("MARC organization code of the institution that " ++
        "assigned the classification number."),
    control "0" "Authority record control number or standard number",
    control "1" "Real World Object URI",
    described "2" "Edition information" ("Information on the edition from which the DDC " ++
        "number was assigned. If DDC numbers are assigned from more than one edition, each " ++
        "DDC number or range of numbers is contained in a separate 082 field. If the DDC " ++
        "number is assigned from a printed version, record edition number (use " ++
        "â\x80\x9c23â\x80\x9d for print-on-demand), a slash (/), the language of the edition, " ++
        "a slash (/), and the year of publication or printing."),
    control "6" "Linkage",
    described "7" "Data provenance" ("See description of this subfield in Appendix J: Data " ++
        "Provenance Subfields."),
    control "8" "Field link and sequence number"]

def tag083 : String × TagDefinition :=
  entry "083" "Additional Dewey Decimal Classification Number (R)" ("0 - Full edition Class " ++
      "number was taken from the full edition. 082 04$a388.13$222 083 0#$z2$a4947$222For a " ++
      "book on tunnels in the Swiss Alps. The Dewey number 388.13 is used for " ++
      "interdisciplinary works on tunnels, but the number itself is broader, covering a " ++
      "variety of special road features. Consequently, geographic area notation cannot be " ++
      "added to the primary number in field 082. Field 083 contains the geographic area " ++
      "notation from Table 2 for the Swiss Alps.") [
    described "a" "Classification number" ("Additional classification number applied to the " ++
        "resource, which could be used for subject access in addition to the primary " ++
        "classification number assigned."),
    described "c" "Classification number--Ending number of span" ("Ending number of a number " ++
        "span when the beginning number of the span is contained in subfield $a."),
    described "m" "Standard or optional designation" ("Designates whether the classification " ++
        "number contained in the field is from the standard or optional part of the schedules " ++
        "or tables of the scheme identified by the first indicator (Type of edition) and by " ++
        "subfield $2 (Edition information)."),
    described "q" "Assigning agency" ("MARC organization code of the institution that " ++
        "assigned the classification number."),
    described "y" ("Table sequence number for internal\n                     " ++
        "\t\t\t\t\tsubarrangement or add table") ("Sequence number or other identifier for an " ++
        "internal classification subarrangement or add table. If the first or only add table " ++
        "found at a classification number is the number 1, succeeding integers are used for " ++
        "any following add tables found at that number."),
    described "z" "Table identification" ("Number of the table from which the classification " ++
        "number in a subdivision record is taken. Subfield $z always precedes the associated " ++
        "subfield $a in the field."),
    control "0" "Authority record control number or standard number",
    control "1" "Real World Object URI",
    described "2" "Edition information" ("Information on the edition from which the DDC " ++
        "number was assigned. If the DDC number is assigned from a printed version, record " ++
        "edition number (use â\x80\x9c23â\x80\x9d for print-on-demand), a slash (/), the " ++
        "language of the edition, a slash (/), and the year of publication or printing."),
    control "6" "Linkage",
    described "7" "Data provenance" ("See description of this subfield in Appendix J: Data " ++
        "Provenance Subfields."),
    control "8" "Field link and sequence number"]

def tag084 : String × TagDefinition :=
  entry "084" "Other Classification Number (R)" ("Classification number from a scheme not " ++
      "covered by one of the other number fields. The field should not be used for " ++
      "classification numbers assigned from a source for which a subfield $2 source of number " ++
      "code would not be assigned.") [
    described "a" "Classification number" ("Classification number portion of the number. " ++
        "Subfield $a is repeated to record an alternative class number."),
    described "b" "Item number" "Item number portion of the call number.",
    described "q" "Assigning agency" ("MARC organization code of the institution that " ++
        "assigned the classification number."),
    control "0" "Authority record control number or standard number",
    control "1" "Real World Object URI",
    described "2" "Number source" ("MARC code for the source of the classification system or " ++
        "scheme from which the number was assigned."),
    control "6" "Linkage",
    described "7" "Data provenance" ("See description of this subfield in Appendix J: Data " ++
        "Provenance Subfields."),
    control "8" "Field link and sequence number"]

def tag085 : String × TagDefinition :=
  entry "085" "Synthesized Classification Number Components (R)" ("Information about how a " ++
      "synthesized classification number or a portion of a synthesized classification number " ++
      "was built. It traces the different components of a synthesized number, showing the " ++
      "different portions of the number and where the add instructions are given. If a number " ++
      "was built using two or more instructions, a separate field 085 is given for each " ++
      "instruction.") [
    described "a" ("Number where instructions are found-single\n                     " ++
        "\t\t\t\t\tnumber or beginning number of span") ("Number where instructions are " ++
        "found-single"),
    named "b" "Base number",
    described "c" "Classification number-ending number of span" ("Ending number of a " ++
        "classification number span under which an internal subarrangement or add " ++
        "instructions are found."),
    described "f" "Facet designator" ("Extra character(s) to be added to classification " ++
        "numbers that indicate facets."),
    described "r" "Root number" ("Initial digits of the pattern number or span when these " ++
        "digits are not added. If this subfield is present, subfield $s or $t must also be " ++
        "present to specify the digits that are added."),
    described "s" ("Digits added from classification number in\n                     " ++
        "\t\t\t\t\tschedule or external table") ("Digits that have been added from a " ++
        "classification number in a schedule or external table to make up the synthesized " ++
        "number."),
    described "t" ("Digits added from internal subarrangement or\n                     " ++
        "\t\t\t\t\tadd table") ("Digits that have been added from an internal subarrangement " ++
        "or add table to make up the synthesized number."),
    described "u" "Number being analyzed" ("Repeated when the same 085 field is applicable to " ++
        "more than one number appearing in the same record."),
    described "v" ("Number in internal subarrangement or add table\n                     " ++
        "\t\t\t\t\twhere instructions are found") ("Number (single number or beginning number " ++
        "of span) in an internal subarrangement or add table under which add instructions are " ++
        "found."),
    described "w" ("Table identification-Internal subarrangement\n                     " ++
        "\t\t\t\t\tor add table") ("Classification number (single number or beginning number " ++
        "of span) under which an internal subarrangement or add table is found."),
    described "y" ("Table sequence number for internal\n                     " ++
        "\t\t\t\t\tsubarrangement or add table") ("Sequence number or other identifier for an " ++
        "internal classification subarrangement or add table. If the first or only add table " ++
        "found at a classification number is the number 1, and succeeding integers are used " ++
        "for any following add tables found at that number."),
    described "z" "Table identification" ("Identifies the table used in building a number. " ++
        "For a classification number span, subfield $z is given only once, before the first " ++
        "number."),
    control "0" "Authority record control number or standard number",
    control "1" "Real World Object URI",
    described "6" "Linkage" ("See the description of this subfield in Appendix A: Control " ++
        "Subfields."),
    described "8" "Field link and sequence number" ("See the description of this subfield in " ++
        "Appendix A: Control Subfields.")]

def tag086 : String × TagDefinition :=
  entry "086" "Government Document Classification Number (R)" ("Government agency may be at " ++
      "any level (e.g., provincial, state, national, international). If a number can be " ++
      "characterized as both a stock number (field 037) and a classification number, the " ++
      "number is recorded in field 086. If the nature of the number is unknown, it is " ++
      "recorded in field 037 (Source of Acquisition). Field 086 is repeated for multiple " ++
      "valid government document classification numbers.") [
    described "a" "Classification number" ("Government document classification number, " ++
        "including parenthetical qualifying information."),
    described "z" "Canceled/invalid classification number" ("Document number that has been " ++
        "canceled or determined to be invalid by the authoritative agency. Subfield $z is " ++
        "repeated for multiple canceled or invalid classification numbers."),
    control "0" "Authority record control number or standard number",
    control "1" "Real World Object URI",
    described "2" "Number source" ("MARC code that identifies the government document " ++
        "classification scheme used to assign the number when the first indicator position " ++
        "contains value #. The code may be used to generate a display constant to identify " ++
        "the source of the classification number."),
    control "6" "Linkage",
    control "8" "Field link and sequence number"]

def tag088 : String × TagDefinition :=
  entry "088" "Report Number (R)" ("Report number that is not a Standard Technical Report " ++
      "Number (STRN), recorded in field 027. Field 088 is repeated for multiple report " ++
      "numbers, except when one number is the canceled or invalid number corresponding to a " ++
      "valid report number.") [
    named "a" "Report number",
    described "z" "Canceled/invalid report number" ("Each canceled or invalid report number " ++
        "is contained in a separate subfield $z. If no valid report number exists, only " ++
        "subfield $z should be recorded."),
    control "6" "Linkage",
    control "8" "Field link and sequence number"]

/-- Control fields, numbers and codes (tags 003 to 088). -/
def numbers : Table TagDefinition :=
  [tag003, tag006, tag007, tag008, tag010, tag013, tag015, tag016, tag017, tag018, tag020,
   tag022, tag024, tag025, tag026, tag027, tag028, tag030, tag031, tag032, tag033, tag034,
   tag035, tag036, tag037, tag038, tag040, tag042, tag043, tag044, tag046, tag047, tag048,
   tag050, tag051, tag052, tag055, tag060, tag066, tag070, tag071, tag072, tag074, tag080,
   tag082, tag083, tag084, tag085, tag086, tag088]

end MarcLens.Shipped

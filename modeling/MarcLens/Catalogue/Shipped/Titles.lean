import MarcLens.Catalogue.Shipped.Entry

/-!
# Shipped documentation: titles, editions and imprints (tags 210 to 270)
-/

namespace MarcLens.Shipped

def tag210 : String × TagDefinition :=
  entry "210" "Abbreviated Title (R)" ("Title as abbreviated for indexing or identification. " ++
      "An abbreviated key title is supplied by ISSN centers, based on the Key Title (Field " ++
      "222). Other abbreviated titles are supplied by cataloging agencies, including " ++
      "abstracting and indexing services. Abbreviated title may be created by the agency " ++
      "supplying the field or it may be taken from the piece.") [
    described "a" "Abbreviated title" "Complete abbreviated title.",
    described "b" "Qualifying information" ("Abbreviated form of the parenthetical qualifying " ++
        "information contained in the key title (field 222)."),
    named "2" "Source",
    control "6" "Linkage",
    described "7" "Data provenance" ("See description of this subfield in Appendix J: Data " ++
        "Provenance Subfields."),
    control "8" "Field link and sequence number"]

def tag222 : String × TagDefinition :=
  entry "222" "Key Title (R)" ("Unique title for a continuing resource that is assigned in " ++
      "conjunction with an ISSN recorded in field 022 by national centers under the auspices " ++
      "of the ISSN Network.") [
    named "a" "Key title",
    named "b" "Qualifying information",
    named "6" "Linkage",
    named "8" "Field link and sequence number"]

def tag240 : String × TagDefinition :=
  entry "240" "Uniform Title (NR)" ("Uniform title for an item when the bibliographic " ++
      "description is entered under a main entry field that contains a personal (field 100), " ++
      "corporate (110), or meeting (111) name.") [
    named "a" "Uniform title",
    named "d" "Date of treaty signing",
    named "f" "Date of a work",
    named "g" "Miscellaneous information",
    named "h" "Medium",
    named "k" "Form subheading",
    named "l" "Language of a work",
    named "m" "Medium of performance for music",
    named "n" "Number of part/section of a work",
    named "o" "Arranged statement for music",
    named "p" "Name of part/section of a work",
    named "r" "Key for music",
    named "s" "Version",
    named "0" "Authority record control number or standard number",
    named "1" "Real World Object URI",
    named "2" "Source of heading or term",
    named "6" "Linkage",
    named "7" "Data provenance",
    named "8" "Field link and sequence number"]

def tag242 : String × TagDefinition :=
  entry "242" "Translation of Title by Cataloging Agency (R)" ("Translation of the title " ++
      "proper that is made by the cataloging agency when the translated title does not appear " ++
      "as a parallel title on the item. For a note, the introductory phrase Title translated: " ++
      "may be generated based on the field tag for display.") [
    named "a" "Title",
    named "b" "Remainder of title",
    named "c" "Statement of responsibility, etc.",
    named "h" "Medium",
    named "n" "Number of part/section of a work",
    named "p" "Name of part/section of a work",
    named "y" "Language code of translated title",
    named "6" "Linkage",
    named "8" "Field link and sequence number"]

def tag243 : String × TagDefinition :=
  entry "243" "Collective Uniform Title (NR)" ("Generic title that is constructed by the " ++
      "cataloger to collect works by a prolific author. Brackets that customarily enclose a " ++
      "collective uniform title are not carried in the MARC record. They may be generated " ++
      "based on the field tag.") [
    named "a" "Uniform title",
    named "d" "Date of treaty signing",
    named "f" "Date of a work",
    named "g" "Miscellaneous information",
    named "h" "Medium",
    named "k" "Form subheading",
    named "l" "Language of a work",
    named "m" "Medium of performance for music",
    named "n" "Number of part/section of a work",
    named "o" "Arranged statement for music",
    named "p" "Name of part/section of a work",
    named "r" "Key for music",
    named "s" "Version",
    named "6" "Linkage",
    named "8" "Field link and sequence number"]

def tag245 : String × TagDefinition :=
  entry "245" "Title Statement (NR)" ("Title Statement field consists of the title proper and " ++
      "may also contain the general material designation (medium), remainder of title, other " ++
      "title information, the remainder of the title page transcription, and statement(s) of " ++
      "responsibility. The title proper includes the short title and alternative title, the " ++
      "numerical designation of a part/section and the name of a part/section.") [
    described "a" "Title" ("Title proper and alternative title, excluding the designation of " ++
        "the number or name of a part. Subfield $a also contains the first title of separate " ++
        "works (by the same or different authors/composers) in a collection lacking a " ++
        "collective title."),
    described "b" "Remainder of title" ("Data includes parallel titles, titles subsequent to " ++
        "the first (in items lacking a collective title), and other title information. In " ++
        "records formulated according to ISBD principles, subfield $b contains all the data " ++
        "following the first mark of ISBD punctuation and up to and including the mark of " ++
        "ISBD punctuation that introduces the first author statement (i.e., the first slash " ++
        "(/)) or precedes either the number (subfield $n) or the name (subfield $p) of a " ++
        "part/section of a work."),
    described "c" "Statement of responsibility, etc." ("First statement of responsibility " ++
        "and/or remaining data in the field that has not been subfielded by one of the other " ++
        "subfield codes. In records formulated according to ISBD principles, subfield $c " ++
        "contains all data following the first slash (/)."),
    described "f" "Inclusive dates" ("Time period during which the entirety of the contents " ++
        "of the described materials were created."),
    described "g" "Bulk dates" ("Time period during which the bulk of the described materials " ++
        "were created."),
    named "h" "Medium",
    described "k" "Form" ("Term that is descriptive of the form of the described materials, " ++
        "determined by an examination of their physical character, subject of their " ++
        "intellectual content, or the order of information within them (e.g., daybooks, " ++
        "diaries, directories, journals, memoranda, etc.)."),
    described "n" "Number of part/section of a work" ("Number designation for a part/section " ++
        "of a work used in a title. Numbering is defined as an indication of sequencing in " ++
        "any form, e.g., Part 1, Supplement A, Book two. In music titles, the serial opus, or " ++
        "thematic index number are generally not contained in subfield $n."),
    described "p" "Name of part/section of a work" ("Name of a part/section of a work in a " ++
        "title. In records formulated according to ISBD principles, subfield $p data follows " ++
        "a period (.) when it is preceded by subfield $a, $b or another subfield $p. Subfield " ++
        "$p follows a comma (,) when it follows subfield $n."),
    described "s" "Version" ("Name, code, or description of a copy of the described materials " ++
        "that was generated at different times or for different audiences."),
    control "6" "Linkage",
    described "7" "Data provenance" ("See description of this subfield in Appendix J: Data " ++
        "Provenance Subfields."),
    control "8" "Field link and sequence number"]

def tag246 : String × TagDefinition :=
  entry "246" "Varying Form of Title (R)" ("Varying forms of the title appearing on different " ++
      "parts of an item or a portion of the title proper, or an alternative form of the title " ++
      "when the form differs substantially from the title statement in field 245 and if they " ++
      "contribute to the further identification of the item.") [
    named "a" "Title proper/short title",
    named "b" "Remainder of title",
    described "f" "Date or sequential designation" ("Dates or volume and issue numbers that " ++
        "relate the variant title to the record when a note is generated from the field."),
    described "g" "Miscellaneous information" ("Miscellaneous information that is not more " ++
        "appropriately recorded in another subfield. Used for information such as the phrase " ++
        "varies slightly, enclosed in parentheses."),
    named "h" "Medium",
    described "i" "Display text" ("Text to be displayed when none of the display constants " ++
        "associated with second indicator values 2-8 is adequate. When this subfield is " ++
        "present, the second indicator contains value # (No information provided). Subfield " ++
        "$i precedes subfield $a at the beginning of the field."),
    named "n" "Number of part/section of a work",
    named "p" "Name of part/section of a work",
    control "5" "Institution to which field applies",
    control "6" "Linkage",
    described "7" "Data provenance" ("See description of this subfield in Appendix J: Data " ++
        "Provenance Subfields."),
    control "8" "Field link and sequence number"]

def tag247 : String × TagDefinition :=
  entry "247" "Former Title (R)" ("For instance, under some cataloging rules (e.g., ALA " ++
      "rules) a serial is cataloged under the latest title, with former titles noted in the " ++
      "same record in a title varies note. Likewise, under some cataloging rules (e.g., " ++
      "AACR2) an integrating resource is cataloged under the latest title, with former titles " ++
      "noted in the same record. Former titles proper may also be recorded in field 547 " ++
      "(Former Title Complexity Note).") [
    named "a" "Title",
    named "b" "Remainder of title",
    described "f" "Date or sequential designation" ("Dates or volume and issue numbers that " ++
        "relate the former variant title to the record."),
    described "g" "Miscellaneous information" ("Miscellaneous information that is not more " ++
        "appropriately recorded in another subfield. It is used for information such as the " ++
        "phrase varies slightly, enclosed in parentheses."),
    named "h" "Medium",
    named "n" "Number of part/section of a work",
    named "p" "Name of part/section of a work",
    described "x" "International Standard Serial Number" ("ISSN is an authoritative-agency " ++
        "data element. ISSNs are assigned to serial publications by national centers under " ++
        "the auspices of the ISSN Network."),
    control "6" "Linkage",
    described "7" "Data provenance" ("See description of this subfield in Appendix J: Data " ++
        "Provenance Subfields."),
    control "8" "Field link and sequence number"]

def tag250 : String × TagDefinition :=
  entry "250" "Edition Statement (R)" ("For mixed materials, field 250 is used to record " ++
      "statements relating to collections that contain versions of works existing in two or " ++
      "more versions (or states) in single or multiple copies (e.g., different drafts of a " ++
      "film script). For continuing resources, this field is not used for sequential edition " ++
      "statements such as 1st- ed. This type of information is contained in field 362 (Dates " ++
      "of Publication and/or Volume Designation).") [
    described "a" "Edition statement" ("Edition statement that usually consists of numeric " ++
        "and alphabetic characters and accompanying words and/or abbreviations. If an edition " ++
        "statement appears in more than one language, only the first edition statement is " ++
        "recorded in subfield $a."),
    described "b" "Remainder of edition statement" ("Usually, a statement of personal or " ++
        "corporate responsibility and/or a parallel edition statement."),
    described "3" "Materials specified" ("Information to differentiate the multiple " ++
        "statements of the described materials to which the field applies."),
    control "6" "Linkage",
    described "7" "Data provenance" ("See description of this subfield in Appendix J: Data " ++
        "Provenance Subfields."),
    control "8" "Field link and sequence number"]

def tag254 : String × TagDefinition :=
  entry "254" "Musical Presentation Statement (NR)" ("For example, a string quartet published " ++
      "as a score, study score, score and parts, or a set of parts. The field is not used for " ++
      "sound recordings.") [
    named "a" "Musical presentation statement",
    named "6" "Linkage",
    named "8" "Field link and sequence number"]

def tag255 : String × TagDefinition :=
  entry "255" "Cartographic Mathematical Data (R)" ("Mathematical data associated with " ++
      "cartographic material, including celestial charts. This data may also be coded in " ++
      "field 034 (Coded Mathematical Data).") [
    described "a" "Statement of scale" ("Entire scale statement including any equivalency " ++
        "statements, vertical scales or vertical exaggeration statements for relief models " ++
        "and other three-dimensional items."),
    described "b" "Statement of projection" ("Entire projection statement. In records " ++
        "formulated according to ISBD principles, subfield $b includes all data following the " ++
        "semicolon (;) and up to but not including the opening parenthesis (() that " ++
        "introduces subfields $c, $d, and/or $e."),
    described "c" "Statement of coordinates" ("Coordinates are recorded in the order of " ++
        "westernmost longitude, easternmost longitude, northernmost latitude, and " ++
        "southernmost latitude. In records formulated according to ISBD principles, subfield " ++
        "$c data are enclosed in parentheses."),
    described "d" "Statement of zone" "Used for celestial charts.",
    described "e" "Statement of equinox" ("Statement of equinox or epoch. In records " ++
        "formulated according to ISBD principles, subfield $e data, along with any subfield " ++
        "$c or $d data, are enclosed in parentheses."),
    described "f" "Outer G-ring coordinate pairs" ("Coordinate pairs that identify the closed " ++
        "non-intersecting boundary of the area covered."),
    described "g" "Exclusion G-ring coordinate pairs" ("Coordinate pairs that identify the " ++
        "closed non-intersecting boundary of the area contained within the G-polygon outer " ++
        "ring that is excluded."),
    control "6" "Linkage",
    described "7" "Data provenance" ("See description of this subfield in Appendix J: Data " ++
        "Provenance Subfields."),
    control "8" "Field link and sequence number"]

def tag256 : String × TagDefinition :=
  entry "256" "Computer File Characteristics (NR)" ("$6 - Linkage See description of this " ++
      "subfield in Appendix A: Control Subfields.") [
    described "a" "Computer file characteristics" ("May include the type of file and the " ++
        "number of records, etc. In records formulated according to ISBD principles, the " ++
        "number of records, statements, bytes, etc. is enclosed in parentheses."),
    control "6" "Linkage",
    described "7" "Data provenance" ("See description of this subfield in Appendix J: Data " ++
        "Provenance Subfields."),
    control "8" "Field link and sequence number"]

def tag257 : String × TagDefinition :=
  entry "257" "Country of Producing Entity (R)" ("Name or abbreviation of the name of the " ++
      "country(s), area(s), etc. where the principal offices of the producing entity(s) of a " ++
      "resource are located. Entity(s) in this instance is the production company(s) or " ++
      "individual that is named in the statement of responsibility (subfield $c) of field 245 " ++
      "(Title Statement). The inclusion of countries, areas, etc. in this field does not " ++
      "express any opinion concerning the legal status of the entity.") [
    described "a" "Country of producing entity" ("Name or abbreviation of the name of the " ++
        "country(s), area(s), etc. where the principal offices of the producing entity(s) of " ++
        "a resource are located."),
    control "0" "Authority record control number or standard number",
    control "1" "Real World Object URI",
    described "2" "Source" "MARC code that identifies the source of the term in subfield $a.",
    control "6" "Linkage",
    control "8" "Field link and sequence number"]

def tag258 : String × TagDefinition :=
  entry "258" "Philatelic Issue Data (R)" ("$6 - Linkage See description of this subfield in " ++
      "Appendix A: Control Subfields.") [
    named "a" "Issuing jurisdiction",
    named "b" "Denomination",
    named "6" "Linkage",
    named "8" "Field link and sequence number"]

def tag260 : String × TagDefinition :=
  entry "260" "Publication, Distribution, etc. (Imprint) (R)" ("For unpublished items or " ++
      "materials that are collectively controlled, this field may not be included in a record " ++
      "or may contain only subfield $c (Date of publication, distribution, etc.).") [
    named "a" "Place of publication, distribution, etc.",
    named "b" "Name of publisher, distributor, etc.",
    described "c" "Date of publication, distribution, etc." ("May contain multiple dates " ++
        "(e.g., dates of publication and copyright)."),
    described "e" "Place of manufacture" ("Place of manufacture and any additions to the " ++
        "place name. When subfield $e is recorded, subfield $f is also generally recorded. In " ++
        "records formulated according to ISBD principles, subfield $e is recorded after any " ++
        "subfield $a, $b, or $c."),
    described "f" "Manufacturer" ("Name of the manufacturer and any qualifying terms. In " ++
        "records formulated according to ISBD principles, subfield $f contains all data " ++
        "following the last mark of ISBD punctuation (i.e., a colon (:)) and up to and " ++
        "including the mark of ISBD punctuation that introduces the next data element (a " ++
        "comma (,) when subfield $f is followed by subfield $g, a closing parenthesis ()) " ++
        "when subfield $f is the last subfield in field 260."),
    described "g" "Date of manufacture" ("If the date of manufacture has been used in place " ++
        "of a date of publication in subfield $c, it is not recorded in subfield $g. In " ++
        "records formulated according to ISBD principles, subfield $g contains all data " ++
        "following a comma ( , ) when subfield $g follows subfield $f, and ends with a " ++
        "closing parenthesis ( ) )."),
    described "3" "Materials specified" ("Information to differentiate the multiple " ++
        "statements of the described materials to which the field applies."),
    control "6" "Linkage",
    control "8" "Field link and sequence number"]

def tag261 : String × TagDefinition :=
  entry "261" "Imprint Statement for Films (Pre-AACR 1 Revised) (NR)" ("Name of the " ++
      "individual, company, or organization responsible for the work, either directly or as a " ++
      "sponsor. The producing company is defined as the organization or individual that " ++
      "exercises the immediate overall responsibility for the physical processes involved in " ++
      "making the audiovisual material. Subfield $a is repeated when two or more joint " ++
      "production companies are named and they are not joined by a phrase such as in " ++
      "cooperation with.") [
    named "a" "Producing company",
    named "b" "Releasing company",
    named "d" "Date of production, release, etc.",
    named "e" "Contractual producer",
    named "f" "Place of production, release, etc.",
    named "6" "Linkage",
    named "8" "Field link and sequence number"]

def tag262 : String × TagDefinition :=
  entry "262" "Imprint Statement for Sound Recordings (Pre-AACR 1) (NR)" ("$6 - Linkage See " ++
      "description of this subfield in Appendix A Control Subfields.") [
    named "a" "Place of production, release, etc.",
    named "b" "Publisher or trade name",
    named "c" "Date of production, release, etc.",
    named "k" "Serial identification",
    named "l" "Matrix and/or take number",
    named "6" "Linkage",
    named "8" "Field link and sequence number"]

def tag263 : String × TagDefinition :=
  entry "263" "Projected Publication Date (NR)" ("$6 - Linkage See description of this " ++
      "subfield in Appendix A: Control Subfields.") [
    named "a" "Projected publication date",
    named "6" "Linkage",
    named "8" "Field link and sequence number"]

def tag264 : String × TagDefinition :=
  entry "264" "Production, Publication, Distribution, Manufacture, and Copyright Notice (R)"
    ("Statement relating to the publication, printing, distribution, issue, release, or " ++
      "production of a work. Information in field 264 is similar to information in field 260 " ++
      "(Publication, Distribution, etc. (Imprint)). Field 264 is useful for cases where the " ++
      "content standard or institutional policies make a distinction between functions") [
    named "a" "Place of production, publication, distribution, manufacture",
    named "b" "Name of producer, publisher, distributor, manufacturer",
    named "c" "Date of production, publication, distribution, manufacture, or copyright notice",
    described "3" "Materials specified" ("Information to differentiate the multiple " ++
        "statements of the described materials to which the field applies."),
    control "6" "Linkage",
    described "7" "Data provenance" ("See description of this subfield in Appendix J: Data " ++
        "Provenance Subfields."),
    control "8" "Field link and sequence number"]

def tag270 : String × TagDefinition :=
  entry "270" "Address (R)" ("An address (as well as electronic access information such as " ++
      "email, telephone, fax, TTY, etc. numbers) for contacts related to the content of the " ++
      "bibliographic item. Multiple addresses, such as mailing addresses and addresses " ++
      "corresponding to the physical location of an item or facilities, are recorded in " ++
      "separate occurrences of field 270.") [
    described "a" "Address" ("All address information preceding the name of the city or town, " ++
        "except attention information which is recorded in subfields $f, $g, and $h. The " ++
        "subfield can also contain information indicating that no address information is " ++
        "available."),
    described "b" "City" "Name of the city or town.",
    described "c" "State or province" ("Name of the state, province, or next larger " ++
        "jurisdiction, when this information is an integral part of the address."),
    named "d" "Country",
    described "e" "Postal code" ("Alphanumeric code assigned the postal delivery area by a " ++
        "national postal agency."),
    described "f" "Terms preceding attention name" ("Term of address associated with the " ++
        "attention name (e.g., General, Dr.) when the term precedes the name."),
    described "g" "Attention name" "Attention name, e.g., the name of a person.",
    described "h" "Attention position" ("Position or terms of address associated with the " ++
        "attention name (e.g., Chief, M.D.) when the information follows the name."),
    described "i" "Type of address" ("One or more words denoting the kind of address found in " ++
        "the field (e.g., \"Billing\"). Subfield $i is the first subfield in the field, " ++
        "unless subfield $6 is present."),
    described "j" "Specialized telephone number" ("Important service number, as opposed to an " ++
        "administrative telephone number that is recorded in subfield $k. Examples of " ++
        "specialized telephone numbers include hotline numbers, toll-free numbers, emergency " ++
        "numbers, etc."),
    named "k" "Telephone number",
    described "l" "Fax number" ("Fax number associated with the address. If more than one fax " ++
        "number is associated with the address, each number is given in a separate subfield " ++
        "$l."),
    described "m" "Electronic mail address" ("Electronic mail address associated with the " ++
        "address. If more than one electronic mail address is associated with the address, " ++
        "each number is given in a separate subfield $m."),
    described "n" "TDD or TTY number" ("TDD or a TTY number associated with the address. If " ++
        "there is both a TDD number and a TTY number (and/or more than one of each) " ++
        "associated with the address, each number is given in a separate subfield $n."),
    described "p" "Contact person" ("Name of a contact person at the address. If more than " ++
        "one contact person is associated with the address, each name is given in a separate " ++
        "subfield $p. If the name of the person is the same name as the attention name found " ++
        "in subfield $g, the information is not repeated in subfield $p."),
    named "q" "Title of contact person",
    described "r" "Hours" ("Hours that access to the contact and/or telephone numbers is " ++
        "available. If the record is for a system or service, the hours it is available are " ++
        "recorded in field 307 (Hours, Etc.). This subfield is only for the hours associated " ++
        "with address information in field 270."),
    described "z" "Public note" ("Note relating to the address information contained in field " ++
        "270. The note is written in a form that is adequate for public display."),
    described "4" "Relationship" ("Code or URI that specifies the relationship from the " ++
        "entity described in the record to the entity referenced in the field. More than one " ++
        "relationship code or URI may be used if there is more than one relationship. A " ++
        "source of relationship codes is: MARC Code List for Relators."),
    control "6" "Linkage",
    control "8" "Field link and sequence number"]

/-- Titles, editions and imprints (tags 210 to 270). -/
def titles : Table TagDefinition :=
  [tag210, tag222, tag240, tag242, tag243, tag245, tag246, tag247, tag250, tag254, tag255,
   tag256, tag257, tag258, tag260, tag261, tag262, tag263, tag264, tag270]

end MarcLens.Shipped

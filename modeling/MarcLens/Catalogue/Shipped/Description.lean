import MarcLens.Catalogue.Shipped.Entry

/-!
# Shipped documentation: physical description (tags 300 to 388)
-/

namespace MarcLens.Shipped

def tag300 : String × TagDefinition :=
  entry "300" "Physical Description (R)" ("Data in this field are customarily formulated as " ++
      "specified by various cataloging rules. In records formulated following cataloging " ++
      "rules based on International Standard Bibliographic Description (ISBD) principles, a " ++
      "relationship exists between prescribed ISBD punctuation and the identification of " ++
      "specific subfield data. Most of the examples in this section illustrate the prescribed " ++
      "ISBD punctuation associated with specific subfields.") [
    described "a" "Extent" ("Number of physical pages, volumes, cassettes, total playing " ++
        "time, etc., of each type of unit."),
    described "b" "Other physical details" ("Physical characteristics such as illustrative " ++
        "matter, coloration, playing speed, groove characteristics, presence and kind of " ++
        "sound, number of channels, motion picture presentation format, etc."),
    described "c" "Dimensions" ("Expressed in centimeters, millimeters, or inches; may " ++
        "include a parenthetical qualifier giving the format of the item (e.g., (fol.), " ++
        "(8vo))."),
    described "e" "Accompanying material" ("May include a parenthetical physical description " ++
        "of the accompanying material."),
    described "f" "Type of unit" ("Terms such as page, volumes, boxes, cu. ft., linear ft., " ++
        "etc. that are used to identify the configuration of material and how it is stored."),
    described "g" "Size of unit" "Size of a type of unit given in the preceding subfield $f.",
    described "3" "Materials specified" ("Part of the described materials to which the field " ++
        "applies."),
    control "6" "Linkage",
    described "7" "Data provenance" ("See description of this subfield in Appendix J: Data " ++
        "Provenance Subfields."),
    control "8" "Field link and sequence number"]

def tag306 : String × TagDefinition :=
  entry "306" "Playing Time (NR)" ("Playing time may also be recorded in natural language in " ++
      "a note (field 500 and/or 505) or in field 300 (Physical Description).") [
    named "a" "Playing time",
    named "6" "Linkage",
    named "8" "Field link and sequence number"]

def tag307 : String × TagDefinition :=
  entry "307" "Hours, Etc. (R)" ("$a - Hours Days and/or hours an item is available or " ++
      "accessible. Informal references to the A.M. and P.M. time references as well as time " ++
      "zone can be given in this subfield if required. 307 ##$aM-F, 9AM-10PM. 307 ##$aTu-F, " ++
      "10-6; Sa, 1-5, USA PST. 307 ##$aM, 8:30-6:00; Tu, 8:30-7:00; W-F, 8:30-6:00;$bnot " ++
      "available on weekends. 307 8#$a8:00 p.m., Tu-F; 5:00 and 9:00 p.m., Sa; 2:00 and 7:00 " ++
      "p.m., Su (all times, EST).") [
    named "a" "Hours",
    named "b" "Additional information",
    named "6" "Linkage",
    named "8" "Field link and sequence number"]

def tag310 : String × TagDefinition :=
  entry "310" "Current Publication Frequency (R)" ("In records having field 008 (Fixed-Length " ++
      "Data Elements) or field 006 (Fixed-Length Data Elements-Additional Material " ++
      "Characteristics) configured for seriality, field 362 information is related to coded " ++
      "information contained in 008/18 (006/01) (Frequency) and 008/19 (006/02) (Regularity). " ++
      "The date(s) of the current publication frequency is given when the beginning date of " ++
      "the current publication frequency is not the same as the beginning date of the " ++
      "publication.") [
    described "a" "Current publication frequency" ("Complete statement, exclusive of dates, " ++
        "of the current publication frequency."),
    described "b" "Date of current publication frequency" ("Used when the date is different " ++
        "from the beginning date of the publication and a former publication frequency is " ++
        "given in field 321."),
    control "0" "Authority record control number or standard number",
    control "1" "Real World Object URI",
    described "2" "Source" ("MARC code that identifies the source of the term or code used to " ++
        "record current publication frequency information."),
    control "6" "Linkage",
    control "8" "Field link and sequence number"]

def tag321 : String × TagDefinition :=
  entry "321" "Former Publication Frequency (R)" ("Former publication frequency of either an " ++
      "item or an update to an item when a current publication frequency is given in field " ++
      "310 (Current Publication Frequency).") [
    described "a" "Former publication frequency" ("The complete statement, exclusive of " ++
        "dates, of the former publication frequency."),
    named "b" "Dates of former publication frequency",
    control "0" "Authority record control number or standard number",
    control "1" "Real World Object URI",
    described "2" "Source" ("MARC code that identifies the source of the term or code used to " ++
        "record former publication frequency information."),
    control "6" "Linkage",
    control "8" "Field link and sequence number"]

def tag337 : String × TagDefinition :=
  entry "337" "Media Type (R)" ("Media type reflects the general type of intermediation " ++
      "device required to view, play, run, etc., the content of a resource. Used as an " ++
      "alternative to or in addition to the coded expression of Media type in field 007/00 " ++
      "(Category of material). Field 337 information enables indication of more specific " ++
      "media types and media types from various lists.") [
    described "a" "Media type term" ("Term for the category of media used to convey the " ++
        "content of the resource."),
    described "b" "Media type code" ("Code for the category of media used to convey the " ++
        "content of the resource."),
    control "0" "Authority record control number or standard number",
    control "1" "Real World Object URI",
    described "2" "Source" ("MARC code that identifies the source of the term or code used to " ++
        "record the media type information."),
    described "3" "Materials specified" ("Part of the described materials to which the field " ++
        "applies."),
    control "6" "Linkage",
    control "8" "Field link and sequence number"]

def tag338 : String × TagDefinition :=
  entry "338" "Carrier Type (R)" ("Carrier type reflects the format of the storage medium and " ++
      "housing of a carrier in combination with the media type (which indicates the " ++
      "intermediation device required to view, play, run, etc., the content of a resource). " ++
      "Used as an alternative to or in addition to the coded expression of carrier type in " ++
      "field 007/01 (Specific material designation). Field 338 information enables indication " ++
      "of more specific carrier types and carrier types from various lists.") [
    described "a" "Carrier type term" ("Term for the category of carrier used to convey the " ++
        "content of the resource."),
    described "b" "Carrier type code" ("Code for the category of carrier used to convey the " ++
        "content of the resource."),
    control "0" "Authority record control number or standard number",
    control "1" "Real World Object URI",
    described "2" "Source" ("MARC code that identifies the source of the term or code used to " ++
        "record the carrier type information."),
    described "3" "Materials specified" ("Part of the described materials to which the field " ++
        "applies."),
    control "6" "Linkage",
    control "8" "Field link and sequence number"]

def tag340 : String × TagDefinition :=
  entry "340" "Physical Medium (R)" ("Coded physical information is contained in field 007 " ++
      "(Physical Description Fixed Field) and field 008 (Fixed-Length Data Elements).") [
    described "a" "Material base and configuration" ("Physical substance (e.g., acetate, " ++
        "canvas, clay, film, glass, vellum, or wood) and configuration (e.g., cartridge, " ++
        "chip, dot, fiche, globe, sheet, and audio-, magnetic-, micro-, ultra-, or videotape) " ++
        "on which the information is recorded."),
    described "b" "Dimensions" ("Measurements of the material configuration (e.g., 35 mm. " ++
        "(film), 12 inch (phonograph disc), 4\" x 6\" (microfiche))."),
    described "c" "Materials applied to surface" ("Physical substance applied to the material " ++
        "base (e.g., ink, oil, paint, specific photographic emulsions such as albumen)."),
    described "d" "Information recording technique" ("Means or technique by which information " ++
        "was recorded in or on the material base (e.g., punched, pressed, cut, molded, " ++
        "thermofax, x-ray)."),
    described "e" "Support" ("Physical material on or in which records are mounted, bound, or " ++
        "otherwise supported."),
    described "f" "Reduction ratio value" ("A specific indication of the size of a " ++
        "micro-image in relation to the original from which it was produced. Most commonly, " ++
        "it is expressed numerically as a reduction ratio (e.g., 16:1, 90:1) or as a " ++
        "magnification value (e.g., 16x, 90x)."),
    described "g" "Color content" ("Color characteristics of the content of a resource. " ++
        "Achromatic values (white, gray, and black) are considered to be colors."),
    described "h" "Location within medium" ("Location of the described materials within the " ++
        "material base and configuration (e.g., band, page, frame number)."),
    described "i" "Technical specifications of medium" ("Access requirements involving " ++
        "technical equipment."),
    described "j" "Generation" ("The relationship between an original carrier and the carrier " ++
        "of a reproduction made from the original (e.g., a first generation camera master, a " ++
        "second generation printing master)."),
    described "k" "Layout" "The arrangement of text, images, etc., in a resource.",
    described "l" "Binding" ("A method used to bind a published or unpublished resource, or " ++
        "other binding information. May be recorded using a controlled term or other " ++
        "structured description. Additional unstructured (or textual) information on binding " ++
        "may be recorded in field 563 (Binding Information)."),
    described "m" "Book format" ("The result of folding a printed sheet to form a gathering " ++
        "of leaves (e.g., a sheet folded once to form a folio, twice to form a quarto, three " ++
        "times to form an octavo)."),
    described "n" "Font size" ("The size of the type used to represent the characters and " ++
        "symbols in a resource. Font size may be expressed in general terms (e.g., large " ++
        "print), or by specifying in addition the dimensions of the type measured in points " ++
        "(e.g., 20 point)."),
    described "o" "Polarity" ("The relationship of the colors and tones in an image to the " ++
        "colors and tones of the object reproduced (e.g., positive, negative)."),
    described "p" "Illustrative content" ("General and/or specific indication of the type or " ++
        "types of illustrative content present in a resource."),
    described "q" "Reduction ratio designator" ("A general description of the size of a " ++
        "micro-image in relation to the original from which it was produced (e.g., low " ++
        "reduction, ultra high reduction). For such designations expressed in specific " ++
        "numerical terms, use subfield $f (Reduction ratio value)."),
    control "0" "Authority record control number or standard number",
    control "1" "Real World Object URI",
    described "2" "Source" ("Identification of the source of terms when they are from a " ++
        "controlled list."),
    described "3" "Materials specified" ("Part of the described materials to which the field " ++
        "applies."),
    control "6" "Linkage",
    control "8" "Field link and sequence number"]

def tag342 : String × TagDefinition :=
  entry "342" "Geospatial Reference Data (R)" ("7 - Method specified in $2 Geospatial " ++
      "reference method used in the data set is specified in subfield $2.") [
    named "a" "Name",
    named "b" "Coordinate units or distance units",
    named "c" "Latitude resolution",
    named "d" "Longitude resolution",
    named "e" "Standard parallel or oblique line latitude",
    named "f" "Oblique line longitude",
    named "g" "Longitude of central meridian or projection center",
    named "h" "Latitude of projection center or projection origin",
    named "i" "False easting",
    named "j" "False northing",
    named "k" "Scale factor",
    named "l" "Height of perspective point above surface",
    named "m" "Azimuthal angle",
    named "n" "Azimuth measure point longitude or straight vertical longitude from pole",
    named "o" "Landsat number and path number",
    named "p" "Zone identifier",
    named "q" "Ellipsoid name",
    named "r" "Semi-major axis",
    named "s" "Denominator of flattening ratio",
    named "t" "Vertical resolution",
    named "u" "Vertical encoding method",
    named "v" "Local planar, local, or other projection or grid description",
    named "w" "Local planar or local georeference information",
    named "2" "Reference method used",
    named "6" "Linkage",
    named "8" "Field link and sequence number"]

def tag343 : String × TagDefinition :=
  entry "343" "Planar Coordinate Data (R)" ("$6 - Linkage See description of this subfield in " ++
      "Appendix A: Control Subfields.") [
    named "a" "Planar coordinate encoding method",
    named "b" "Planar distance units",
    named "c" "Abscissa resolution",
    named "d" "Ordinate resolution",
    named "e" "Distance resolution",
    named "f" "Bearing resolution",
    named "g" "Bearing units",
    named "h" "Bearing reference direction",
    named "i" "Bearing reference meridian",
    named "6" "Linkage",
    named "8" "Field link and sequence number"]

def tag344 : String × TagDefinition :=
  entry "344" "Sound Characteristics (R)" ("Specifications relating to the encoding of sound " ++
      "or the absence of sound in a resource. Multiple values from the same source vocabulary " ++
      "may be recorded in the same field in separate occurrences of subfields. Terms from " ++
      "different source vocabularies are recorded in separate occurrences of the field.") [
    described "a" "Type of recording" ("The method used to encode audio content for playback " ++
        "(e.g., analog, digital)."),
    described "b" "Recording medium" ("The type of medium used to record sound on an audio " ++
        "carrier (e.g., magnetic, optical)."),
    described "c" "Playing speed" ("The speed at which an audio carrier must be operated to " ++
        "produce the sound intended."),
    described "d" "Groove characteristic" ("The groove width of an analog disc or the groove " ++
        "pitch of an analog cylinder."),
    described "e" "Track configuration" ("The configuration of the audio track on a " ++
        "sound-track film."),
    described "f" "Tape configuration" "The number of tracks on an audiotape.",
    described "g" "Configuration of playback channels" ("The number of sound channels used to " ++
        "make a recording (e.g., one channel for a monophonic recording, two channels for a " ++
        "stereophonic recording)."),
    described "h" "Special playback characteristics" ("An equalization system, noise " ++
        "reduction system, etc., used in making an audio recording."),
    described "i" "Sound content" ("Indication of the presence or absence of sound in a " ++
        "resource. Usually used for projected graphic resources, moving image resources, and " ++
        "their electronic equivalents."),
    named "j" "Original capture and storage technique",
    control "0" "Authority record control number or standard number",
    control "1" "Real World Object URI",
    described "2" "Source" ("Identification of the source of terms when they are from a " ++
        "controlled list."),
    described "3" "Materials specified" ("Part of the described materials to which the field " ++
        "applies."),
    control "6" "Linkage",
    control "8" "Field link and sequence number"]

def tag345 : String × TagDefinition :=
  entry "345" "Moving Image Characteristics (R)" ("Specifications relating to a moving image " ++
      "resource. Multiple values from the same source vocabulary may be recorded in the same " ++
      "field within separate subfield occurrences. Terms from different source vocabularies " ++
      "are recorded in separate occurrences of the field.") [
    described "a" "Presentation format" ("The format used in the production of a moving image " ++
        "(e.g., Cinerama, IMAX)."),
    described "b" "Projection speed" ("The speed at which a device must be operated to " ++
        "produce the moving image intended."),
    described "c" "Aspect ratio value" ("A numerical ratio of the width to the height of a " ++
        "moving image."),
    described "d" "Aspect ratio designator" ("A general description of the ratio of the width " ++
        "to the height of a moving image."),
    control "0" "Authority record control number or standard number",
    control "1" "Real World Object URI",
    described "2" "Source" ("Identification of the source of terms when they are from a " ++
        "controlled list."),
    described "3" "Materials specified" ("Part of the described materials to which the field " ++
        "applies."),
    control "6" "Linkage",
    control "8" "Field link and sequence number"]

def tag346 : String × TagDefinition :=
  entry "346" "Video Characteristics (R)" ("Technical specifications relating to the encoding " ++
      "of video images in a resource. Multiple values from the same source vocabulary may be " ++
      "recorded in the same field in separate occurrences of subfield $a (Video format) and " ++
      "subfield $b (Broadcast standard). Terms from different source vocabularies are " ++
      "recorded in separate occurrences of the field.") [
    described "a" "Video format" ("A standard, etc., used to encode the analog video content " ++
        "of a resource."),
    described "b" "Broadcast standard" ("A system used to format a video resource for " ++
        "television broadcast."),
    control "0" "Authority record control number or standard number",
    control "1" "Real World Object URI",
    described "2" "Source" ("Identification of the source of terms when they are from a " ++
        "controlled list."),
    described "3" "Materials specified" ("Part of the described materials to which the field " ++
        "applies."),
    control "6" "Linkage",
    control "8" "Field link and sequence number"]

def tag347 : String × TagDefinition :=
  entry "347" "Digital File Characteristics (R)" ("Technical specification relating to the " ++
      "digital encoding of text, image, audio, video, and other types of data in a resource. " ++
      "This information could also be recorded in field 300 (Physical Description) $b (Other " ++
      "physical details). Multiple values from the same source vocabulary may be recorded in " ++
      "the same field in separate occurrences of subfields. Terms from different source " ++
      "vocabularies are recorded in separate occurrences of the field.") [
    described "a" "File type" "A general type of data content encoded in a computer file.",
    described "b" "Encoding format" ("A schema, standard, etc., used to encode the digital " ++
        "content of a resource."),
    described "c" "File size" "The number of bytes in a digital file.",
    described "d" "Resolution" ("The clarity or fineness of detail in a digital image, " ++
        "expressed by the measurement of the image in pixels, etc."),
    described "e" "Regional encoding" ("A code identifying the region of the world for which " ++
        "a digital file has been encoded which may prevent the file from being played on a " ++
        "player from a different region."),
    described "f" "Encoded bitrate" ("The speed at which streaming audio, video, etc., is " ++
        "designed to play."),
    control "0" "Authority record control number or standard number",
    control "1" "Real World Object URI",
    described "2" "Source" ("Identification of the source of terms when they are from a " ++
        "controlled list."),
    described "3" "Materials specified" ("Part of the described materials to which the field " ++
        "applies."),
    control "6" "Linkage",
    control "8" "Field link and sequence number"]

def tag348 : String × TagDefinition :=
  entry "348" "Notated Music Characteristics (R)" ("Multiple formats from the same source " ++
      "vocabulary or code list may be recorded in the same field in separate occurrences of " ++
      "subfield $a (Format of notated music term), subfield $b (Format of notated music " ++
      "code), subfield $c (Form of musical notation term), and subfield $d (Form of musical " ++
      "notation code). Terms from different source vocabularies are recorded in separate " ++
      "occurrences of the field.") [
    described "a" "Format of notated music term" ("Term for the format of notated music in " ++
        "the resource."),
    described "b" "Format of notated music code" ("Code for the format of notated music in " ++
        "the resource."),
    described "c" "Form of musical notation term" ("Term for the form of musical notation in " ++
        "the resource."),
    described "d" "Form of musical notation code" ("Code for the form of musical notation in " ++
        "the resource."),
    control "0" "Authority record control number or standard number",
    control "1" "Real World Object URI",
    described "2" "Source of term" ("MARC code that identifies the source of the term or code " ++
        "used to record the format of notated music or the form of musical notation."),
    described "3" "Materials specified" ("Part of the described materials to which the field " ++
        "applies."),
    control "6" "Linkage",
    described "7" "Data provenance" ("See description of this subfield in Appendix J: Data " ++
        "Provenance Subfields."),
    control "8" "Field link and sequence number"]

def tag351 : String × TagDefinition :=
  entry "351" "Organization and Arrangement of Materials (R)" ("Individual unit titles may be " ++
      "entered in this subfield. When the organization is dependent on the software of a " ++
      "particular data base management system, the name of the software or the system is " ++
      "given.") [
    named "a" "Organization",
    named "b" "Arrangement",
    named "c" "Hierarchical level",
    named "3" "Materials specified",
    named "6" "Linkage",
    named "8" "Field link and sequence number"]

def tag352 : String × TagDefinition :=
  entry "352" "Digital Graphic Representation (R)" ("$6 - Linkage See description of this " ++
      "subfield in Appendix A: Control Subfields.") [
    named "a" "Direct reference method",
    named "b" "Object type",
    named "c" "Object count",
    named "d" "Row count",
    named "e" "Column count",
    named "f" "Vertical count",
    named "g" "VPF topology level",
    named "i" "Indirect reference description",
    named "q" "Format of the digital image",
    named "6" "Linkage",
    named "8" "Field link and sequence number"]

def tag355 : String × TagDefinition :=
  entry "355" "Security Classification Control (R)" ("Specifics pertaining to the security " ++
      "classification associated with the document, title, abstract, contents note, and/or " ++
      "the author. In addition, it can contain handling instructions and external " ++
      "dissemination information pertaining to the dissemination of the document, title, " ++
      "abstract, contents note, and author. The field may also contain downgrading or " ++
      "declassification data, the name of the classification system, and a country of origin " ++
      "code.") [
    named "a" "Security classification",
    named "b" "Handling instructions",
    named "c" "External dissemination information",
    named "d" "Downgrading or declassification event",
    named "e" "Classification system",
    named "f" "Country of origin code",
    named "g" "Downgrading date",
    named "h" "Declassification date",
    named "j" "Authorization",
    named "6" "Linkage",
    named "8" "Field link and sequence number"]

def tag357 : String × TagDefinition :=
  entry "357" "Originator Dissemination Control (NR)" ("Specifics pertaining to originator " ++
      "(i.e., author, producer) control of dissemination of the material in hand. Subfield $a " ++
      "contains a specific term denoting that the originator has control over the material.") [
    named "a" "Originator control term",
    named "b" "Originating agency",
    named "c" "Authorized recipients of material",
    named "g" "Other restrictions",
    named "6" "Linkage",
    named "8" "Field link and sequence number"]

def tag362 : String × TagDefinition :=
  entry "362" "Dates of Publication and/or Sequential Designation (R)" ("Dates in this field " ++
      "may be identical to the information in fields 008/07-10 (Date 1) and/or 008/11-14 " ++
      "(Date 2). Incomplete, approximate, or questionable dates are not recorded in this " ++
      "field.") [
    named "a" "Dates of publication and/or sequential designation",
    named "z" "Source of information",
    named "6" "Linkage",
    named "8" "Field link and sequence number"]

def tag365 : String × TagDefinition :=
  entry "365" "Trade Price (R)" ("$a - Price type code Type of price recorded in subfield $b. " ++
      "The source of the code is recorded in subfield $2.") [
    named "a" "Price type code",
    named "b" "Price amount",
    named "c" "Currency code",
    named "d" "Unit of pricing",
    named "e" "Price note",
    named "f" "Price effective from",
    named "g" "Price effective until",
    named "h" "Tax rate 1",
    named "i" "Tax rate 2",
    named "j" "ISO country code",
    named "k" "MARC country code",
    named "m" "Identification of pricing entity",
    named "2" "Source of price type code",
    named "6" "Linkage",
    named "8" "Field link and sequence number"]

def tag366 : String × TagDefinition :=
  entry "366" "Trade Availability Information (R)" ("$c - Availability status code Two-digit " ++
      "status code followed after a space by the date of the status report. The date is " ++
      "recorded in the format yyyymmdd in accordance with ISO 8601, Representation of Dates " ++
      "and Times. The source of the availability code is recorded in subfield $2. 366 " ++
      "##$b19960517$cNP 19951205$2onixas[Not yet published as of 5th December 1995; due 17th " ++
      "May 1996]") [
    named "a" "Publishers' compressed title identification",
    named "b" "Detailed date of publication",
    named "c" "Availability status code",
    named "d" "Expected next availability date",
    named "e" "Note",
    named "f" "Publisher's discount category",
    named "g" "Date made out of print",
    named "j" "ISO country code",
    named "k" "MARC country code",
    named "m" "Identification of agency",
    named "2" "Source of availability status code",
    named "6" "Linkage",
    named "8" "Field link and sequence number"]

def tag370 : String × TagDefinition :=
  entry "370" "Associated Place (R)" ("A place associated with works and expressions, " ++
      "including place of origin. Field 370 should be repeated when start and end periods in " ++
      "subfields $s and $t pertain to a different associated place. If place data is from a " ++
      "controlled vocabulary, the vocabulary is indicated in subfield $2 (Source of term).") [
    described "c" "Associated country" ("A country with which the work is identified. Dates " ++
        "that pertain to the country are recorded in subfields $s (Start period) and $t (End " ++
        "period)."),
    described "f" "Other associated place" ("Other or additional town, city, province, state, " ++
        "and/or country associated with works, and expressions. Dates associated with other " ++
        "place are recorded in subfields $s (Start period) and $t (End period)."),
    described "g" "Place of origin of work or expression" ("The place(s) from which a work or " ++
        "expression originated. Dates associated with place of origin of work or expression " ++
        "are recorded in subfields $s (Start period) and $t (End period)."),
    described "i" "Relationship information" ("Designation of a relationship between the " ++
        "associated place recorded in the 370 field and the resource described in the 1XX/245 " ++
        "of the record. This may be an uncontrolled textual phrase or a controlled textual " ++
        "value from a list of relationships between bibliographic resources."),
    described "s" "Start period" ("The starting date of association with a particular place " ++
        "by a work, or expression."),
    described "t" "End period" ("The end date of association with a particular place by a " ++
        "work, or expression."),
    described "u" "Uniform Resource Identifier" ("Uniform Resource Identifier (URI), for " ++
        "example a URL or URN, which provides electronic access data in a standard syntax. " ++
        "This data can be used for automated access to an electronic item using one of the " ++
        "Internet protocols."),
    described "v" "Source of information" ("Source where the information recorded in field " ++
        "370 was found if not through a URI."),
    control "0" "Authority record control number or standard number",
    control "1" "Real World Object URI",
    described "2" "Source of term" ("Specifies the source of the controlled vocabulary term " ++
        "for the place in subfields $c, $f, and/or $g. Subfield $2 follows the subfields to " ++
        "which it applies. Code from: Subject Heading and Term Source Codes."),
    described "3" "Materials specified" ("Part of the described materials to which the field " ++
        "applies."),
    described "4" "Relationship" ("Code or URI that specifies the relationship from the " ++
        "entity described in the record to the entity referenced in the field."),
    control "6" "Linkage",
    described "7" "Data provenance" ("See description of this subfield in Appendix J: Data " ++
        "Provenance Subfields."),
    control "8" "Field link and sequence number"]

def tag377 : String × TagDefinition :=
  entry "377" "Associated Language (R)" ("Guidelines for using field 377 in relation to field " ++
      "008/35-37, 041 and 546 in those cases where the Bibliographic format is used to " ++
      "represent a work or expression with no manifestation information:") [
    described "a" "Language code" ("A language code identifying the language that a person, " ++
        "organization, or family uses for publication, communication, etc., or in which a " ++
        "work is expressed."),
    described "l" "Language term" ("Language that a person, organization, or family uses for " ++
        "publication, communication, etc., or in which a work is expressed."),
    control "0" "Authority record control number or standard number",
    control "1" "Real World Object URI",
    described "2" "Source" ("Specifies a code that identifies the source of the language code " ++
        "in subfield $a."),
    described "3" "Materials specified" ("Part of the described materials to which the field " ++
        "applies."),
    control "6" "Linkage",
    described "7" "Data provenance" ("See description of this subfield in Appendix J: Data " ++
        "Provenance Subfields."),
    control "8" "Field link and sequence number"]

def tag380 : String × TagDefinition :=
  entry "380" "Form of Work (R)" ("A class or genre to which a work belongs. May be used to " ++
      "differentiate a work from another work with the same title. Multiple forms of work " ++
      "from the same source vocabulary may be recorded in the same field in separate " ++
      "occurrences of subfield $a (Form of work). Terms from different source vocabularies " ++
      "are recorded in separate occurrences of the field.") [
    described "a" "Form of work" "A term expressing the class or genre of the work.",
    control "0" "Authority record control number or standard number",
    control "1" "Real World Object URI",
    described "2" "Source of term" ("MARC code that identifies the source of the term in " ++
        "subfield $a when it is from a controlled list."),
    described "3" "Materials specified" ("Part of the described materials to which the field " ++
        "applies."),
    control "6" "Linkage",
    described "7" "Data provenance" ("See description of this subfield in Appendix J: Data " ++
        "Provenance Subfields."),
    control "8" "Field link and sequence number"]

def tag382 : String × TagDefinition :=
  entry "382" "Medium of Performance (R)" ("Second Indicator - Access control # - No " ++
      "information provided 0 - Not intended for access The field will not be indexed. 1 - " ++
      "Intended for access The field will be indexed.") [
    described "a" "Medium of performance" ("A term that indicates the instrumental, vocal, " ++
        "and/or other medium of performance."),
    described "b" "Soloist" ("Medium of performance term for a soloist (a featured instrument " ++
        "or voice accompanied by an ensemble)."),
    described "d" "Doubling instrument" ("Term for the medium of performance an individual " ++
        "performer plays in addition to the primary medium of performance in preceding " ++
        "subfield $a, $b, or $p. Multiple doubling instruments may be recorded in separate " ++
        "occurrences of subfield $d."),
    described "e" "Number of ensembles of the same type" ("Number of ensembles named in the " ++
        "preceding subfield. Use after $a (Medium of performance) or $p (Alternative medium " ++
        "of performance)."),
    described "n" "Number of performers of the same medium" ("Number of performers of the " ++
        "medium named in the preceding subfield. Use after subfield $a (Medium of " ++
        "performance), $b (Soloist), $d (Doubling instrument), or $p (Alternative medium of " ++
        "performance)."),
    described "p" "Alternative medium of performance" ("Term for an alternative medium of " ++
        "performance, given as an alternative to its primary medium of performance in " ++
        "preceding subfield $a, $b, or $d. Multiple alternate instruments may be recorded in " ++
        "separate occurrences of subfield $p."),
    described "r" "Total number of individuals performing alongside ensembles"
      ("The total number of individual performers given in all instances of subfield $a and " ++
        "subfield $b needed to perform in the musical work/expression alongside one or more " ++
        "ensembles. Use subfield $s to record total number of individual performers when no " ++
        "ensembles are involved."),
    described "s" "Total number of performers" ("Total number of performers needed to perform " ++
        "in the musical work/expression."),
    described "t" "Total number of ensembles" ("The total number of ensembles needed to " ++
        "perform in the musical work/expression."),
    described "v" "Note" ("Note for information that is not kept otherwise in the subfields " ++
        "of the field. May contain a description of the relationship between an alternative " ++
        "medium of performance and its primary medium of performance, or other textual " ++
        "information."),
    control "0" "Authority record control number or standard number",
    control "1" "Real World Object URI",
    described "2" "Source of term" ("MARC code that identifies the source of the term in " ++
        "subfield $a, $b, $d, and/or $p when it is from a controlled list."),
    described "3" "Materials specified" ("Part of the described material to which the field " ++
        "applies."),
    control "6" "Linkage",
    described "7" "Data provenance" ("See description of this subfield in Appendix J: Data " ++
        "Provenance Subfields."),
    control "8" "Field link and sequence number"]

def tag383 : String × TagDefinition :=
  entry "383" "Numeric Designation of Musical Work or Expression (R)" ("First Indicator - " ++
      "Type of entity The type of entity associated with the numeric designation(s) recorded " ++
      "in this field. # - No information provided 0 - Work Numeric designation associated " ++
      "with the work. 383 0#$ano. 17$bop. 31, no. 2[Serial number and opus number identifying " ++
      "a work by Beethoven.] 1 - Expression Numeric designation associated with the " ++
      "expression. 383 1#$cS. 375$dSearle$2mlati[Thematic index number assigned to Franz " ++
      "Lisztâ\x80\x99s arrangement of songs composed by Schubert.]") [
    described "a" "Serial number" ("A number used if works or expressions with the same " ++
        "title, or with the same title and the same representative medium of performance, are " ++
        "consecutively numbered by the composer or arranger, or are consecutively numbered in " ++
        "reference sources."),
    described "b" "Opus number" ("An identifying number of a musical composition sometimes " ++
        "followed by a number within the opus."),
    described "c" "Thematic index number" ("A number assigned to a work or expression in a " ++
        "recognized thematic index."),
    described "d" "Thematic index code" ("Code identifying thematic index represented by the " ++
        "number recorded in subfield $c."),
    described "e" "Publisher associated with opus number" ("Brief identification of publisher " ++
        "associated with number recorded in $b. Used only where different publishers assigned " ++
        "different opus numbers to the same work or expression, or when different publishers " ++
        "assign the same opus number to different works or expressions."),
    described "2" "Source" "Specifies the source of the code cited in subfield $d.",
    described "3" "Materials specified" ("Part of the described materials to which the field " ++
        "applies."),
    control "6" "Linkage",
    described "7" "Data provenance" ("See description of this subfield in Appendix J: Data " ++
        "Provenance Subfields."),
    control "8" "Field link and sequence number"]

def tag384 : String × TagDefinition :=
  entry "384" "Key (R)" ("$0 - Authority record control number or standard number See " ++
      "description of this subfield in Appendix A: Control Subfields.") [
    described "a" "Key" "The pitch name and the mode (e.g., major or minor).",
    control "0" "Authority record control number or standard number",
    control "1" "Real World Object URI",
    described "3" "Materials specified" ("Part of the described materials to which the field " ++
        "applies."),
    control "6" "Linkage",
    described "7" "Data provenance" ("See description of this subfield in Appendix J: Data " ++
        "Provenance Subfields."),
    control "8" "Field link and sequence number"]

def tag385 : String × TagDefinition :=
  entry "385" "Audience Characteristics (R)" ("If a demographic group is not specified then " ++
      "multiple audience characteristics from the same source vocabulary or code list may be " ++
      "recorded in the same field in separate occurrences of subfield $a and subfield $b. If " ++
      "a demographic group is specified then the characteristics in the field must all come " ++
      "from the same group. Terms from different source vocabularies are recorded in separate " ++
      "occurrences of the field.") [
    described "a" "Audience term" ("Intended audience of the work being described. Repeatable " ++
        "if an audience falls into multiple demographic groups."),
    described "b" "Audience code" ("Code representing intended audience of the work being " ++
        "described."),
    described "m" "Demographic group term" ("A designator for a demographic group (e.g., an " ++
        "age group; a religious group) to which the terms and codes in $a or $b belong."),
    described "n" "Demographic group code" ("A code designating the demographic group (e.g., " ++
        "an age group; a religious group) to which the terms and codes in $a or $b belong."),
    control "0" "Authority record control number or standard number",
    control "1" "Real World Object URI",
    described "2" "Source" ("MARC code that identifies the source of the term or code used to " ++
        "record intended audience information in subfields $a or $b."),
    described "3" "Materials specified" ("Part of the described materials to which the field " ++
        "applies."),
    control "6" "Linkage",
    described "7" "Data provenance" ("See description of this subfield in Appendix J: Data " ++
        "Provenance Subfields."),
    control "8" "Field link and sequence number"]

def tag386 : String × TagDefinition :=
  entry "386" "Creator/Contributor Characteristics (R)" ("If a demographic group is not " ++
      "specified then multiple creator/contributor group categories from the same source " ++
      "vocabulary or code list may be recorded in the same field in separate occurrences of " ++
      "subfield $a and subfield $b. If a demographic group is specified then the categories " ++
      "in the field must all come from the same group. Terms from different source " ++
      "vocabularies are recorded in separate occurrences of the field.") [
    described "a" "Creator/contributor term" ("Creator/contributor group category of the work " ++
        "being described. Repeatable if a creator/contributor falls into multiple demographic " ++
        "groups."),
    described "b" "Creator/contributor code" ("Code representing creator/contributor group " ++
        "category of the work being described."),
    described "i" "Relationship information" ("Designation of a relationship between one or " ++
        "more members of the demographic group recorded in the 386 field and the resource " ++
        "described in the 1XX/245 of the record. This may be an uncontrolled textual phrase " ++
        "or a controlled textual value from a list of relationships between bibliographic " ++
        "resources."),
    described "m" "Demographic group term" ("A code designating the demographic group (e.g., " ++
        "an age group; a religious group) to which the terms and codes in $a or $b belong."),
    described "n" "Demographic group code" ("MARC code that specifies the demographic group " ++
        "category (e.g., an age group; a religious group) into which a particular term ($a) " ++
        "or code ($b) for creator/contributor group category falls."),
    control "0" "Authority record control number or standard number",
    control "1" "Real World Object URI",
    described "2" "Source" ("MARC code that identifies the source of the term or code used to " ++
        "record the creator/contributor information in subfields $a or $b."),
    described "3" "Materials specified" ("Part of the described materials to which the field " ++
        "applies."),
    described "4" "Relationship" ("Code or URI that specifies the relationship from the " ++
        "entity described in the record to the entity referenced in the field."),
    control "6" "Linkage",
    described "7" "Data provenance" ("See description of this subfield in Appendix J: Data " ++
        "Provenance Subfields."),
    control "8" "Field link and sequence number"]

def tag388 : String × TagDefinition :=
  entry "388" "Time Period of Creation (R)" ("$0 - Authority record control number or " ++
      "standard number See description of this subfield in Appendix A: Control Subfields.") [
    described "a" "Time period of creation term" ("A term that indicates the time period of " ++
        "creation or orgin of the work/expression (including aggregate works), or of the " ++
        "works or expressions contained in an aggregation."),
    control "0" "Authority record control number or standard number",
    control "1" "Real World Object URI",
    described "2" "Source of term" ("Specifies a code that identifies the source of a " ++
        "controlled vocabulary used in $a."),
    described "3" "Materials specified" ("Part of the described materials to which the field " ++
        "applies."),
    control "6" "Linkage",
    described "7" "Data provenance" ("See description of this subfield in Appendix J: Data " ++
        "Provenance Subfields."),
    control "8" "Field link and sequence number"]

/-- Physical description (tags 300 to 388). -/
def physicalDescription : Table TagDefinition :=
  [tag300, tag306, tag307, tag310, tag321, tag337, tag338, tag340, tag342, tag343, tag344,
   tag345, tag346, tag347, tag348, tag351, tag352, tag355, tag357, tag362, tag365, tag366,
   tag370, tag377, tag380, tag382, tag383, tag384, tag385, tag386, tag388]

end MarcLens.Shipped

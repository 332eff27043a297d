import MarcLens.Catalogue.Shipped.SeriesEntries

/-!
# Shipped documentation: holdings (tags 852 to 878)
-/

namespace MarcLens.Shipped

def tag852 : String × TagDefinition :=
  entry "852" "Location (R)" ("Several subfields duplicate those in the 863-865 Enumeration " ++
      "and Chronology fields. They are used in field 852 when there is no 863-868 field in " ++
      "the holdings information, for example, for holdings for single-part items or for " ++
      "multipart and serial items reported at Holdings level 1 or 2 (Leader/17, Encoding " ++
      "level, code 1 or 2).") [
    described "a" "Location" ("Institution or person holding the item or from which access is " ++
        "given. Contains a MARC code of the holding institution or the name of the " ++
        "institution or person. See MARC Code List for Organizations."),
    described "b" "Sublocation or collection" ("Specific department, library, etc., within " ++
        "the holding organization in which the item is located or from which it is available."),
    described "c" "Shelving location" ("Description of the shelving location of the item " ++
        "within the collection of the holding organization. It may be used to indicate the " ++
        "physical location within a sublocation; for example, reference alcove, oversize " ++
        "shelving."),
    described "d" "Former shelving location" ("Call numbers/shelf numbers where a resource " ++
        "was previously located, in cases of a relocation or a reordering/reorganization of a " ++
        "collection as a whole."),
    described "e" "Address" ("Street address, city, state, zip code, and country information " ++
        "for the current physical location of the item."),
    described "f" "Coded location qualifier" ("Three-character code that identifies the " ++
        "specific issues of the item that are located apart from the main holdings of the " ++
        "same item. Subfield $f immediately follows the subfield $a, $b, or $c being " ++
        "qualified."),
    described "g" "Non-coded location qualifier" ("Textual description that identifies the " ++
        "specific units of an item that are housed in a location different from that of the " ++
        "main holdings of the same item when the location qualifier cannot be expressed in " ++
        "coded form in subfield $f (Coded location qualifier)."),
    described "u" "Uniform Resource Identifier" ("Uniform Resource Identifier (URI), for " ++
        "example a URL or URN, which provides electronic access data in a standard syntax. " ++
        "The URI links to the repository that holds the item (regardless of whether the item " ++
        "is analog or digital)."),
    described "h" "Classification part" ("Classification portion of the call number used as " ++
        "the shelving scheme for an item. A Cutter, date, or term that is added to the " ++
        "classification to distinguish one item from any other item assigned the same " ++
        "classification is contained in subfield $i (Item part)."),
    described "i" "Item part" ("Cutter, date, or term that is added to the classification " ++
        "contained in subfield $h (Classification part) to distinguish one item from any " ++
        "other item assigned the same classification. A call number suffix is contained in " ++
        "subfield $m (Call number suffix)."),
    described "j" "Shelving control number" ("Shelving control number that is used as the " ++
        "shelving scheme for an item. The first indicator position contains value 4 (Shelving " ++
        "control number)."),
    described "k" "Call number prefix" ("Term that precedes a call number. Subfield $k is " ++
        "input before subfield $h (Classification part) or $i (Item part)."),
    described "l" "Shelving form of title" ("Shelving title of an unclassified item that is " ++
        "shelved by title. The first indicator position contains value 5 (Title)."),
    described "m" "Call number suffix" ("Term that follows a call number. Subfield $m is " ++
        "input after subfield $h (Classification part) or $i (Item part)."),
    described "n" "Country code" ("Two- or three-character MARC country code for the " ++
        "principal location identified in subfield $a (Location). Code from: MARC Code List " ++
        "for Countries."),
    described "s" "Copyright article-fee code" ("Description of the copyright article-fee " ++
        "code is given in field 018 (Copyright Article-Fee Code) of the MARC 21 Format for " ++
        "Bibliographic Data ."),
    described "t" "Copy number" ("Copy number or a range of numbers for copies that have the " ++
        "same location and call number when the holdings information does not contain an " ++
        "863-865 Enumeration and Chronology field that contains subfield $t (Copy number)."),
    described "p" "Piece designation" ("Identification of a single piece when the holdings " ++
        "information does not contain a field 863-865 (Enumeration and Chronology) or 876-878 " ++
        "(Item Information) that contains a subfield $p (Piece designation)."),
    described "q" "Piece physical condition" ("Description of any unusual characteristic of " ++
        "the physical condition of the piece when the information does not contain a field " ++
        "863-865 (Enumeration and Chronology) or 876-878 (Item Information) that contains a " ++
        "subfield $q (Piece physical condition)."),
    described "x" "Nonpublic note" ("Note relating to the location of the item identified in " ++
        "the field. The note is not written in a form that is adequate for public display. A " ++
        "note for public display is contained in subfield $z (Public note)."),
    described "z" "Public note" ("Note relating to the location of the item identified in the " ++
        "field. The note is written in a form that is adequate for public display. A note not " ++
        "for public display is contained in subfield $x (Nonpublic note)."),
    described "2" "Source of classification or shelving scheme" ("MARC code that identifies " ++
        "the source from which the classification or shelving was assigned. It is used only " ++
        "when the first indicator position contains value 7 (Source specified in subfield " ++
        "$2). Code from: Classification Scheme Source Codes."),
    described "3" "Materials specified" ("Part of the bibliographic item to which the field " ++
        "applies. Subfield $3 is the first subfield in the field."),
    control "6" "Linkage",
    described "8" "Sequence number" ("Data that sequences related holdings records. The " ++
        "sequence number is a variable- length whole number which controls the display and " ++
        "processing sequencing of multiple related holdings records that contain identical " ++
        "852 $a, $b and $t.")]

def tag853 : String × TagDefinition :=
  entry "853" "Captions and Pattern-Basic Bibliographic Unit (R)" ("Caption that is " ++
      "appropriate for each level of enumeration and chronology that is present in a related " ++
      "863 Enumeration and Chronology Basic Bibliographic Unit field and codes that define " ++
      "the publication pattern of the item. A display may be generated from the contents of " ++
      "field 853 and the related 863 field(s) to which it is linked by subfield $8 (Field " ++
      "link and sequence number).") []

def tag855 : String × TagDefinition :=
  entry "855" "Captions and Pattern-Indexes (R)" ("Caption that is appropriate for each level " ++
      "of enumeration and chronology that is present in a related 865 Enumeration and " ++
      "Chronology Indexes field and codes that define the publication pattern for the item. A " ++
      "display may be generated from the contents of field 855 and the related 865 field(s) " ++
      "to which it is linked by subfield $8 (Field link and sequence number).") []

def tag863 : String × TagDefinition :=
  entry "863" "Enumeration and Chronology-Basic Bibliographic Unit (R)" ("Enumeration and " ++
      "chronology of a basic bibliographic unit in the holdings of the reporting " ++
      "organization. A display may be generated from the contents of field 863 and the " ++
      "related field 853 (Captions and Pattern--Basic Bibliographic Unit) to which it is " ++
      "linked by subfield $8 (Field link and sequence number).") []

def tag864 : String × TagDefinition :=
  entry "864" "Enumeration and Chronology-Supplementary Material (R)" ("Enumeration and " ++
      "chronology of supplementary material that are not separately cataloged in the holdings " ++
      "of the reporting organization. A display may be generated from the contents of field " ++
      "864 and the related field 854 (Captions and Pattern--Supplementary Material) to which " ++
      "it is linked by subfield $8 (Field link and sequence number).") []

def tag865 : String × TagDefinition :=
  entry "865" "Enumeration and Chronology-Indexes (R)" ("Enumeration and chronology of " ++
      "indexes that are not separately cataloged in the holdings of the reporting " ++
      "organization. A display may be generated from the contents of field 865 and the " ++
      "related field 855 (Captions and Pattern--Indexes) to which it is linked by subfield $8 " ++
      "(Field link and sequence number).") []

def tag866 : String × TagDefinition :=
  entry "866" "Textual Holdings-Basic Bibliographic Unit (R)" ("Textual description of the " ++
      "holdings of a basic bibliographic unit in the collections of the reporting " ++
      "organization. It may be used instead of or in addition to field 863 (Enumeration and " ++
      "Chronology Basic Bibliographic Unit) and any related field 853 (Captions and " ++
      "Pattern--Basic Bibliographic Unit) to record and/or display all or part of the " ++
      "holdings.") []

def tag867 : String × TagDefinition :=
  entry "867" "Textual Holdings-Supplementary Material (R)" ("Textual description of the " ++
      "holdings of supplementary material in the collections of the reporting organization. " ++
      "It may be used instead of or in addition to field 864 (Enumeration and " ++
      "Chronology--Supplementary Material) and any related field 854 (Captions and " ++
      "Pattern--Supplementary Material) to record and/or display all or part of the holdings.") []

def tag868 : String × TagDefinition :=
  entry "868" "Textual Holdings-Indexes (R)" ("Textual description of the holdings of indexes " ++
      "in the collections of the reporting organization. It may be used instead of or in " ++
      "addition to field 865 (Enumeration and Chronology--Indexes) and any related 855 " ++
      "(Captions and Pattern--Indexes) to record and/or display all or part of the holdings.") []

def tag876 : String × TagDefinition :=
  entry "876" "Item Information-Basic Bibliographic Unit (R)" ("Item information about a " ++
      "basic bibliographic unit in the holdings of the reporting organization. A display may " ++
      "be generated from the contents of field 876 and its related 852 (Location), 853/863 " ++
      "(Captions and Pattern/Enumeration and Chronology), or 866 (Textual Holdings) field to " ++
      "which it is linked by subfield $8 (Field link and sequence number) or related by " ++
      "subfield $3 (Materials specified).") []

def tag877 : String × TagDefinition :=
  entry "877" "Item Information-Supplementary Material (R)" ("Item information about " ++
      "supplementary material that is not separately cataloged in the holdings of the " ++
      "reporting organization. A display may be generated from the contents of field 877 and " ++
      "its related 852 (Location), 854/864 (Captions and Pattern/Enumeration and Chronology), " ++
      "or 867 (Textual Holdings) field to which it is linked by subfield $8 (Field link and " ++
      "sequence number) or related by subfield $3 (Materials specified).") []

def tag878 : String × TagDefinition :=
  entry "878" "Item Information-Indexes (R)" ("Item information about indexes that are not " ++
      "separately cataloged in the holdings of the reporting organization. A display may be " ++
      "generated from the contents of field 878 and its related 852 (Location), 855/865 " ++
      "(Captions and Pattern/Enumeration and Chronology), or 868 (Textual Holdings) field to " ++
      "which it is linked by subfield $8 (Field link and sequence number) or related by " ++
      "subfield $3 (Materials specified).") []

/-- Holdings (tags 852 to 878). -/
def holdings : Table TagDefinition :=
  [tag852, tag853, tag855, tag857, tag863, tag864, tag865, tag866, tag867, tag868, tag876,
   tag877, tag878]

end MarcLens.Shipped

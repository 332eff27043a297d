import MarcLens.Catalogue.Shipped.Entry

/-!
# Shipped documentation: subject access (tags 600 to 688)
-/

namespace MarcLens.Shipped

def tag600 : String × TagDefinition :=
  entry "600" "Subject Added Entry-Personal Name (R)" ("Subject added entry in which the " ++
      "entry element is a personal name. Subject added entries are assigned to a " ++
      "bibliographic record to provide access according to established subject cataloging " ++
      "principles and guidelines. Field 600 may be used by any institution assigning subject " ++
      "headings based on the lists and authority files identified in the second indicator " ++
      "position or in subfield $2 (Source of heading or term).") [
    named "a" "Personal name",
    named "b" "Numeration",
    named "c" "Titles and other words associated with a name",
    named "d" "Dates associated with a name",
    named "e" "Relator term",
    named "f" "Date of a work",
    named "g" "Miscellaneous information",
    named "h" "Medium",
    named "j" "Attribution qualifier",
    named "k" "Form subheading",
    named "l" "Language of a work",
    named "m" "Medium of performance for music",
    named "n" "Number of part/section of a work",
    named "o" "Arranged statement for music",
    named "p" "Name of part/section of a work",
    named "q" "Fuller form of name",
    named "r" "Key for music",
    named "s" "Version",
    named "t" "Title of a work",
    named "u" "Affiliation",
    named "v" "Form subdivision",
    named "x" "General subdivision",
    named "y" "Chronological subdivision",
    named "z" "Geographic subdivision",
    named "0" "Authority record control number or standard number",
    named "1" "Real World Object URI",
    named "2" "Source of heading or term",
    named "3" "Materials specified",
    named "4" "Relationship",
    named "6" "Linkage",
    named "7" "Data provenance",
    named "8" "Field link and sequence number"]

def tag611 : String × TagDefinition :=
  entry "611" "Subject Added Entry-Meeting Name (R)" ("Subject added entries are assigned to " ++
      "a bibliographic record to provide access according to established subject cataloging " ++
      "principles and guidelines. Field 611 may be used by any institution assigning subject " ++
      "headings based on the lists and authority files identified in the second indicator " ++
      "position or in subfield $2 (Source of heading or term). Subject added entries for " ++
      "meeting or conference names that are entered subordinately to a corporate body are " ++
      "recorded in field 610.") [
    named "a" "Meeting name or jurisdiction name as entry element",
    named "c" "Location of meeting",
    named "d" "Date of meeting or treaty signing",
    named "e" "Subordinate unit",
    named "f" "Date of a work",
    named "g" "Miscellaneous information",
    named "h" "Medium",
    named "j" "Relator term",
    named "k" "Form subheading",
    named "l" "Language of a work",
    named "n" "Number of part/section/meeting",
    named "p" "Name of part/section of a work",
    named "q" "Name of meeting following jurisdiction name entry element",
    named "s" "Version",
    named "t" "Title of a work",
    named "u" "Affiliation",
    named "v" "Form subdivision",
    named "x" "General subdivision",
    named "y" "Chronological subdivision",
    named "z" "Geographic subdivision",
    named "0" "Authority record control number or standard number",
    named "1" "Real World Object URI",
    named "2" "Source of heading or term",
    named "3" "Materials specified",
    named "4" "Relationship",
    named "6" "Linkage",
    named "7" "Data provenance",
    named "8" "Field link and sequence number"]

def tag630 : String × TagDefinition :=
  entry "630" "Subject Added Entry-Uniform Title (R)" ("Subject added entries are assigned to " ++
      "a bibliographic record to provide access according to established subject cataloging " ++
      "principles and guidelines. Field 630 may be used by any institution assigning subject " ++
      "headings based on the lists and authority files identified in the second indicator " ++
      "position or in subfield $2 (Source of heading or term). Title used in phrase subject " ++
      "headings (e.g., Bible and atheism) is contained in field 650 (Subject Added " ++
      "Entry-Topical Term).") [
    named "a" "Uniform title",
    named "d" "Date of treaty signing",
    named "e" "Relator term",
    named "f" "Date of a work",
    named "g" "Miscellaneous information",
    named "h" "Medium",
    named "k" "Form subheading",
    named "l" "Language of a work",
    named "m" "Medium of performance for music",
    named "n" "Number of part/section of a work",
    named "o" "Arranged statement for music",
    named "p" "Name of part/section of a work",
    named "r" "Key for music",
    named "s" "Version",
    named "t" "Title of a work",
    named "v" "Form subdivision",
    named "x" "General subdivision",
    named "y" "Chronological subdivision",
    named "z" "Geographic subdivision",
    named "0" "Authority record control number or standard number",
    named "1" "Real World Object URI",
    named "2" "Source of heading or term",
    named "3" "Materials specified",
    named "4" "Relationship",
    named "6" "Linkage",
    named "7" "Data provenance",
    named "8" "Field link and sequence number"]

def tag647 : String × TagDefinition :=
  entry "647" "Subject Added Entry-Named Event (R)" ("Subject added entries are assigned to a " ++
      "bibliographic record to provide access according to generally accepted " ++
      "thesaurus-building rules (e.g., Faceted Application of Subject Terminology (FAST)). " ++
      "Field 647 may be used by any institution assigning subject headings based on the lists " ++
      "and authority files identified in the second indicator position or in subfield $2 " ++
      "(Source of heading or term).") [
    described "a" "Named event" ("Name of an event which cannot be regarded as a responsible " ++
        "agent."),
    described "c" "Location of named event" ("Place name or a name of an institution where a " ++
        "named event occurred. Multiple adjacent locations are contained in a repeatable " ++
        "subfield $c."),
    described "d" "Date of named event" "Date or time period related to a named event.",
    described "e" "Relator term" ("Specifies the relationship between the named event and the " ++
        "described materials, e.g., depicted or setting."),
    described "g" "Miscellaneous information" ("Data element that is not more appropriately " ++
        "contained in another defined subfield."),
    described "4" "Relationship" ("Code or URI that specifies the relationship from the " ++
        "entity described in the record to the entity referenced in the field. A source of " ++
        "relationship codes is: MARC Code List for Relators."),
    described "v" "Form subdivision" ("Form subdivision that designates a specific kind or " ++
        "genre of material as defined by the thesaurus being used. Subfield $v is appropriate " ++
        "only when a form subject subdivision is added to a main term."),
    described "x" "General subdivision" ("Subject subdivision that is not more appropriately " ++
        "contained in subfields $v (Form subdivision), $y (Chronological subdivision), or $z " ++
        "(Geographic subdivision). Subfield $x is appropriate only when a general topical " ++
        "subdivision is added to a main term."),
    described "y" "Chronological subdivision" ("Subject subdivision that represents a period " ++
        "of time. Subfield $y is appropriate only when a chronological subject subdivision is " ++
        "added to a main term."),
    described "z" "Geographic subdivision" ("Geographic subject subdivision. Subfield $z is " ++
        "appropriate in field 647 only when a geographic subject subdivision is added to a " ++
        "main term."),
    control "0" "Authority record control number or standard number",
    control "1" "Real World Object URI",
    described "2" "Source of heading or term" ("MARC code that identifies the source list " ++
        "from which the subject added entry was assigned. It is used only when the second " ++
        "indicator position contains value 7 (Source specified in subfield $2). Code from: " ++
        "Subject Heading and Term Source Codes."),
    described "3" "Materials specified" ("Part of the described materials to which the field " ++
        "applies."),
    control "6" "Linkage",
    control "8" "Field link and sequence number"]

def tag648 : String × TagDefinition :=
  entry "648" "Subject Added Entry-Chronological Term (R)" ("Subject added entries are " ++
      "assigned to a bibliographic record to provide access according to generally accepted " ++
      "thesaurus-building rules (e.g., Library of Congress Subject Headings (LCSH), Medical " ++
      "Subject Headings (MeSH), Faceted Application of Subject Terminology (FAST)). Field 648 " ++
      "may be used by any institution assigning subject headings based on the lists and " ++
      "authority files identified in the second indicator position or in subfield $2 (Source " ++
      "of heading or term).") [
    named "a" "Chronological term",
    described "e" "Relator term" ("Specifies the relationship between the chronological term " ++
        "and the described materials, e.g., depicted or setting."),
    described "4" "Relationship" ("Code or URI that specifies the relationship from the " ++
        "entity described in the record to the entity referenced in the field. A source of " ++
        "relationship codes is: MARC Code List for Relators."),
    described "v" "Form subdivision" ("Form subdivision that designates a specific kind or " ++
        "genre of material as defined by the thesaurus being used. Subfield $v is appropriate " ++
        "only when a form subject subdivision is added to a main term."),
    described "x" "General subdivision" ("Subject subdivision that is not more appropriately " ++
        "contained in subfields $v (Form subdivision), $y (Chronological subdivision), or $z " ++
        "(Geographic subdivision). Subfield $x is appropriate only when a general topical " ++
        "subdivision is added to a main term."),
    described "y" "Chronological subdivision" ("Subject subdivision that represents a period " ++
        "of time. Subfield $y is appropriate only when a chronological subject subdivision is " ++
        "added to a main term."),
    described "z" "Geographic subdivision" ("Geographic subject subdivision. Subfield $z is " ++
        "appropriate in field 648 only when a geographic subject subdivision is added to a " ++
        "main term."),
    control "0" "Authority record control number or standard number",
    control "1" "Real World Object URI",
    described "2" "Source of heading or term" ("MARC code that identifies the source list " ++
        "from which the subject added entry was assigned. It is used only when the second " ++
        "indicator position contains value 7 (Source specified in subfield $2). Code from: " ++
        "Subject Heading and Term Source Codes."),
    described "3" "Materials specified" ("Part of the described materials to which the field " ++
        "applies."),
    control "6" "Linkage",
    described "7" "Data provenance" ("See description of this subfield in Appendix J: Data " ++
        "Provenance Subfields."),
    control "8" "Field link and sequence number"]

def tag650 : String × TagDefinition :=
  entry "650" "Subject Added Entry-Topical Term (R)" ("A title (e.g., Bible and atheism), a " ++
      "geographic name (e.g., Iran in the Koran), or the name of a corporate body (e.g., " ++
      "Catholic Church and humanism) used in a phrase subject heading are also recorded in " ++
      "field 650.") [
    described "a" "Topical term or geographic name entry element" ("Topical subject or a " ++
        "geographic name used as an entry element for a topical term. Parenthetical " ++
        "qualifying information associated with the term is not separately subfield coded."),
    described "b" "Topical term following geographic name entry element" ("Topical term that " ++
        "is entered under a geographic name contained in subfield $a. This construction is " ++
        "not used in AACR2 formulated records."),
    named "c" "Location of event",
    described "d" "Active dates" "Time period during which an event occurred.",
    described "e" "Relator term" ("Specifies the relationship between the topical heading and " ++
        "the described materials, e.g., depicted."),
    described "g" "Miscellaneous information" ("Data element that is not more appropriately " ++
        "contained in another defined subfield."),
    described "4" "Relationship" ("Code or URI that specifies the relationship from the " ++
        "entity described in the record to the entity referenced in the field. A source of " ++
        "relationship codes is: MARC Code List for Relators."),
    described "v" "Form subdivision" ("Form subdivision that designates a specific kind or " ++
        "genre of material as defined by the thesaurus being used. Subfield $v is appropriate " ++
        "only when a form subject subdivision is added to a main term."),
    described "x" "General subdivision" ("Subject subdivision that is not more appropriately " ++
        "contained in subfields $v (Form subdivision), $y (Chronological subdivision), or $z " ++
        "(Geographic subdivision). Subfield $x is appropriate only when a general topical " ++
        "subdivision is added to a main term."),
    described "y" "Chronological subdivision" ("Subject subdivision that represents a period " ++
        "of time. Subfield $y is appropriate only when a chronological subject subdivision is " ++
        "added to a main term."),
    described "z" "Geographic subdivision" ("Geographic subject subdivision. Subfield $z is " ++
        "appropriate in field 650 only when a geographic subject subdivision is added to a " ++
        "main term."),
    control "0" "Authority record control number or standard number",
    control "1" "Real World Object URI",
    described "2" "Source of heading or term" ("MARC code that identifies the source list " ++
        "from which the subject added entry was assigned. It is used only when the second " ++
        "indicator position contains value 7 (Source specified in subfield $2). Code from: " ++
        "Subject Heading and Term Source Codes."),
    described "3" "Materials specified" ("Part of the described materials to which the field " ++
        "applies."),
    control "6" "Linkage",
    described "7" "Data provenance" ("See description of this subfield in Appendix J: Data " ++
        "Provenance Subfields."),
    control "8" "Field link and sequence number"]

def tag651 : String × TagDefinition :=
  entry "651" "Subject Added Entry-Geographic Name (R)" ("Subject added entries are assigned " ++
      "to a bibliographic record to provide access according to generally accepted cataloging " ++
      "and thesaurus-building rules (e.g., Library of Congress Subject Headings (LCSH), " ++
      "Medical Subject Headings (MeSH)). Field 651 may be used by any institution assigning " ++
      "subject headings based on the lists and authority files identified in the second " ++
      "indicator position or in subfield $2 (Source of heading or term).") [
    described "a" "Geographic name" ("Parenthetical qualifying information is not separately " ++
        "subfield coded."),
    described "e" "Relator term" ("Designation of the relationship between a geographic name " ++
        "and the described materials, e.g., depicted."),
    described "g" "Miscellaneous information" ("Data element that is not more appropriately " ++
        "contained in another defined subfield."),
    described "4" "Relationship" ("Code or URI that specifies the relationship from the " ++
        "entity described in the record to the entity referenced in the field. A source of " ++
        "relationship codes is: MARC Code List for Relators."),
    described "v" "Form subdivision" ("Form subdivision that designates a specific kind or " ++
        "genre of material as defined by the thesaurus being used. Subfield $v is appropriate " ++
        "only when a form subject subdivision is added to a geographic name."),
    described "x" "General subdivision" ("Subject subdivision that is not more appropriately " ++
        "contained in subfield $v (Form subdivision), subfield $y (Chronological " ++
        "subdivision), or subfield $z (Geographic subdivision). Subfield $x is appropriate " ++
        "only when a general topical subdivision is added to a geographic name."),
    described "y" "Chronological subdivision" ("Subject subdivision that represents a period " ++
        "of time. Subfield $y is appropriate only when a chronological subject subdivision is " ++
        "added to a geographic name."),
    described "z" "Geographic subdivision" ("Geographic subject subdivision. Subfield $z is " ++
        "appropriate only when a geographic subject subdivision is added to a geographic name."),
    control "0" "Authority record control number or standard number",
    control "1" "Real World Object URI",
    described "2" "Source of heading or term" ("MARC code that identifies the source list " ++
        "from which the subject added entry was assigned. It is used only when the second " ++
        "indicator position contains value 7 (Source specified in subfield $2). Code from: " ++
        "Subject Heading and Term Source Codes."),
    described "3" "Materials specified" ("Part of the described materials to which the field " ++
        "applies."),
    control "6" "Linkage",
    described "7" "Data provenance" ("See description of this subfield in Appendix J: Data " ++
        "Provenance Subfields."),
    control "8" "Field link and sequence number"]

def tag653 : String × TagDefinition :=
  entry "653" "Index Term-Uncontrolled (R)" ("Subfield $a is repeatable when more than one " ++
      "index term at the level designated in the first indicator is assigned. If the second " ++
      "indicator is other than blank (#), subfield $a is not repeated unless the content of " ++
      "all $a subfields are of the same type.") [
    described "a" "Uncontrolled term" ("Index term is from an uncontrolled subject heading " ++
        "system or thesaurus."),
    described "0" "Authority record control number or standard number" ("A standard number or " ++
        "code associated with the entity named in $a."),
    control "1" "Real World Object URI",
    control "5" "Institution to which field applies",
    control "6" "Linkage",
    described "7" "Data provenance" ("See description of this subfield in Appendix J: Data " ++
        "Provenance Subfields."),
    control "8" "Field link and sequence number"]

def tag654 : String × TagDefinition :=
  entry "654" "Subject Added Entry-Faceted Topical Terms (R)" ("Topical subject constructed " ++
      "from a faceted vocabulary. For each term found in the field, an identification is " ++
      "given as to the facet/hierarchy in the thesaurus from which the term came. In " ++
      "addition, identification is given as to which term is the focus term of the " ++
      "expression. A field may contain more than one expression.") [
    described "a" "Focus term" ("Concrete thing, being, idea, or activity forming the basis " ++
        "of the expression. The subfield is repeated when there is more than one expression " ++
        "in the field."),
    described "b" "Non-focus term" "Term other than that considered the focus.",
    described "c" "Facet/hierarchy designation" ("Designation used by the thesaurus specified " ++
        "by the MARC code contained in subfield $2 to identify the facet/hierarchy for each " ++
        "term contained in subfields $a and $b."),
    described "e" "Relator term" ("Designation of the relationship between a subject " ++
        "expression or string and the described materials, e.g., depicted."),
    described "v" "Form subdivision" ("Form subdivision that designates a specific kind or " ++
        "genre of material as defined by the thesaurus being used. Subfield $v is appropriate " ++
        "only when a form subject subdivision is added to a faceted topical term."),
    described "y" "Chronological subdivision" ("Subject subdivision that represents a period " ++
        "of time. Subfield $y is appropriate only when a chronological subject subdivision is " ++
        "added to a main term."),
    described "z" "Geographic subdivision" ("Geographic subject subdivision. Subfield $z is " ++
        "appropriate in field 654 only when a geographic subject subdivision is added to a " ++
        "main term."),
    control "0" "Authority record control number or standard number",
    control "1" "Real World Object URI",
    described "2" "Source of heading or term" ("MARC code that identifies the source list " ++
        "from which the subject expression or string was assigned. Code from: Subject Heading " ++
        "and Term Source Codes."),
    described "3" "Materials specified" "Part of the collection, etc. to which the field applies.",
    described "4" "Relationship" ("Code or URI that specifies the relationship from the " ++
        "entity described in the record to the entity referenced in the field. A source of " ++
        "relationship code is: MARC Code List for Relators."),
    control "6" "Linkage",
    control "8" "Field link and sequence number"]

def tag655 : String × TagDefinition :=
  entry "655" "Index Term-Genre/Form (R)" ("May contain terms constructed from a faceted " ++
      "vocabulary. For each term found in the field, an identification is given as to the " ++
      "facet/hierarchy in the thesaurus from which the term came. In addition, identification " ++
      "is given as to which term is the focus term of the expression.") [
    described "a" "Genre/form data or focus term" ("All genre, form, or physical " ++
        "characteristics data when the first indicator is #. For faceted headings (first " ++
        "indicator is value 0), it consists of the focus term. A focus term is the concrete " ++
        "thing forming the basis of the expression."),
    described "b" "Non-focus term" ("Term other than that considered the focus in a faceted " ++
        "heading (first indicator is value 0)."),
    described "c" "Facet/hierarchy designation" ("Facet/hierarchy for each term found in " ++
        "subfields $a and $b in faceted headings (first indicator is value 0). The " ++
        "designations differ, depending on the thesaurus used (as specified by the code found " ++
        "in subfield $2)."),
    described "v" "Form subdivision" ("Form subdivision that designates a specific kind or " ++
        "genre of material as defined by the thesaurus being used. Subfield $v is appropriate " ++
        "only when a form subject subdivision is added to a genre/form term."),
    described "x" "General subdivision" ("Subject subdivision that is not more appropriately " ++
        "contained in subfield $v (Form subdivision), subfield $y (Chronological " ++
        "subdivision), or subfield $z (Geographic subdivision). Subfield $x is appropriate " ++
        "only when a topical subdivision is added to a term with a first indicator of # " ++
        "(Basic)."),
    described "y" "Chronological subdivision" ("Subject subdivision that represents a period " ++
        "of time. Subfield $y is appropriate only when a chronological subject subdivision is " ++
        "added to a term."),
    described "z" "Geographic subdivision" ("Geographic subject subdivision. Subfield $z is " ++
        "appropriate only when a geographic subject subdivision is added to a term."),
    control "0" "Authority record control number or standard number",
    control "1" "Real World Object URI",
    described "2" "Source of term" ("MARC code that identifies the source list from which the " ++
        "index term was assigned. It is used only when the second indicator position contains " ++
        "value 7 (Source specified in subfield $2). Code from: Genre/Form Code and Term " ++
        "Source Codes."),
    described "3" "Materials specified" ("Part of the described materials to which the field " ++
        "applies."),
    control "5" "Institution to which field applies",
    control "6" "Linkage",
    described "7" "Data provenance" ("See description of this subfield in Appendix J: Data " ++
        "Provenance Subfields."),
    control "8" "Field link and sequence number"]

def tag656 : String × TagDefinition :=
  entry "656" "Index Term-Occupation (R)" ("Index term that is descriptive of the occupation " ++
      "(including avocation) reflected in the contents of the described materials. Not used " ++
      "to list the occupations of the creators of the described materials, unless those " ++
      "occupations are significantly reflected in the materials themselves or bear some " ++
      "relationship to the materials. Standard published lists are used for the occupational " ++
      "terms and the list is identified in subfield $2 (Source of term).") [
    described "a" "Occupation" ("Term specifying the occupation reflected in the contents of " ++
        "the described material."),
    described "k" "Form" ("Specific kinds of materials are distinguished by an examination of " ++
        "their physical character, subject of their intellectual content, or the order of " ++
        "information within them (e.g., daybooks, diaries, directories, journals, memoranda, " ++
        "etc.)."),
    described "v" "Form subdivision" ("Form subdivision that designates a specific kind or " ++
        "genre of material as defined by the thesaurus being used. Subfield $v is appropriate " ++
        "only when a form subject subdivision is added to an index term for occupation."),
    described "x" "General subdivision" ("Subject subdivision that is not more appropriately " ++
        "contained in subfield $v (Form subdivision), subfield $y (Chronological " ++
        "subdivision), or $z (Geographic subdivision). Subfield $x is appropriate only when a " ++
        "general topical subject subdivision is added to a term."),
    described "y" "Chronological subdivision" ("Subject subdivision that represents a period " ++
        "of time. Subfield $y is appropriate only when a chronological subject subdivision is " ++
        "added to a term."),
    described "z" "Geographic subdivision" ("Geographic subject subdivision. Subfield $z is " ++
        "appropriate only when a geographic subject subdivision is added to a term."),
    control "0" "Authority record control number or standard number",
    control "1" "Real World Object URI",
    described "2" "Source of term" ("MARC code that identifies the source list from which the " ++
        "index term was assigned. It is used only when the second indicator position contains " ++
        "value 7 (Source specified in subfield $2). Code from: Occupation Term Source Codes."),
    described "3" "Materials specified" ("Part of the described materials to which the field " ++
        "applies."),
    control "6" "Linkage",
    control "8" "Field link and sequence number"]

def tag657 : String × TagDefinition :=
  entry "657" "Index Term-Function (R)" ("Index term that describes the activity or function " ++
      "that generated the described materials. Standard published lists are used for the " ++
      "function terms and the list is identified in subfield $2 (Source of term).") [
    described "a" "Function" ("Term specifying the function or activity which generated the " ++
        "materials."),
    described "v" "Form subdivision" ("Form subdivision that designates a specific kind or " ++
        "genre of material as defined by the thesaurus being used. Subfield $v is appropriate " ++
        "only when a form subject subdivision is added to an index term."),
    described "x" "General subdivision" ("Subject subdivision that is not more appropriately " ++
        "contained in subfield $v (Form subdivision), subfield $y (Chronological " ++
        "subdivision), or subfield $z (Geographic subdivision). Subfield $x is appropriate " ++
        "only when a general topical subdivision is added to a term."),
    described "y" "Chronological subdivision" ("Subject subdivision that represents a period " ++
        "of time. Subfield $y is appropriate only when a chronological subject subdivision is " ++
        "added to a term."),
    described "z" "Geographic subdivision" ("Geographic subject subdivision. Subfield $z is " ++
        "appropriate only when a geographic subject subdivision is added to a term."),
    control "0" "Authority record control number or standard number",
    control "1" "Real World Object URI",
    described "2" "Source of term" ("MARC code that identifies the source list from which the " ++
        "index term was assigned. It is used only when the second indicator position contains " ++
        "value 7 (Source specified in subfield $2). Code from: Function Term Source Codes."),
    described "3" "Materials specified" ("Part of the described materials to which the field " ++
        "applies."),
    control "6" "Linkage",
    control "8" "Field link and sequence number"]

def tag658 : String × TagDefinition :=
  entry "658" "Index Term-Curriculum Objective (R)" ("Index terms denoting curriculum or " ++
      "course-of-study objectives applicable to the content of the described materials. The " ++
      "field may also contain correlation factors indicating the degree to which the " ++
      "described materials meet an objective. Codes assigned to specific objectives in " ++
      "published lists are also recorded in this field.") [
    described "a" "Main curriculum objective" ("Term denoting the main curriculum or " ++
        "course-of-study objective."),
    described "b" "Subordinate curriculum objective" ("Curriculum objective that is " ++
        "subordinate to the main objective recorded in subfield $a. Generally, objectives " ++
        "recorded in subfield $b are more specific or facets of the main objective. Subfield " ++
        "$b may be repeated to isolate facets."),
    described "c" "Curriculum code" ("Coded representation of the curriculum objective " ++
        "recorded in subfield $a and, if applicable, subfield $b."),
    described "d" "Correlation factor" ("Statement that identifies the degree to which the " ++
        "described materials correlate to the curriculum objective recorded in the field."),
    control "0" "Authority record control number or standard number",
    control "1" "Real World Object URI",
    described "2" "Source of term or code" ("MARC code that identifies the source list from " ++
        "which the index term or code was assigned. Code from: Curriculum Objective Term and " ++
        "Code Source Codes ."),
    control "6" "Linkage",
    control "8" "Field link and sequence number"]

def tag662 : String × TagDefinition :=
  entry "662" "Subject Added Entry-Hierarchical Place Name (R)" ("$a - Country or larger " ++
      "entity Name of a country or a larger political jurisdiction. It also contains the " ++
      "names of geographical areas/entities such as continents or hemispheres at a country " ++
      "level or higher. Subfield $a may be repeated for hierarchies when multiple levels are " ++
      "given, retaining the order highest-to-lowest. 662 ##$aAntarctica.$2lcsh 662 " ++
      "##$aJapan$cHokkaido$gAsahi-dake.$2peakbag 662 ##$aWorld$aAsia$bJapan$gHokkaido " ++
      "(island)$gHokkaido (region)$cHokkaido (prefecture)$gAsahi-Dake.$2tgn") [
    described "a" "Country or larger entity" ("Name of a country or a larger political " ++
        "jurisdiction. It also contains the names of geographical areas/entities such as " ++
        "continents or hemispheres at a country level or higher. Subfield $a may be repeated " ++
        "for hierarchies when multiple levels are given, retaining the order " ++
        "highest-to-lowest."),
    described "b" "First-order political jurisdiction" ("Name of a first-order political " ++
        "jurisdiction or division and, depending on the country, can include the names of " ++
        "states, provinces, territories, dÃ©partements, etc."),
    described "c" "Intermediate political jurisdiction" ("Name of a second-order or lower " ++
        "political jurisdiction or division but not including towns or cities, and, depending " ++
        "on the country, can include the names of counties, islands, municipalities, " ++
        "prefectures, regions, etc."),
    described "d" "City" "Name of a city or town.",
    described "e" "Relator term" ("Designation of the relationship between a hierarchical " ++
        "place name and the described materials."),
    described "f" "City subsection" ("Name of a smaller unit within a populated place, e.g., " ++
        "neighborhoods, parks or streets."),
    described "g" "Other nonjurisdictional geographic region and feature" ("Name of a " ++
        "terrestrial nonjurisdictional geographic entity, e.g., rivers, lakes, islands, " ++
        "mountains, etc. Subfield $g may be repeated for hierarchies when multiple levels are " ++
        "given, retaining the order highest-to-lowest."),
    described "h" "Extraterrestrial area" ("Name of any extraterrestrial entity or space and " ++
        "includes solar systems, galaxies, star systems, and planets as well as geographic " ++
        "features of individual planets, etc. Subfield $h may be repeated for hierarchies " ++
        "when multiple levels are given, retaining the order highest-to-lowest."),
    control "0" "Authority record control number or standard number",
    control "1" "Real World Object URI",
    described "2" "Source of heading or term" ("MARC code that identifies the source list " ++
        "from which the heading or term was assigned. Code from: Subject Heading and Term " ++
        "Source Codes."),
    described "4" "Relationship" ("Code or URI that specifies the relationship from the " ++
        "entity described in the record to the entity referenced in the field. A source of " ++
        "relationship codes is: MARC Code List for Relators."),
    control "6" "Linkage",
    control "8" "Field link and sequence number"]

def tag688 : String × TagDefinition :=
  entry "688" "Subject Added Entry-Type of Entity Unspecified (R)" ("Subject added entry in " ++
      "which the entity type of the entry element is unspecified. The field is used if no " ++
      "information is provided to identify the type of entity to which the subject heading " ++
      "belongs. Subject headings which are not constructed by standard thesaurus-building " ++
      "conventions are recorded in field 653.") [
    described "a" "Name, title, or term" "Name, title, or term used as subject heading.",
    described "e" "Relator term" ("Specifies the relationship between the heading and the " ++
        "described materials. More than one relationship term may be used if the entity has " ++
        "more than one relationship."),
    described "g" "Miscellaneous information" ("Data element that is not more appropriately " ++
        "contained in another defined subfield."),
    control "0" "Authority record control number or standard number",
    control "1" "Real World Object URI",
    described "2" "Source of name, title, or term" ("MARC code that identifies the source " ++
        "list from which the subject added entry was assigned. It is used only when the " ++
        "second indicator position contains value 7 (Source specified in subfield $2). Code " ++
        "from: Subject Heading and Term Source Codes."),
    described "3" "Materials specified" ("Part of the described materials to which the field " ++
        "applies."),
    described "4" "Relationship" ("Code or URI that specifies the relationship from the " ++
        "entity described in the record to the entity referenced in the field. More than one " ++
        "relationship code or URI may be used if the entity has more than one relationship. A " ++
        "source of relationship codes is: MARC Code List for Relators."),
    control "6" "Linkage",
    control "8" "Field link and sequence number"]

/-- Subject access (tags 600 to 688). -/
def subjects : Table TagDefinition :=
  [tag600, tag611, tag630, tag647, tag648, tag650, tag651, tag653, tag654, tag655, tag656,
   tag657, tag658, tag662, tag688]

end MarcLens.Shipped

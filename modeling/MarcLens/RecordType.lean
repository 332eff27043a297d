import MarcLens.Format.Basic

/-!
# Types of records

The seventh character of a leader tells what a record describes.
-/

namespace MarcLens

inductive RecordType where
  | bibliographic
  | holdings
  | classification
  | authority
  | community
  | unknown
deriving DecidableEq, Repr

namespace RecordType

def all : List RecordType :=
  [bibliographic, holdings, classification, authority, community, unknown]

/-- The short word for a type of record. -/
def word : RecordType → String
  | bibliographic => "bib"
  | holdings => "hold"
  | classification => "class"
  | authority => "auth"
  | community => "comm"
  | unknown => "unknown"

/-- The key under which the fixed fields of a type of record are filed. -/
def key : RecordType → String
  | bibliographic => "BIB"
  | holdings => "HOLD"
  | classification => "CLASS"
  | authority => "AUTH"
  | community => "COMM"
  | unknown => "UNKNOWN"

/-- The type of record that a word names. -/
def ofWord (w : String) : Except Fault RecordType :=
  match all.find? fun t => t.word = w with
  | some t => .ok t
  | none => .error (.notARecordType w)

/-- The type of record for a type character of a leader. -/
def ofTypeCode (c : Char) : RecordType :=
  if c ∈ ['a', 'd', 'e', 'f', 'g', 'i', 'j', 'k', 'm', 'o', 'p', 'r', 't', 'w', 'x', 'y'] then
    bibliographic
  else if c = 'v' then holdings
  else if c = 'c' then classification
  else if c = 'n' ∨ c = 'z' then authority
  else unknown

/-- The type of record that a leader tells. -/
def ofLeader (leader : Text) : RecordType :=
  match leader[6]? with
  | some c => ofTypeCode c
  | none => unknown

/-- The type of record that a line tells: an MRK line if it is a leader with some content, any
    other line if it starts with a digit and is long enough to hold a type character. -/
def ofLine? (fmt : Format) (l : Text) : Option RecordType :=
  match fmt with
  | .mrk =>
    let leader := Text.trim (l.drop 6)
    if ['=', 'L', 'D', 'R'].isPrefixOf l && !leader.isEmpty then some (ofLeader leader) else none
  | _ =>
    if (l.head?.map isDigitLike).getD false && 7 ≤ l.length then some (ofLeader l) else none

/-- The type of record that the first telling line of a document gives. -/
def ofDocument? (fmt : Format) (document : Text) : Option RecordType :=
  (document.lines.filter fun l => !Text.isVoid l).findSome? (ofLine? fmt)

end RecordType

end MarcLens

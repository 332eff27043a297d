import MarcLens.Diagnostic
import MarcLens.Hover.Note

/-!
# What stands under a character

For a character of a line, and the field that the line holds, the note on what stands there and the
characters to which the note applies.

## Main definitions

- `Located`: a note with the characters that it is about
- `Locate.tag?`, `Locate.position?`, `Locate.indicator?`, `Locate.subfield?`: the parts of a field
- `Locate.plain?`, `Locate.remark?`: a note without a place of its own
- `Locate.at?`: the first of these that has something to say
-/

namespace MarcLens

/-- A note with the characters of a line that it is about. -/
structure Located where
  note : Note
  start : Int
  stop : Int
deriving Repr

def Located.range (l : Located) (line : Int) : Range := .onLine line l.start l.stop

/-- The characters from the marker of a subfield to the end of its content in a line. -/
structure SubfieldSpan where
  subfield : Subfield
  start : Nat
  stop : Nat
deriving Repr

namespace Locate

variable (cat : Catalogue) (fmt : Format) (l : Text) (f : Field) (c : Int)

/-- The tag, where it is written at the start of the line. A leader in line mode has none. -/
def tag? : Option Located :=
  let written := fmt.writtenTag f.tag
  if fmt ≠ .mrk ∧ f.tag = ['L', 'D', 'R'] then none
  else
    match Text.find? written l with
    | none => none
    | some start =>
      let stop := start + written.length
      if fmt ≠ .mrk ∧ 3 < start then none
      else if (start : Int) ≤ c ∧ c < stop then
        (cat.tag? (String.ofList f.tag)).map fun d => ⟨.tag f.tag d, start, stop⟩
      else none

/-- An integer as a bound of characters. -/
def bound (j : Json) : Except Fault Int :=
  match j.index? with
  | some n => .ok n
  | none => .error .boundNotInteger

/-- The characters of a field at a position, where `content` is the field without its tag. There are
    none at a position that starts behind the content. -/
def positionValue (p : Position) (content : Text) : Except Fault Text := do
  if p.start.atLeast? content.length ≠ some false then return []
  else if p.isOpen then return Text.sliceFrom content (← bound p.start)
  else return Text.slice content (← bound p.start) ((← bound p.stop) + 1)

/-- The position of a fixed field whose content starts at `start`, for records of a given type. The
    range is one of whole characters: where a bound of the position has a fraction, the sum with
    `start` would keep it, and it is rounded down here (`Json.capped`). -/
def positionFrom (start : Nat) (type : RecordType) : Except Fault Located := do
  let content := Text.trim (l.drop start)
  match ← cat.position? (String.ofList f.tag) (c - start) type with
  | none => return ⟨.character f.tag (c - start), c, c + 1⟩
  | some p =>
    let stop : Int := if p.isOpen then content.length else p.stop.capped (l.length - start - 1) + 1
    return ⟨.position f.tag p (← positionValue p content),
      start + p.start.capped (l.length - start), start + min stop (l.length - start)⟩

/-- The place at which the content of a fixed field starts, if the character belongs to the
    content. -/
def contentStart? : Option Nat :=
  if c ≤ fmt.tagEnd && !fmt.isBareLeader f.tag then none
  else (fmt.contentStart? l f.tag).filter fun start => (start : Int) ≤ c

/-- The type of record by which a fixed field is looked up. When it is not known, all fields but
    008 are taken as those of bibliographic records. -/
def assumedType (type : Option RecordType) : Option RecordType :=
  type.or (if f.tag = ['0', '0', '8'] then none else some .bibliographic)

/-- The position of a fixed field. -/
def position? (type : Option RecordType) : Except Fault (Option Located) :=
  match contentStart? fmt l f c, assumedType f type with
  | some start, some type => some <$> positionFrom cat l f c start type
  | _, _ => .ok none

/-- A position of a fixed field cannot be told without a type of record. -/
def untypedPosition? : Except Fault (Option Note) :=
  if c ≤ fmt.tagEnd then .ok none
  else
    match (fmt.contentStart? l f.tag).filter fun start => (start : Int) ≤ c with
    | none => .ok none
    | some _ => .error .recordTypeMissing

/-- An indicator of a field; one that is missing or empty counts as a space. -/
def indicatorValue (number : IndicatorNumber) : Text :=
  let given := match number with
    | .first => f.indicator1
    | .second => f.indicator2
  match given with
  | none => [' ']
  | some [] => [' ']
  | some value => value

def indicatorNote (number : IndicatorNumber) : Note :=
  .indicator number (indicatorValue f number)
    (((cat.tag? (String.ofList f.tag)).map (·.indicators)).getD (.obj []))

/-- An indicator, where the line has its indicators. -/
def indicator? : Option Located :=
  match fmt.indicators? l with
  | none => none
  | some found =>
    if c = found.firstAt then
      some ⟨indicatorNote cat f .first, found.firstAt, found.firstAt + 1⟩
    else if c = found.secondAt then
      some ⟨indicatorNote cat f .second, found.secondAt, found.secondAt + 1⟩
    else none

/-- The note on a subfield. One look-up settles whether its code is known: `Catalogue.subfield?`
    goes through the definition of the tag, so what it does not find cannot be found by going
    through that definition once more. -/
def subfieldNote (s : Subfield) : Note :=
  .subfield f.tag s (cat.subfield? (String.ofList f.tag) (String.ofList s.code))

/-- Where subfields stand in a line from position `start` on. Each is looked for after the one
    before it, and one that is not found is passed over. -/
def spansFrom (l : Text) (start : Nat) : List Subfield → List SubfieldSpan
  | [] => []
  | s :: rest =>
    match Text.find? ('$' :: s.code) (l.drop start) with
    | none => spansFrom l start rest
    | some i =>
      let stop := start + i + 1 + s.code.length + s.content.length
      ⟨s, start + i, stop⟩ :: spansFrom l stop rest

/-- Where the subfields of a field stand in a line. -/
def spans (subfields : List Subfield) : List SubfieldSpan := spansFrom l 0 subfields

/-- The subfield, where the line has it; the place right after its content is part of it. -/
def subfieldIn? (subfields : List Subfield) : Option Located :=
  ((spans l subfields).find? fun s => (s.start : Int) ≤ c && c ≤ s.stop).map fun s =>
    ⟨subfieldNote cat f s.subfield, s.start, s.stop⟩

/-- The subfield of a field, which has to have a list of subfields. -/
def subfield? : Except Fault (Option Located) :=
  match f.subfields with
  | none => .error .subfieldsMissing
  | some subfields => .ok (subfieldIn? cat l f c subfields)

/-- The first subfield whose marker stands somewhere in the line such that the character is not
    farther behind it than the content is long. -/
def plainSubfield? : Option Note :=
  f.subfieldList.findSome? fun s =>
    let marker := '$' :: s.code
    ((Text.occurrences marker l).find? fun (start : Nat) =>
      start ≤ c && c ≤ start + marker.length + s.content.length).map fun _ =>
        subfieldNote cat f s

/-- A note without a place of its own: on the tag for the first characters of the line, otherwise on
    a subfield or an indicator. -/
def plain? : Option Note :=
  match if 0 ≤ c ∧ c ≤ fmt.tagEnd then cat.tag? (String.ofList f.tag) else none with
  | some d => some (.sheet f.tag d (f.kind = .data))
  | none =>
    if f.kind = .data then
      (plainSubfield? cat l f c).or ((indicator? cat fmt l f c).map Located.note)
    else none

/-- A note without a place of its own. One on a position would come first, if a field could be fixed
    without a type of record. -/
def remark? : Except Fault (Option Note) := do
  let position ←
    if cat.isFixed (String.ofList f.tag) none then untypedPosition? fmt l f c else .ok none
  return position.or (plain? cat fmt l f c)

/-- What stands under a character of a data field: an indicator, a subfield, or else a note on the
    whole line. Other fields have such a note only. -/
def part? : Except Fault (Option Located) := do
  let inside :=
    (if f.kind = .data then indicator? cat fmt l f c else none)
    |>.or (if f.kind = .data then subfieldIn? cat l f c f.subfieldList else none)
  match inside with
  | some located => return some located
  | none => return (← remark? cat fmt l f c).map fun note => ⟨note, 0, l.length⟩

/-- What stands under a character of a line: the tag, a position, an indicator or a subfield, in
    this order, or else a note on the whole line. -/
def at? (type : Option RecordType) : Except Fault (Option Located) := do
  match tag? cat fmt l f c with
  | some located => return some located
  | none =>
    let position ←
      if cat.isFixed (String.ofList f.tag) type then position? cat fmt l f c type else .ok none
    match position with
    | some located => return some located
    | none => part? cat fmt l f c

end Locate

end MarcLens

import MarcLens.Proofs.Grammar.Basic
import MarcLens.Proofs.Reading
import Mathlib.Data.List.TakeDrop

/-!
# The grammar of MRK lines

Behind the tag of an MRK line stand blanks, and behind these the content of a leader or control
field, or the indicators and subfields of a data field. The blanks are taken as far as they go, but
one or two of them are given back when nothing else is left for the content or the indicators. Here
it is said without any search where the blanks end, and so what every line spells.

A line is tried as a leader, as a control field and as a data field, in this order, and a data field
may have any three digits for a tag. The order does not matter: a line with a tag below 010 that is
refused as a control field is refused as a data field too, since its indicators would be content.

## Main definitions

- `Mrk.Spells`: a line that spells a field of a given kind
- `Mrk.spelled`: the field that it spells
- `Mrk.reader`: the reading of a line as a field of a given kind

## Main statements

- `Mrk.contentField?_eq`, `Mrk.dataField?_eq`: what follows the tag, by where the blanks end
- `Mrk.field?_eq_or`: the readings in the order in which they are tried
- `Mrk.findSome?_reader_of_perm`: the readers can be tried in any order
- `Mrk.field?_eq_some_iff_spells`: a line is read as the field that it spells
-/

namespace MarcLens

namespace Mrk

variable {l tag rest : Text} {number : Int} {f : Field} {kind : FieldKind}

/-- The content in what follows a tag: all that follows the blanks, or the last of the blanks if
    nothing follows them. -/
def contentBehind (rest : Text) : Text :=
  if rest.leadingBlanks < rest.length then rest.drop rest.leadingBlanks
  else rest.getLast?.toList

/-- The place of the first indicator in what follows a tag: behind the blanks, or among the last
    two characters. -/
def indicatorsAt (rest : Text) : Nat := min rest.leadingBlanks (rest.length - 2)

/-- The three characters behind the equals sign. -/
def tagOf (l : Text) : Text := (l.drop 1).take 3

/-- Everything behind the tag. -/
def behindTag (l : Text) : Text := l.drop 4

/-- The tags that fields of a kind have: LDR, or three ASCII digits, where control fields have the
    tags below 010. -/
def HasTag : FieldKind → Text → Prop
  | .leader, tag => tag = ['L', 'D', 'R']
  | .control, tag => tag.length = 3 ∧ tag.all Char.isDigit ∧ tag < ['0', '1', '0']
  | .data, tag => tag.length = 3 ∧ tag.all Char.isDigit ∧ ¬tag < ['0', '1', '0']

/-- The number of characters that have to follow the tag, the blank behind it included. -/
def roomFor : FieldKind → Nat
  | .data => 3
  | _ => 2

/-- A line that spells a field of a kind. -/
structure Spells (kind : FieldKind) (l : Text) : Prop where
  equals : l.head? = some '='
  tag : HasTag kind (tagOf l)
  blank : 1 ≤ (behindTag l).leadingBlanks
  room : roomFor kind ≤ (behindTag l).length

/-- The field of a kind that a line spells, apart from where the line stands. -/
def spelled (kind : FieldKind) (l : Text) : Field :=
  let rest := behindTag l
  match kind with
  | .data =>
    { tag := tagOf l, kind := .data
      indicator1 := rest[indicatorsAt rest]?.map indicator
      indicator2 := rest[indicatorsAt rest + 1]?.map indicator
      subfields := some (Subfield.scan (rest.drop (indicatorsAt rest + 2))) }
  | kind => { tag := tagOf l, kind := kind, content := some (contentBehind rest) }

instance : (kind : FieldKind) → (tag : Text) → Decidable (HasTag kind tag)
  | .leader, tag => inferInstanceAs (Decidable (tag = _))
  | .control, tag => inferInstanceAs (Decidable (tag.length = 3 ∧ _ ∧ tag < ['0', '1', '0']))
  | .data, tag => inferInstanceAs (Decidable (tag.length = 3 ∧ _ ∧ ¬tag < ['0', '1', '0']))

/-- Reads a field of a kind from its tag and what follows the tag. -/
def readBehind : FieldKind → Text → Text → Option Field
  | .data => dataField?
  | kind => contentField? kind

/-- Reads a line as a field of a kind. The tags of control fields are kept from data fields. -/
def reader (kind : FieldKind) (l : Text) : Option Field :=
  if l.head? = some '=' ∧ HasTag kind (tagOf l) then readBehind kind (tagOf l) (behindTag l)
  else none

/-- Reads a line as a data field whatever the three digits of its tag are. -/
def digitsField? (l : Text) : Option Field :=
  if l.head? = some '=' ∧ (tagOf l).length = 3 ∧ (tagOf l).all Char.isDigit then
    dataField? (tagOf l) (behindTag l)
  else none

theorem kind_spelled (kind : FieldKind) (l : Text) : (spelled kind l).kind = kind := by
  cases kind <;> rfl

theorem contentBehind_eq_afterGap (hne : rest ≠ []) : contentBehind rest = rest.afterGap 1 := by
  have hle := rest.leadingBlanks_le_length
  rw [contentBehind, Text.afterGap]
  split
  · rw [Nat.min_eq_left (by omega)]
  · rw [Nat.min_eq_right (by omega), List.drop_length_sub_one hne,
      List.getLast?_eq_some_getLast hne]
    rfl

theorem contentField?_eq (hrest : '\n' ∉ rest) (kind : FieldKind) (tag : Text) :
    contentField? kind tag rest =
      if 1 ≤ rest.leadingBlanks ∧ 1 < rest.length then
        some { tag := tag, kind := kind, content := some (contentBehind rest) }
      else none := by
  have haccept : ∀ s, s <:+ rest → ((Text.contentUpToEnd s).isSome ↔ 1 ≤ s.length) := fun s hs =>
    Text.isSome_contentUpToEnd_iff fun hmem => hrest (hs.subset hmem)
  rw [contentField?, Text.afterBlanks_eq haccept]
  by_cases hroom : 1 ≤ rest.leadingBlanks ∧ 1 < rest.length
  · have hnewline : '\n' ∉ rest.afterGap 1 := fun hmem =>
      hrest ((Text.afterGap_isSuffix 1 rest).subset hmem)
    have hne : rest ≠ [] := List.ne_nil_of_length_pos (by omega)
    have hleft : rest.afterGap 1 ≠ [] :=
      List.ne_nil_of_length_pos (Text.le_length_afterGap (by omega))
    rw [if_pos hroom, if_pos hroom, contentBehind_eq_afterGap hne,
      Text.contentUpToEnd_of_newline_notMem hnewline hleft]
    rfl
  · rw [if_neg hroom, if_neg hroom]
    rfl

/-- The indicators are the first two characters that the blanks leave. -/
theorem exists_afterGap_eq (h : 2 ≤ rest.length) :
    ∃ i j data, rest.afterGap 2 = i :: j :: data ∧ rest[indicatorsAt rest]? = some i ∧
      rest[indicatorsAt rest + 1]? = some j ∧ rest.drop (indicatorsAt rest + 2) = data := by
  have hlen := Text.le_length_afterGap h
  have hgap : rest.drop (indicatorsAt rest) = rest.afterGap 2 := rfl
  cases hleft : rest.afterGap 2 with
  | nil => simp [hleft] at hlen
  | cons i t =>
    cases t with
    | nil => simp [hleft] at hlen
    | cons j data =>
      rw [hleft] at hgap
      refine ⟨i, j, data, rfl, ?_, ?_, ?_⟩
      · rw [← Nat.add_zero (indicatorsAt rest), ← List.getElem?_drop, hgap]
        rfl
      · rw [← List.getElem?_drop, hgap]
        rfl
      · rw [← List.drop_drop, hgap]
        rfl

theorem dataField?_eq (hrest : '\n' ∉ rest) (tag : Text) :
    dataField? tag rest =
      if 1 ≤ rest.leadingBlanks ∧ 2 < rest.length then
        some { tag := tag, kind := .data
               indicator1 := rest[indicatorsAt rest]?.map indicator
               indicator2 := rest[indicatorsAt rest + 1]?.map indicator
               subfields := some (Subfield.scan (rest.drop (indicatorsAt rest + 2))) }
      else none := by
  have haccept : ∀ s, s <:+ rest → ((indicatorsAndData s).isSome ↔ 2 ≤ s.length) := fun s hs =>
    isSome_indicatorsAndData_iff fun hmem => hrest (hs.subset hmem)
  rw [dataField?, Text.afterBlanks_eq haccept]
  by_cases hroom : 1 ≤ rest.leadingBlanks ∧ 2 < rest.length
  · have hlen : 2 ≤ rest.length := by omega
    obtain ⟨i, j, data, hgap, hfirst, hsecond, hdata⟩ := exists_afterGap_eq hlen
    have hnewline : '\n' ∉ i :: j :: data := fun hmem =>
      hrest ((Text.afterGap_isSuffix 2 rest).subset (hgap ▸ hmem))
    simp only [List.mem_cons, not_or] at hnewline
    obtain ⟨hi, hj, hnewline⟩ := hnewline
    rw [if_pos hroom, if_pos hroom, hgap, hfirst, hsecond, hdata, indicatorsAndData,
      if_neg (not_or.2 ⟨Ne.symm hi, Ne.symm hj⟩), Text.upToEnd_of_newline_notMem hnewline]
    rfl
  · rw [if_neg hroom, if_neg hroom]
    rfl

/-! ### What each reader accepts -/

theorem HasTag.length_eq (h : HasTag kind tag) : tag.length = 3 := by
  cases kind with
  | leader =>
    obtain rfl : tag = ['L', 'D', 'R'] := h
    rfl
  | control => exact h.1
  | data => exact h.1

theorem exists_eq_cons (hequals : l.head? = some '=') (hlen : (tagOf l).length = 3) :
    ∃ a b c rest, l = '=' :: a :: b :: c :: rest := by
  rcases l with _ | ⟨e, _ | ⟨a, _ | ⟨b, _ | ⟨c, rest⟩⟩⟩⟩
  iterate 4 simp [tagOf] at hlen
  obtain rfl := Option.some.inj hequals
  exact ⟨a, b, c, rest, rfl⟩

theorem Spells.exists_eq_cons (h : Spells kind l) : ∃ a b c rest, l = '=' :: a :: b :: c :: rest :=
  Mrk.exists_eq_cons h.equals h.tag.length_eq

/-- Behind the tag, a field of either shape is read as the line spells it. -/
theorem readBehind_eq (hrest : '\n' ∉ behindTag l) (kind : FieldKind) :
    readBehind kind (tagOf l) (behindTag l) =
      if 1 ≤ (behindTag l).leadingBlanks ∧ roomFor kind ≤ (behindTag l).length then
        some (spelled kind l)
      else none := by
  cases kind with
  | leader => exact contentField?_eq hrest .leader (tagOf l)
  | control => exact contentField?_eq hrest .control (tagOf l)
  | data => exact dataField?_eq hrest (tagOf l)

/-- Each reader accepts the lines that spell a field of its kind. -/
theorem reader_eq_some_iff (hnewline : '\n' ∉ l) :
    reader kind l = some f ↔ Spells kind l ∧ f = spelled kind l := by
  have hrest : '\n' ∉ behindTag l := fun hmem => hnewline (List.mem_of_mem_drop hmem)
  rw [reader, Option.ite_none_right_eq_some, readBehind_eq hrest, Option.ite_none_right_eq_some,
    Option.some.injEq]
  constructor
  · rintro ⟨⟨hequals, htag⟩, ⟨hblank, hroom⟩, rfl⟩
    exact ⟨⟨hequals, htag, hblank, hroom⟩, rfl⟩
  · rintro ⟨⟨hequals, htag, hblank, hroom⟩, rfl⟩
    exact ⟨⟨hequals, htag⟩, ⟨hblank, hroom⟩, rfl⟩

/-! ### The order of the readings -/

/-- A tag leaves one reading of what follows it. -/
theorem taggedField?_eq_some_iff {a b c : Char} :
    taggedField? a b c rest = some f ↔
      ∃ kind, HasTag kind [a, b, c] ∧ readBehind kind [a, b, c] rest = some f := by
  constructor
  · intro h
    rw [taggedField?] at h
    split at h
    · next hldr => exact ⟨.leader, hldr, h⟩
    · obtain ⟨hdigits, h⟩ := Option.ite_none_right_eq_some.1 h
      have hall : [a, b, c].all Char.isDigit := by simpa [and_assoc] using hdigits
      split at h
      · next hzero => exact ⟨.control, ⟨rfl, hall, (tag_lt_iff hall).2 hzero⟩, h⟩
      · next hzero => exact ⟨.data, ⟨rfl, hall, fun hlt => hzero ((tag_lt_iff hall).1 hlt)⟩, h⟩
  · rintro ⟨kind, htag, h⟩
    cases kind with
    | leader =>
      have hldr : [a, b, c] = ['L', 'D', 'R'] := htag
      rwa [taggedField?, if_pos hldr]
    | control =>
      obtain ⟨-, hall, hlt⟩ := htag
      rwa [taggedField?_of_digits hall, if_pos hlt]
    | data =>
      obtain ⟨-, hall, hlt⟩ := htag
      rwa [taggedField?_of_digits hall, if_neg hlt]

/-- Whichever reader succeeds, it gives the field on the line. -/
theorem field?_eq_some_iff_exists :
    field? l number = some f ↔
      ∃ kind g, reader kind l = some g ∧ { g with line := number, stop := l.length } = f := by
  constructor
  · intro hread
    unfold field? at hread
    split at hread
    · obtain ⟨g, hg, rfl⟩ := Option.map_eq_some_iff.1 hread
      obtain ⟨kind, htag, hg⟩ := taggedField?_eq_some_iff.1 hg
      exact ⟨kind, g, Option.ite_none_right_eq_some.2 ⟨⟨rfl, htag⟩, hg⟩, rfl⟩
    · cases hread
  · rintro ⟨kind, g, hread, rfl⟩
    obtain ⟨⟨hequals, htag⟩, hread⟩ := Option.ite_none_right_eq_some.1 hread
    obtain ⟨a, b, c, rest, rfl⟩ := exists_eq_cons hequals htag.length_eq
    exact Option.map_eq_some_iff.2 ⟨g, taggedField?_eq_some_iff.2 ⟨kind, htag, hread⟩, rfl⟩

/-- The readers can be tried in any order. -/
theorem findSome?_reader_of_perm {order : List FieldKind}
    (horder : order.Perm [.leader, .control, .data]) (l : Text) (number : Int) :
    ((order.findSome? fun kind => reader kind l).map fun f =>
      { f with line := number, stop := l.length }) = field? l number := by
  rw [List.map_findSome?]
  apply FieldKind.findSome?_eq_of_perm _ horder
  intro f
  simp only [field?_eq_some_iff_exists, Function.comp_apply, Option.map_eq_some_iff]

/-- Indicators are content. -/
theorem isSome_contentUpToEnd_of_indicatorsAndData {s : Text} (h : (indicatorsAndData s).isSome) :
    (Text.contentUpToEnd s).isSome := by
  unfold indicatorsAndData at h
  split at h
  · next a b rest =>
    split at h
    · simp at h
    · next hindicators =>
      obtain ⟨ha, hb⟩ := not_or.1 hindicators
      obtain ⟨data, hdata⟩ := Option.isSome_iff_exists.1 (Option.isSome_map.symm.trans h)
      simp [Text.contentUpToEnd, Text.upToEnd_cons ha, Text.upToEnd_cons hb, hdata]
  · simp at h

/-- What can be read behind the tag of a data field can be read behind that of a control field. -/
theorem isSome_contentField?_of_dataField? (h : (dataField? tag rest).isSome) :
    (contentField? kind tag rest).isSome := by
  rw [dataField?, Option.isSome_map] at h
  rw [contentField?, Option.isSome_map]
  exact Text.isSome_afterBlanks_of_imp (fun _ => isSome_contentUpToEnd_of_indicatorsAndData) h

/-- Behind the reading of control fields, their tags need not be kept from data fields: what that
    reading refuses is not read as a data field either. -/
theorem reader_control_or_digitsField? (l : Text) :
    (reader .control l).or (digitsField? l) = (reader .control l).or (reader .data l) := by
  cases hcontrol : reader .control l with
  | some g => rfl
  | none =>
    rw [Option.none_or, Option.none_or]
    by_cases hlt : tagOf l < ['0', '1', '0']
    · have hdata : reader .data l = none := if_neg fun h => h.2.2.2 hlt
      rw [hdata, digitsField?, ite_eq_right_iff]
      rintro ⟨hequals, hlen, hall⟩
      rw [reader, if_pos ⟨hequals, hlen, hall, hlt⟩] at hcontrol
      by_contra hread
      have hsome : (contentField? .control (tagOf l) (behindTag l)).isSome :=
        isSome_contentField?_of_dataField? (Option.isSome_iff_ne_none.2 hread)
      exact Option.isSome_iff_ne_none.1 hsome hcontrol
    · have htag : HasTag .data (tagOf l) ↔ (tagOf l).length = 3 ∧ (tagOf l).all Char.isDigit := by
        simp [HasTag, hlt]
      simp only [digitsField?, reader, htag]
      rfl

/-- The readings in the order in which they are tried, where all tags of three digits are left to
    data fields that no control field takes. -/
theorem field?_eq_or (l : Text) (number : Int) :
    field? l number =
      ((reader .leader l).or ((reader .control l).or (digitsField? l))).map fun f =>
        { f with line := number, stop := l.length } := by
  rw [reader_control_or_digitsField?, ← findSome?_reader_of_perm (List.Perm.refl _)]
  congr 1
  cases hleader : reader .leader l <;> cases hcontrol : reader .control l <;>
    simp [hleader, hcontrol]

/-! ### What a line is read as -/

/-- A line is read as the field that it spells, and as nothing else. -/
theorem field?_eq_some_iff_spells (hnewline : '\n' ∉ l) :
    field? l number = some f ↔
      ∃ kind, Spells kind l ∧ f = { spelled kind l with line := number, stop := l.length } := by
  rw [field?_eq_some_iff_exists]
  constructor
  · rintro ⟨kind, g, hread, rfl⟩
    obtain ⟨hspells, rfl⟩ := (reader_eq_some_iff hnewline).1 hread
    exact ⟨kind, hspells, rfl⟩
  · rintro ⟨kind, hspells, rfl⟩
    exact ⟨kind, spelled kind l, (reader_eq_some_iff hnewline).2 ⟨hspells, rfl⟩, rfl⟩

theorem readsAsSpelled : ReadsAsSpelled field? Spells spelled :=
  ⟨kind_spelled, field?_eq_some_iff_spells⟩

/-- MRK accepts exactly its grammar. A line without line feeds is read as a field of a kind iff it
    spells one, with the parts that stand where the blanks behind the tag end, and any line that
    spells no field is refused. A tag below 010 is never that of a data field. -/
theorem field?_iff_grammar (hnewline : '\n' ∉ l) (number : Int) :
    (∀ kind f, field? l number = some f ∧ f.kind = kind ↔
      Spells kind l ∧ f = { spelled kind l with line := number, stop := l.length }) ∧
    (field? l number = none ↔ ∀ kind, ¬Spells kind l) ∧
    ∀ f, field? l number = some f → f.tag < ['0', '1', '0'] → f.kind ≠ .data := by
  refine ⟨readsAsSpelled.kind_iff hnewline, readsAsSpelled.eq_none_iff hnewline, ?_⟩
  intro f hread hlt hkind
  obtain ⟨hspells, rfl⟩ := (readsAsSpelled.kind_iff hnewline .data f).1 ⟨hread, hkind⟩
  exact hspells.tag.2.2 hlt

/-- Three blanks and one more character: a blank is given back, and becomes the first indicator. -/
theorem field?_iff_grammar_given_back :
    '\n' ∉ "=245   x".toList ∧ Spells .data "=245   x".toList ∧
      field? "=245   x".toList 7 =
        some { tag := ['2', '4', '5'], kind := .data, indicator1 := some [' ']
               indicator2 := some ['x'], subfields := some [], line := 7, stop := 8 } := by
  have hnewline : '\n' ∉ "=245   x".toList := by decide
  have hspells : Spells .data "=245   x".toList :=
    ⟨rfl, ⟨rfl, by decide, by decide⟩, by decide, by decide⟩
  exact ⟨hnewline, hspells, (((field?_iff_grammar hnewline 7).1 .data _).2 ⟨hspells, rfl⟩).1⟩

end Mrk

end MarcLens

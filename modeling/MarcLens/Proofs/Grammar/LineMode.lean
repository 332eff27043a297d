import MarcLens.Proofs.Draft.LineMode
import MarcLens.Proofs.Grammar.Basic

/-!
# The grammar of lines in line mode

A line is read as a leader, as a control field or as a data field. A leader is looked for without
the blanks around it, the other two in the columns of the line as it stands, and the digits that
count are not the same for all three. Still no line is open to two of these readings, so it does not
matter which of them is tried first: the blank behind a tag stands where a leader has a digit, and
the tags of control fields are theirs alone.

## Main definitions

- `LineMode.Spells`: a line that spells a field of a given kind
- `LineMode.spelled`: the field that it spells
- `LineMode.reader`: the reading of a line as a field of a given kind

## Main statements

- `LineMode.Spells.unique`: no line spells fields of two kinds
- `LineMode.reading?_eq_some_iff_exists`: the reader that succeeds decides, whichever it is
- `LineMode.findSome?_reader_of_perm`: the readers can be tried in any order
-/

namespace MarcLens.LineMode

open Draft (controlTags isControlTag_iff)

variable {l : Text} {f : Field} {kind : FieldKind} {number : Int}

/-- A line that spells a field of a kind. -/
def Spells : FieldKind → Text → Prop
  | .leader, l => (Text.trim l).length = 24 ∧ ((Text.trim l).take 5).all isDecimal
  | .control, l => l.take 3 ∈ controlTags ∧ l[3]?.any isBlank ∧ 5 ≤ l.length
  | .data, l =>
    (l.take 3).all isDecimal ∧ l.take 3 ∉ controlTags ∧ l[3]?.any isBlank ∧ l[6]?.any isBlank ∧
      7 ≤ l.length

/-- The field of a kind that a line spells, apart from where the line stands. The blank behind the
    indicators counts as subfield data. -/
def spelled : FieldKind → Text → Field
  | .leader, l => { tag := ['L', 'D', 'R'], kind := .leader, content := some (Text.trim l) }
  | .control, l => { tag := l.take 3, kind := .control, content := some (l.drop 4) }
  | .data, l =>
    { tag := l.take 3, kind := .data
      indicator1 := l[4]?.map fun c => [c]
      indicator2 := l[5]?.map fun c => [c]
      subfields := some (Subfield.scan (l.drop 6)) }

/-- Reads a line as a field of a kind. The tags of control fields are kept from data fields. -/
def reader : FieldKind → Text → Option Field
  | .leader, l => if isLeader (Text.trim l) then some (spelled .leader l) else none
  | .control, l => controlField? l
  | .data, l => if isControlTag (l.take 3) then none else dataField? l

theorem kind_spelled (kind : FieldKind) (l : Text) : (spelled kind l).kind = kind := by
  cases kind <;> rfl

/-! ### What each reader accepts -/

theorem isLeader_trim_iff (hnewline : '\n' ∉ l) : isLeader (Text.trim l) ↔ Spells .leader l := by
  have hrest : ((Text.trim l).drop 5).all (· ≠ '\n') := by
    rw [List.all_eq_true]
    intro c hc
    rw [decide_eq_true_eq]
    exact ne_of_mem_of_not_mem (Text.mem_of_mem_trim (List.mem_of_mem_drop hc)) hnewline
  simp only [isLeader, Bool.and_eq_true, decide_eq_true_eq, Spells, hrest, and_true]

theorem spells_control_cons_iff {a b c gap : Char} {rest : Text} :
    Spells .control (a :: b :: c :: gap :: rest) ↔
      (isControlTag [a, b, c] ∧ isBlank gap) ∧ rest ≠ [] := by
  have hlen : 5 ≤ (a :: b :: c :: gap :: rest).length ↔ rest ≠ [] := by
    rw [← List.length_pos_iff]
    simp only [List.length_cons]
    omega
  rw [Spells, hlen, and_assoc, isControlTag_iff]
  rfl

theorem controlField?_eq_some_iff (hnewline : '\n' ∉ l) :
    controlField? l = some f ↔ Spells .control l ∧ f = spelled .control l := by
  rcases l with _ | ⟨a, _ | ⟨b, _ | ⟨c, _ | ⟨gap, rest⟩⟩⟩⟩
  · simp [controlField?, Spells]
  · simp [controlField?, Spells]
  · simp [controlField?, Spells]
  · simp [controlField?, Spells]
  rw [spells_control_cons_iff]
  by_cases hcolumns : isControlTag [a, b, c] ∧ isBlank gap
  · have hrest : '\n' ∉ rest := fun hmem => hnewline (by simp [hmem])
    rw [controlField?_eq hcolumns.1 hcolumns.2 hrest, Option.ite_none_left_eq_some,
      and_iff_right hcolumns, Option.some.injEq, eq_comm (a := f)]
    rfl
  · rw [controlField?_eq_none hcolumns]
    simp [hcolumns]

theorem spells_data_cons_iff {a b c gap i j gap2 : Char} {data : Text} :
    Spells .data (a :: b :: c :: gap :: i :: j :: gap2 :: data) ↔
      ¬isControlTag [a, b, c] ∧ [a, b, c].all isDecimal ∧ isBlank gap ∧ isBlank gap2 := by
  have hlen : 7 ≤ (a :: b :: c :: gap :: i :: j :: gap2 :: data).length := by
    simp only [List.length_cons]
    omega
  rw [isControlTag_iff]
  constructor
  · rintro ⟨htag, hreserved, hgap, hgap2, -⟩
    exact ⟨hreserved, htag, hgap, hgap2⟩
  · rintro ⟨hreserved, htag, hgap, hgap2⟩
    exact ⟨htag, hreserved, hgap, hgap2, hlen⟩

/-- Seven characters fill the columns of a data field. -/
theorem exists_eq_columns (h : 7 ≤ l.length) :
    ∃ a b c gap i j gap2 data, l = a :: b :: c :: gap :: i :: j :: gap2 :: data := by
  rcases l with _ | ⟨a, _ | ⟨b, _ | ⟨c, _ | ⟨gap, _ | ⟨i, _ | ⟨j, _ | ⟨gap2, data⟩⟩⟩⟩⟩⟩⟩
  iterate 7 simp at h
  exact ⟨a, b, c, gap, i, j, gap2, data, rfl⟩

theorem reader_data_eq_some_iff (hnewline : '\n' ∉ l) :
    reader .data l = some f ↔ Spells .data l ∧ f = spelled .data l := by
  rw [reader, Option.ite_none_left_eq_some]
  by_cases hlen : 7 ≤ l.length
  · obtain ⟨a, b, c, gap, i, j, gap2, data, rfl⟩ := exists_eq_columns hlen
    rw [dataField?_eq hnewline, Option.ite_none_right_eq_some, spells_data_cons_iff,
      Option.some.injEq, eq_comm (a := f)]
    exact and_assoc.symm
  · rw [dataField?_eq_none (by omega)]
    simp [Spells, hlen]

/-- Each reader accepts the lines that spell a field of its kind. -/
theorem reader_eq_some_iff (hnewline : '\n' ∉ l) :
    reader kind l = some f ↔ Spells kind l ∧ f = spelled kind l := by
  cases kind with
  | leader =>
    rw [reader, Option.ite_none_right_eq_some, isLeader_trim_iff hnewline, Option.some.injEq,
      eq_comm]
  | control => exact controlField?_eq_some_iff hnewline
  | data => exact reader_data_eq_some_iff hnewline

/-! ### No line is open to two readings -/

/-- The blank behind a tag keeps a line from being a leader. -/
theorem not_spells_leader (hnewline : '\n' ∉ l) (hlen : 5 ≤ l.length)
    (htag : (l.take 3).all isDecimal) (hgap : l[3]?.any isBlank) : ¬Spells .leader l := by
  rcases l with _ | ⟨a, _ | ⟨b, _ | ⟨c, _ | ⟨gap, rest⟩⟩⟩⟩
  iterate 4 simp at hlen
  rw [← isLeader_trim_iff hnewline]
  have ha : isDecimal a := List.all_eq_true.1 htag a List.mem_cons_self
  exact not_isLeader_trim (not_isBlank_of_isDecimal ha) hgap

theorem all_isDecimal_of_mem_controlTags {tag : Text} (h : tag ∈ controlTags) :
    tag.all isDecimal := by
  have hall : ∀ tag ∈ controlTags, tag.all isDecimal := by decide
  exact hall tag h

theorem Spells.not_leader (h : Spells kind l) (hnewline : '\n' ∉ l) (hkind : kind ≠ .leader) :
    ¬Spells .leader l := by
  cases kind with
  | leader => exact absurd rfl hkind
  | control =>
    obtain ⟨htag, hgap, hlen⟩ := h
    exact not_spells_leader hnewline hlen (all_isDecimal_of_mem_controlTags htag) hgap
  | data =>
    obtain ⟨htag, -, hgap, -, hlen⟩ := h
    exact not_spells_leader hnewline (by omega) htag hgap

/-- No line spells fields of two kinds. -/
theorem Spells.unique {kind' : FieldKind} (h : Spells kind l) (h' : Spells kind' l)
    (hnewline : '\n' ∉ l) : kind = kind' := by
  by_contra hne
  by_cases hleader : kind = .leader
  · subst hleader
    exact h'.not_leader hnewline (Ne.symm hne) h
  by_cases hleader' : kind' = .leader
  · subst hleader'
    exact h.not_leader hnewline hleader h'
  -- What is left is a control field and a data field, which the tag tells apart.
  cases kind <;> cases kind'
  case control.data => exact h'.2.1 h.1
  case data.control => exact h.2.1 h'.1
  all_goals contradiction

/-! ### The order of the readings -/

theorem reading?_eq_or (l : Text) :
    reading? l = (reader .leader l).or ((controlField? l).or (dataField? l)) := by
  rw [reading?, reader]
  split <;> rfl

/-- Behind the reading of control fields, their tags need not be kept from data fields. -/
theorem controlField?_or_dataField? (hnewline : '\n' ∉ l) :
    (controlField? l).or (dataField? l) = (reader .control l).or (reader .data l) := by
  change (controlField? l).or (dataField? l) =
    (controlField? l).or (if isControlTag (l.take 3) then none else dataField? l)
  split
  · next htag =>
    cases hcontrol : controlField? l with
    | some g => rfl
    | none =>
      -- A line with columns enough for a data field has content enough for a control field.
      rw [Option.none_or, Option.none_or]
      by_cases hlen : 7 ≤ l.length
      · obtain ⟨a, b, c, gap, i, j, gap2, data, rfl⟩ := exists_eq_columns hlen
        rw [dataField?_eq hnewline, if_neg]
        rintro ⟨-, hgap, -⟩
        have hspells : Spells .control (a :: b :: c :: gap :: i :: j :: gap2 :: data) :=
          spells_control_cons_iff.2 ⟨⟨htag, hgap⟩, by simp⟩
        rw [(controlField?_eq_some_iff hnewline).2 ⟨hspells, rfl⟩] at hcontrol
        cases hcontrol
      · exact dataField?_eq_none (by omega)
  · rfl

theorem reader_eq_none (hnewline : '\n' ∉ l) {kind' : FieldKind} (h : reader kind l = some f)
    (hne : kind' ≠ kind) : reader kind' l = none := by
  rw [Option.eq_none_iff_forall_ne_some]
  intro g hg
  have hspells := ((reader_eq_some_iff hnewline).1 h).1
  have hspells' := ((reader_eq_some_iff hnewline).1 hg).1
  exact hne (hspells'.unique hspells hnewline)

/-- Whichever reader succeeds, it gives the reading of the line. -/
theorem reading?_eq_some_iff_exists (hnewline : '\n' ∉ l) :
    reading? l = some f ↔ ∃ kind, reader kind l = some f := by
  rw [reading?_eq_or, controlField?_or_dataField? hnewline, Option.or_eq_some_iff,
    Option.or_eq_some_iff]
  constructor
  · rintro (h | ⟨-, h | ⟨-, h⟩⟩)
    · exact ⟨.leader, h⟩
    · exact ⟨.control, h⟩
    · exact ⟨.data, h⟩
  · rintro ⟨kind, h⟩
    cases kind with
    | leader => exact Or.inl h
    | control => exact Or.inr ⟨reader_eq_none hnewline h (by decide), Or.inl h⟩
    | data =>
      exact Or.inr ⟨reader_eq_none hnewline h (by decide),
        Or.inr ⟨reader_eq_none hnewline h (by decide), h⟩⟩

/-- The readers can be tried in any order. -/
theorem findSome?_reader_of_perm (hnewline : '\n' ∉ l) {order : List FieldKind}
    (horder : order.Perm [.leader, .control, .data]) :
    (order.findSome? fun kind => reader kind l) = reading? l :=
  FieldKind.findSome?_eq_of_perm (fun _ => reading?_eq_some_iff_exists hnewline) horder

/-! ### What a line is read as -/

/-- A line is read as the field that it spells, and as nothing else. -/
theorem field?_eq_some_iff_spells (hnewline : '\n' ∉ l) :
    field? l number = some f ↔
      ∃ kind, Spells kind l ∧ f = { spelled kind l with line := number, stop := l.length } := by
  rw [field?, Option.map_eq_some_iff]
  constructor
  · rintro ⟨g, hg, rfl⟩
    obtain ⟨kind, hread⟩ := (reading?_eq_some_iff_exists hnewline).1 hg
    obtain ⟨hspells, rfl⟩ := (reader_eq_some_iff hnewline).1 hread
    exact ⟨kind, hspells, rfl⟩
  · rintro ⟨kind, hspells, rfl⟩
    have hread := (reader_eq_some_iff hnewline).2 ⟨hspells, rfl⟩
    exact ⟨_, (reading?_eq_some_iff_exists hnewline).2 ⟨kind, hread⟩, rfl⟩

theorem readsAsSpelled : ReadsAsSpelled field? Spells spelled :=
  ⟨kind_spelled, field?_eq_some_iff_spells⟩

/-- Line mode accepts exactly its grammar. A line without line feeds is read as a field of a kind
    iff it spells one, with the parts that stand in its columns, and any line that spells no field
    is refused. No line spells fields of two kinds, so that the readers can be tried in any order,
    once the tags of control fields are kept from data fields. -/
theorem field?_iff_columns (hnewline : '\n' ∉ l) (number : Int) :
    (∀ kind f, field? l number = some f ∧ f.kind = kind ↔
      Spells kind l ∧ f = { spelled kind l with line := number, stop := l.length }) ∧
    (field? l number = none ↔ ∀ kind, ¬Spells kind l) ∧
    (∀ kind kind', Spells kind l → Spells kind' l → kind = kind') ∧
    ∀ order : List FieldKind, order.Perm [.leader, .control, .data] →
      field? l number = (order.findSome? fun kind => reader kind l).map fun f =>
        { f with line := number, stop := l.length } := by
  refine ⟨readsAsSpelled.kind_iff hnewline, readsAsSpelled.eq_none_iff hnewline, ?_, ?_⟩
  · intro kind kind' h h'
    exact h.unique h' hnewline
  · intro order horder
    rw [findSome?_reader_of_perm hnewline horder]
    rfl

/-- The tag 001 in Arabic-Indic digits is that of a data field, whichever reader is tried first. -/
theorem field?_iff_columns_arabic_indic :
    '\n' ∉ "٠٠١ 1$ $ab".toList ∧ Spells .data "٠٠١ 1$ $ab".toList ∧
      field? "٠٠١ 1$ $ab".toList 3 =
        some { tag := ['٠', '٠', '١'], kind := .data, indicator1 := some ['1']
               indicator2 := some ['$'], line := 3, stop := 10
               subfields := some [{ code := ['a'], content := ['b'], start := 1, stop := 4 }] } ∧
      field? "٠٠١ 1$ $ab".toList 3 =
        ([.data, .control, .leader].findSome? fun kind => reader kind "٠٠١ 1$ $ab".toList).map
          fun f => { f with line := 3, stop := 10 } := by
  have hnewline : '\n' ∉ "٠٠١ 1$ $ab".toList := by decide
  have hspells : Spells .data "٠٠١ 1$ $ab".toList := by
    refine ⟨?_, ?_, ?_, ?_, ?_⟩ <;> decide
  have hcolumns := field?_iff_columns hnewline 3
  exact ⟨hnewline, hspells, ((hcolumns.1 .data _).2 ⟨hspells, by decide⟩).1,
    hcolumns.2.2.2 _ (by decide)⟩

end MarcLens.LineMode

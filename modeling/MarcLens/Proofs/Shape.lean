import MarcLens.Field.Complaint
import MarcLens.Format.Basic
import MarcLens.Proofs.Text

/-!
# The shape of fields that are read

A field that is put together by hand can have any parts. One that is read from a line has a tag of
three characters, its indicators have one character each, and its subfields have codes that are
allowed, whatever the line and in either format.

## Main definitions

- `Field.IsRead`: what all fields have in common that are read from lines

## Main statements

- `Format.isRead_of_field?`: both formats read such fields only
- `Field.IsRead.complaints_eq`: such a field can only lack its subfields
- `Format.writtenTag_isPrefix_of_field?`: the tag of a field stands at the start of its line
-/

namespace MarcLens

/-- Scanning finds subfields with allowed codes only. -/
theorem Subfield.exists_code_of_mem_scanFrom {t : Text} {offset : Nat} {s : Subfield}
    (h : s ∈ scanFrom offset t) : ∃ c, s.code = [c] ∧ isSubfieldCode c := by
  induction t generalizing offset with
  | nil => simp [scanFrom] at h
  | cons c cs ih =>
    rw [scanFrom, List.mem_append, Option.mem_toList] at h
    rcases h with h | h
    · unfold ofMarker? at h
      split at h
      · simp at h
      · next code tail =>
        obtain ⟨⟨-, hcode⟩, h⟩ := Option.ite_none_right_eq_some.1 h
        obtain rfl := Option.some.inj h
        exact ⟨code, rfl, hcode⟩
    · exact ih h

/-- What a field has that is read from a line. -/
structure Field.IsRead (f : Field) : Prop where
  tag : f.tag = ['L', 'D', 'R'] ∨ f.tag.length = 3 ∧ f.tag.all isDecimal
  indicator1 : f.kind = .data → ∃ c, f.indicator1 = some [c]
  indicator2 : f.kind = .data → ∃ c, f.indicator2 = some [c]
  codes : ∀ s ∈ f.subfieldList, ∃ c, s.code = [c] ∧ isSubfieldCode c

namespace Field.IsRead

variable {f : Field}

/-- Where a field stands does not matter. -/
theorem placed (h : f.IsRead) (n stop : Int) : IsRead { f with line := n, stop := stop } :=
  ⟨h.tag, h.indicator1, h.indicator2, h.codes⟩

/-- A leader or control field has no indicators and no subfields. -/
theorem of_content {kind : FieldKind} {tag content : Text}
    (htag : tag = ['L', 'D', 'R'] ∨ tag.length = 3 ∧ tag.all isDecimal) (hkind : kind ≠ .data) :
    IsRead { tag := tag, kind := kind, content := some content } :=
  ⟨htag, fun h => absurd h hkind, fun h => absurd h hkind, by simp [subfieldList]⟩

theorem of_data {tag data : Text} {a b : Char} (hlen : tag.length = 3) (htag : tag.all isDecimal) :
    IsRead { tag := tag, kind := .data, indicator1 := some [a], indicator2 := some [b]
             subfields := some (Subfield.scan data) } :=
  ⟨Or.inr ⟨hlen, htag⟩, fun _ => ⟨a, rfl⟩, fun _ => ⟨b, rfl⟩, fun _ =>
    Subfield.exists_code_of_mem_scanFrom⟩

/-- The only complaint about a field that was read is that it has no subfields. -/
theorem complaints_eq (h : f.IsRead) :
    f.complaints = if f.kind = .data ∧ f.subfieldList = [] then [.noSubfields] else [] := by
  cases hkind : f.kind with
  | leader => simp [complaints, hkind]
  | control => simp [complaints, hkind]
  | data =>
    obtain ⟨a, ha⟩ := h.indicator1 hkind
    obtain ⟨b, hb⟩ := h.indicator2 hkind
    have hcodes : f.subfieldList.filter (fun s => !codeFits s.code) = [] := by
      rw [List.filter_eq_nil_iff]
      intro s hs
      obtain ⟨c, hc, hcode⟩ := h.codes s hs
      simpa [hc, codeFits] using hcode
    simp [complaints, hkind, ha, hb, indicatorFits, hcodes]

/-- The first character of a tag that was read. -/
theorem exists_tag_eq_cons (h : f.IsRead) :
    ∃ c rest, f.tag = c :: rest ∧ (c = 'L' ∨ isDecimal c) := by
  rcases h.tag with htag | ⟨hlen, htag⟩
  · exact ⟨'L', ['D', 'R'], htag, Or.inl rfl⟩
  · match hcons : f.tag with
    | [] => simp [hcons] at hlen
    | c :: rest =>
      rw [hcons, List.all_cons, Bool.and_eq_true] at htag
      exact ⟨c, rest, rfl, Or.inr htag.1⟩

end Field.IsRead

theorem Mrk.exists_indicator (c : Char) : ∃ d, indicator c = [d] := by
  rw [indicator]
  split
  · exact ⟨' ', rfl⟩
  · exact ⟨c, rfl⟩

theorem Mrk.isRead_of_taggedField? {a b c : Char} {rest : Text} {f : Field}
    (h : taggedField? a b c rest = some f) : f.IsRead := by
  rw [taggedField?] at h
  split at h
  · next hldr =>
    obtain ⟨content, -, rfl⟩ := Option.map_eq_some_iff.1 h
    exact .of_content (Or.inl hldr) (by decide)
  · obtain ⟨hdigits, h⟩ := Option.ite_none_right_eq_some.1 h
    have htag : [a, b, c].all isDecimal := by
      simp only [Bool.and_eq_true] at hdigits
      simp [isDecimal_of_isDigit hdigits.1.1, isDecimal_of_isDigit hdigits.1.2,
        isDecimal_of_isDigit hdigits.2]
    split at h
    · obtain ⟨content, -, rfl⟩ := Option.map_eq_some_iff.1 h
      exact .of_content (Or.inr ⟨rfl, htag⟩) (by decide)
    · obtain ⟨⟨i, j, data⟩, -, rfl⟩ := Option.map_eq_some_iff.1 h
      obtain ⟨d, hd⟩ := exists_indicator i
      obtain ⟨e, he⟩ := exists_indicator j
      simp only [hd, he]
      exact .of_data rfl htag

theorem Mrk.isRead_of_field? {l : Text} {n : Int} {f : Field} (h : field? l n = some f) :
    f.IsRead := by
  unfold field? at h
  split at h
  · obtain ⟨g, hg, rfl⟩ := Option.map_eq_some_iff.1 h
    exact (isRead_of_taggedField? hg).placed _ _
  · simp at h

theorem LineMode.all_isDecimal_of_isControlTag {tag : Text} (h : isControlTag tag) :
    tag.length = 3 ∧ tag.all isDecimal := by
  unfold isControlTag at h
  split at h
  · next c =>
    rw [Bool.and_eq_true] at h
    have hzero : isDecimal '0' := rfl
    simp [hzero, isDecimal_of_isDigit h.1]
  · simp at h

theorem LineMode.isRead_of_reading? {l : Text} {f : Field} (h : reading? l = some f) :
    f.IsRead := by
  rw [reading?] at h
  split at h
  · obtain rfl := Option.some.inj h
    exact .of_content (Or.inl rfl) (by decide)
  · rcases Option.or_eq_some_iff.1 h with h | ⟨-, h⟩
    · unfold controlField? at h
      split at h
      · obtain ⟨hcolumns, h⟩ := Option.ite_none_right_eq_some.1 h
        obtain ⟨content, -, rfl⟩ := Option.map_eq_some_iff.1 h
        rw [Bool.and_eq_true] at hcolumns
        exact .of_content (Or.inr (all_isDecimal_of_isControlTag hcolumns.1)) (by decide)
      · simp at h
    · unfold dataField? at h
      split at h
      · obtain ⟨hcolumns, h⟩ := Option.ite_none_right_eq_some.1 h
        obtain ⟨data, -, rfl⟩ := Option.map_eq_some_iff.1 h
        simp only [Bool.and_eq_true] at hcolumns
        exact .of_data rfl hcolumns.1.1.1.1
      · simp at h

theorem Mrk.tag_eq_of_taggedField? {a b c : Char} {rest : Text} {f : Field}
    (h : taggedField? a b c rest = some f) : f.tag = [a, b, c] := by
  rw [taggedField?] at h
  split at h
  · obtain ⟨content, -, rfl⟩ := Option.map_eq_some_iff.1 h
    rfl
  · obtain ⟨-, h⟩ := Option.ite_none_right_eq_some.1 h
    split at h
    · obtain ⟨content, -, rfl⟩ := Option.map_eq_some_iff.1 h
      rfl
    · obtain ⟨data, -, rfl⟩ := Option.map_eq_some_iff.1 h
      rfl

theorem LineMode.tag_of_reading? {l : Text} {f : Field} (h : reading? l = some f) :
    f.tag = ['L', 'D', 'R'] ∨ f.tag <+: l := by
  rw [reading?] at h
  split at h
  · obtain rfl := Option.some.inj h
    exact Or.inl rfl
  · right
    rcases Option.or_eq_some_iff.1 h with h | ⟨-, h⟩
    · unfold controlField? at h
      split at h
      · obtain ⟨-, h⟩ := Option.ite_none_right_eq_some.1 h
        obtain ⟨content, -, rfl⟩ := Option.map_eq_some_iff.1 h
        exact ⟨_, rfl⟩
      · simp at h
    · unfold dataField? at h
      split at h
      · obtain ⟨-, h⟩ := Option.ite_none_right_eq_some.1 h
        obtain ⟨data, -, rfl⟩ := Option.map_eq_some_iff.1 h
        exact ⟨_, rfl⟩
      · simp at h

/-- The tag of a field stands at the start of its line, except for that of a leader in line mode,
    which is not written. -/
theorem Format.writtenTag_isPrefix_of_field? {fmt : Format} {l : Text} {n : Int} {f : Field}
    (hfmt : fmt = .mrk ∨ fmt = .line) (h : fmt.field? l n = some f) :
    fmt.isBareLeader f.tag ∨ fmt.writtenTag f.tag <+: l := by
  rcases hfmt with rfl | rfl
  · right
    change Mrk.field? l n = some f at h
    unfold Mrk.field? at h
    split at h
    · obtain ⟨g, hg, rfl⟩ := Option.map_eq_some_iff.1 h
      rw [writtenTag, Mrk.tag_eq_of_taggedField? hg]
      exact ⟨_, rfl⟩
    · simp at h
  · obtain ⟨g, hg, rfl⟩ := Option.map_eq_some_iff.1 h
    refine (LineMode.tag_of_reading? hg).imp_left ?_
    intro htag
    simp [isBareLeader, htag]

/-- Whatever the line, and in either format, a field that is read has the parts of its kind. -/
theorem Format.isRead_of_field? {fmt : Format} {l : Text} {n : Int} {f : Field}
    (h : fmt.field? l n = some f) : f.IsRead := by
  cases fmt with
  | mrk => exact Mrk.isRead_of_field? h
  | other => exact Mrk.isRead_of_field? h
  | line =>
    obtain ⟨g, hg, rfl⟩ := Option.map_eq_some_iff.1 h
    exact (LineMode.isRead_of_reading? hg).placed _ _

end MarcLens

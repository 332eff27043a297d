import MarcLens.Proofs.Grammar.LineMode
import MarcLens.Proofs.Grammar.Mrk
import MarcLens.Proofs.Grammar.Subfield
import MarcLens.Proofs.LineEnding

/-!
# Canonical lines

A field can be spelled in many ways. Its canonical line has two spaces behind the tag in MRK and
single spaces in line mode, and nothing behind the content of a subfield. Whatever the line was that
a field was read from, its canonical line is read as the same field again, apart from where its
parts stand. Where blanks were given back to be content or an indicator, the canonical line gives
them back at the same place.

## Main definitions

- `Field.canonical`: the canonical line of a field
- `Respells`: one line spells what another does, apart from where the parts stand

## Main statements

- `Subfield.map_withoutSpan_scan_canonical`: canonical subfield data holds the same subfields
- `Text.afterGap_two_spaces`: where the blanks of a canonical line end
- `LineMode.Spells.canonical`, `Mrk.Spells.canonical`: a canonical line spells what the line did
-/

namespace MarcLens

/-! ### Subfields -/

namespace Subfield

variable {t : Text}

/-- A subfield as it is written canonically, with nothing behind its content. -/
def canonical (s : Subfield) : Text := '$' :: (s.code ++ s.content)

/-- A subfield that was found in a text can be written. -/
theorem exists_draft_of_mem_scan (hnewline : '\n' ∉ t) {s : Subfield} (h : s ∈ scan t) :
    ∃ d : Draft.Subfield, s.canonical = d.written ∧
      s.withoutSpan = { code := [d.code], content := d.content } := by
  obtain ⟨code, raw, hcode, hcontent, hallowed, hdollar, hsub⟩ := exists_of_mem_scan h
  have hraw := (Text.trimRight_isPrefix raw).subset
  let d : Draft.Subfield :=
    { code := code, content := Text.trimRight raw, isCode := hallowed
      dollar_notMem := fun hmem => hdollar (hraw hmem)
      newline_notMem := fun hmem => hnewline (hsub (hraw hmem))
      not_endsBlank := Text.not_endsBlank_trimRight raw }
  refine ⟨d, ?_, ?_⟩
  · simp [d, canonical, Draft.Subfield.written, hcode, hcontent]
  · simp [d, withoutSpan, hcode, hcontent]

theorem exists_drafts {ss : List Subfield}
    (h : ∀ s ∈ ss, ∃ d : Draft.Subfield, s.canonical = d.written ∧
      s.withoutSpan = { code := [d.code], content := d.content }) :
    ∃ ds : List Draft.Subfield, ss.flatMap canonical = ds.flatMap Draft.Subfield.written ∧
      ∀ offset, (Draft.Subfield.layout offset ds).map withoutSpan = ss.map withoutSpan := by
  induction ss with
  | nil => exact ⟨[], rfl, fun _ => rfl⟩
  | cons s ss ih =>
    obtain ⟨d, hwritten, hsame⟩ := h s List.mem_cons_self
    obtain ⟨ds, hall, hlayout⟩ := ih fun s hs => h s (List.mem_cons_of_mem _ hs)
    refine ⟨d :: ds, ?_, ?_⟩
    · rw [List.flatMap_cons, List.flatMap_cons, hwritten, hall]
    · intro offset
      rw [Draft.Subfield.layout, List.map_cons, List.map_cons, hlayout, hsame]
      rfl

/-- Canonical subfield data holds the same subfields, also behind a text without dollar signs. -/
theorem map_withoutSpan_scan_canonical (hnewline : '\n' ∉ t) (gap : Text) (hgap : '$' ∉ gap) :
    (scan (gap ++ (scan t).flatMap canonical)).map withoutSpan = (scan t).map withoutSpan := by
  obtain ⟨ds, hwritten, hlayout⟩ := exists_drafts fun s => exists_draft_of_mem_scan hnewline
  rw [hwritten, scan, scanFrom_append_of_dollar_notMem hgap,
    Draft.Subfield.scanFrom_flatMap_written, hlayout]

theorem newline_notMem_flatMap_canonical (hnewline : '\n' ∉ t) :
    '\n' ∉ (scan t).flatMap canonical := by
  obtain ⟨ds, hwritten, -⟩ := exists_drafts fun s => exists_draft_of_mem_scan hnewline
  rw [hwritten]
  exact Draft.Subfield.newline_notMem_flatMap_written ds

end Subfield

/-- The canonical line of a field. -/
def Field.canonical (fmt : Format) (f : Field) : Text :=
  let content := f.content.getD []
  let indicators := f.indicator1.getD [] ++ f.indicator2.getD []
  let data := f.subfieldList.flatMap Subfield.canonical
  match fmt with
  | .line =>
    match f.kind with
    | .leader => content
    | .control => f.tag ++ [' '] ++ content
    | .data => f.tag ++ [' '] ++ indicators ++ [' '] ++ data
  | _ =>
    match f.kind with
    | .leader => ['=', 'L', 'D', 'R', ' ', ' '] ++ content
    | .control => '=' :: f.tag ++ [' ', ' '] ++ content
    | .data => '=' :: f.tag ++ [' ', ' '] ++ indicators ++ data

/-- A line `l'` that spells a field of a kind with the same parts as `l` does, apart from where they
    stand. -/
structure Respells (Spells : FieldKind → Text → Prop) (spelled : FieldKind → Text → Field)
    (kind : FieldKind) (l l' : Text) : Prop where
  newline_notMem : '\n' ∉ l'
  spells : Spells kind l'
  same : (spelled kind l').withoutSpans = (spelled kind l).withoutSpans

/-- Where canonical lines spell what the lines did, they are read as what the lines were. -/
theorem ReadsAsSpelled.map_withoutSpans_canonical {read : Text → Int → Option Field}
    {Spells : FieldKind → Text → Prop} {spelled : FieldKind → Text → Field} {fmt : Format}
    (hreads : ReadsAsSpelled read Spells spelled)
    (hcanonical : ∀ {kind l}, Spells kind l → '\n' ∉ l →
      Respells Spells spelled kind l ((spelled kind l).canonical fmt))
    {l : Text} {n : Int} {f : Field} (hnewline : '\n' ∉ l) (h : read l n = some f) :
    (read (f.canonical fmt) n).map Field.withoutSpans = some f.withoutSpans := by
  obtain ⟨kind, hspells, rfl⟩ := (hreads.eq_some_iff hnewline).1 h
  have hline := hcanonical hspells hnewline
  have hread : read ((spelled kind l).canonical fmt) n = some _ :=
    (hreads.eq_some_iff hline.newline_notMem).2 ⟨kind, hline.spells, rfl⟩
  have hplaced : Field.canonical fmt { spelled kind l with line := n, stop := l.length } =
      (spelled kind l).canonical fmt := rfl
  rw [hplaced, hread]
  exact congrArg (fun g : Field => some { g with line := n }) hline.same

/-! ### Line mode -/

theorem Text.trim_trim (t : Text) : trim (trim t) = trim t := by
  have hleft : ∀ s : Text, trimLeft (trimLeft s) = trimLeft s := fun s =>
    List.dropWhile_idempotent isBlank s
  have hright : ∀ s : Text, trimRight (trimRight s) = trimRight s := fun s =>
    List.rdropWhile_idempotent isBlank s
  calc
    trim (trim t) = trimRight (trimLeft (trimLeft (trimRight t))) := by
      rw [← trimLeft_trimRight t, trim]
    _ = trimLeft (trimRight (trimRight t)) := by rw [hleft, ← trim, trimLeft_trimRight]
    _ = trim t := by rw [hright, trimLeft_trimRight]

namespace LineMode

variable {l : Text} {kind : FieldKind}

/-- The canonical line spells the same field, apart from where its subfields stand. -/
theorem Spells.canonical (h : Spells kind l) (hnewline : '\n' ∉ l) :
    Respells Spells spelled kind l ((spelled kind l).canonical .line) := by
  cases kind with
  | leader =>
    have hcanonical : (spelled .leader l).canonical .line = Text.trim l := rfl
    rw [hcanonical]
    refine ⟨fun hmem => hnewline (Text.mem_of_mem_trim hmem), ?_, ?_⟩
    · rw [Spells, Text.trim_trim]
      exact h
    · rw [spelled, Text.trim_trim]
      rfl
  | control =>
    rcases l with _ | ⟨a, _ | ⟨b, _ | ⟨c, _ | ⟨gap, rest⟩⟩⟩⟩
    iterate 4 simp [Spells] at h
    have hcanonical : (spelled .control (a :: b :: c :: gap :: rest)).canonical .line =
        a :: b :: c :: ' ' :: rest := rfl
    rw [hcanonical]
    rw [spells_control_cons_iff] at h
    refine ⟨?_, spells_control_cons_iff.2 ⟨⟨h.1.1, by decide⟩, h.2⟩, rfl⟩
    simp only [List.mem_cons, not_or] at hnewline ⊢
    obtain ⟨ha, hb, hc, -, hrest⟩ := hnewline
    exact ⟨ha, hb, hc, by decide, hrest⟩
  | data =>
    obtain ⟨a, b, c, gap, i, j, gap2, data, rfl⟩ := exists_eq_columns h.2.2.2.2
    have hdata : '\n' ∉ gap2 :: data := fun hmem =>
      hnewline (List.mem_append_right [a, b, c, gap, i, j] hmem)
    have hcanonical :
        (spelled .data (a :: b :: c :: gap :: i :: j :: gap2 :: data)).canonical .line =
          a :: b :: c :: ' ' :: i :: j :: ' ' ::
            (Subfield.scan (gap2 :: data)).flatMap Subfield.canonical := rfl
    rw [hcanonical]
    rw [spells_data_cons_iff] at h
    refine ⟨?_, spells_data_cons_iff.2 ⟨h.1, h.2.1, by decide, by decide⟩, ?_⟩
    · have hwritten := Subfield.newline_notMem_flatMap_canonical hdata
      simp only [List.mem_cons, not_or] at hnewline ⊢
      obtain ⟨ha, hb, hc, -, hi, hj, -⟩ := hnewline
      exact ⟨ha, hb, hc, by decide, hi, hj, by decide, hwritten⟩
    · have hscan := Subfield.map_withoutSpan_scan_canonical hdata [' '] (by decide)
      simpa [spelled, Field.withoutSpans] using hscan

end LineMode

/-! ### MRK -/

namespace Text

variable {t : Text} {m : Nat}

/-- The two spaces of a canonical line are taken, and no more, if no blank follows them or if all
    that follows them is needed. -/
theorem afterGap_two_spaces (h : m ≤ t.length) (ht : ¬startsBlank t ∨ t.length = m) :
    afterGap m (' ' :: ' ' :: t) = t := by
  have hnone : ¬(1 ≤ t.leadingBlanks ∧ m < t.length) := by
    rcases ht with ht | ht
    · rw [leadingBlanks_eq_zero ht]
      omega
    · omega
  have hspace : m ≤ (' ' :: t).length := by
    rw [List.length_cons]
    omega
  rw [afterGap_cons_of_isBlank (by decide) hspace, afterGap_cons_of_isBlank (by decide) h,
    afterGap_eq_self hnone]

end Text

namespace Mrk

variable {l rest : Text} {kind : FieldKind}

/-- The content of a canonical line is the content that was read. -/
theorem contentBehind_two_spaces (h : 1 ≤ rest.length) :
    contentBehind (' ' :: ' ' :: contentBehind rest) = contentBehind rest := by
  have hne : rest ≠ [] := List.ne_nil_of_length_pos h
  rw [contentBehind_eq_afterGap (List.cons_ne_nil _ _), contentBehind_eq_afterGap hne]
  exact Text.afterGap_two_spaces (Text.le_length_afterGap h) (Text.not_startsBlank_afterGap_or h)

/-- An indicator is kept as a space or as a character that is no blank, and such a character is kept
    as it is. -/
theorem exists_indicator_eq (c : Char) :
    ∃ d, indicator c = [d] ∧ indicator d = [d] ∧ (isBlank d → isBlank c) ∧ d ≠ '\n' := by
  by_cases hc : isBlank c
  · exact ⟨' ', by rw [indicator, if_pos hc], rfl, fun _ => hc, by decide⟩
  · refine ⟨c, by rw [indicator, if_neg hc], by rw [indicator, if_neg hc], id, ?_⟩
    rintro rfl
    exact hc (by decide)

section Parts

variable {a b c i j : Char} {data stuff : Text}

/-- The parts of a data field, by what the blanks leave. -/
theorem spelled_data_eq (h : 2 ≤ rest.length) (hgap : rest.afterGap 2 = i :: j :: data) :
    spelled .data ('=' :: a :: b :: c :: rest) =
      { tag := [a, b, c], kind := .data, indicator1 := some (indicator i)
        indicator2 := some (indicator j), subfields := some (Subfield.scan data) } := by
  obtain ⟨i', j', data', hgap', hfirst, hsecond, hdata⟩ := exists_afterGap_eq h
  obtain ⟨⟩ := hgap.symm.trans hgap'
  change ({ tag := [a, b, c], kind := .data
            indicator1 := rest[indicatorsAt rest]?.map indicator
            indicator2 := rest[indicatorsAt rest + 1]?.map indicator
            subfields := some (Subfield.scan (rest.drop (indicatorsAt rest + 2))) } : Field) = _
  rw [hfirst, hsecond, hdata]
  rfl

/-- The parts of a leader or control field. -/
theorem spelled_content_eq (hkind : kind ≠ .data) :
    spelled kind ('=' :: a :: b :: c :: rest) =
      { tag := [a, b, c], kind := kind, content := some (contentBehind rest) } := by
  cases kind with
  | leader => rfl
  | control => rfl
  | data => exact absurd rfl hkind

/-- Two spaces behind the tag are blanks enough. -/
theorem Spells.two_spaces (h : Spells kind ('=' :: a :: b :: c :: rest))
    (hroom : roomFor kind ≤ stuff.length + 2) :
    Spells kind ('=' :: a :: b :: c :: ' ' :: ' ' :: stuff) := by
  refine ⟨rfl, h.tag, ?_, hroom⟩
  change 1 ≤ Text.leadingBlanks (' ' :: ' ' :: stuff)
  rw [Text.leadingBlanks_cons_of_isBlank (by decide)]
  omega

theorem newline_notMem_two_spaces (hnewline : '\n' ∉ '=' :: a :: b :: c :: rest)
    (hstuff : '\n' ∉ stuff) : '\n' ∉ '=' :: a :: b :: c :: ' ' :: ' ' :: stuff := by
  simp only [List.mem_cons, not_or] at hnewline ⊢
  obtain ⟨he, ha, hb, hc, -⟩ := hnewline
  exact ⟨he, ha, hb, hc, by decide, by decide, hstuff⟩

theorem canonical_content (h : Spells kind ('=' :: a :: b :: c :: rest)) (hkind : kind ≠ .data) :
    (spelled kind ('=' :: a :: b :: c :: rest)).canonical .mrk =
      '=' :: a :: b :: c :: ' ' :: ' ' :: contentBehind rest := by
  cases kind with
  | leader =>
    have htag : [a, b, c] = ['L', 'D', 'R'] := h.tag
    obtain ⟨⟩ := htag
    rfl
  | control => rfl
  | data => exact absurd rfl hkind

/-- The indicators and subfields that a canonical line holds behind its two spaces. They follow a
    blank that was given back only if there are no subfields. -/
theorem exists_canonical_data (h : Spells .data ('=' :: a :: b :: c :: rest))
    (hrest : '\n' ∉ rest) :
    ∃ i j x y data, rest.afterGap 2 = i :: j :: data ∧ '\n' ∉ data ∧
      indicator i = [x] ∧ indicator x = [x] ∧ indicator j = [y] ∧ indicator y = [y] ∧
      x ≠ '\n' ∧ y ≠ '\n' ∧ (isBlank x → data = []) := by
  have hroom : 2 ≤ rest.length := le_trans (by decide) h.room
  obtain ⟨i, j, data, hgap, -⟩ := exists_afterGap_eq hroom
  obtain ⟨x, hx, hxx, hblank, hxn⟩ := exists_indicator_eq i
  obtain ⟨y, hy, hyy, -, hyn⟩ := exists_indicator_eq j
  refine ⟨i, j, x, y, data, hgap, ?_, hx, hxx, hy, hyy, hxn, hyn, ?_⟩
  · intro hmem
    apply hrest
    apply (Text.afterGap_isSuffix 2 rest).subset
    rw [hgap]
    simp [hmem]
  · intro hxb
    have hleft := Text.not_startsBlank_afterGap_or hroom
    rw [hgap] at hleft
    rcases hleft with hleft | hleft
    · exact absurd (hblank hxb) hleft
    · simpa using hleft

end Parts

theorem Spells.canonical_of_ne_data (h : Spells kind l) (hnewline : '\n' ∉ l)
    (hkind : kind ≠ .data) :
    Respells Spells spelled kind l ((spelled kind l).canonical .mrk) := by
  obtain ⟨a, b, c, rest, rfl⟩ := h.exists_eq_cons
  have hroomFor : roomFor kind = 2 := by
    cases kind with
    | leader => rfl
    | control => rfl
    | data => exact absurd rfl hkind
  have hroom : 2 ≤ rest.length := hroomFor ▸ h.room
  have hcontent : '\n' ∉ contentBehind rest := by
    rw [contentBehind_eq_afterGap (List.ne_nil_of_length_pos (by omega))]
    intro hmem
    exact hnewline (List.mem_append_right ['=', a, b, c]
      ((Text.afterGap_isSuffix 1 rest).subset hmem))
  rw [canonical_content h hkind]
  refine ⟨newline_notMem_two_spaces hnewline hcontent, h.two_spaces (by omega), ?_⟩
  rw [spelled_content_eq hkind, spelled_content_eq hkind, contentBehind_two_spaces (by omega)]

theorem Spells.canonical_data (h : Spells .data l) (hnewline : '\n' ∉ l) :
    Respells Spells spelled .data l ((spelled .data l).canonical .mrk) := by
  obtain ⟨a, b, c, rest, rfl⟩ := h.exists_eq_cons
  have hrest : '\n' ∉ rest := fun hmem => hnewline (List.mem_append_right ['=', a, b, c] hmem)
  have hroom : 2 ≤ rest.length := le_trans (by decide) h.room
  obtain ⟨i, j, x, y, data, hgap, hdata, hx, hxx, hy, hyy, hxn, hyn, hblank⟩ :=
    exists_canonical_data h hrest
  have hcanonical : (spelled .data ('=' :: a :: b :: c :: rest)).canonical .mrk =
      '=' :: a :: b :: c :: ' ' :: ' ' :: x :: y ::
        (Subfield.scan data).flatMap Subfield.canonical := by
    rw [spelled_data_eq hroom hgap, hx, hy]
    rfl
  -- The two spaces are not followed by a blank, or by the indicators alone.
  have hleft : Text.afterGap 2 (' ' :: ' ' :: x :: y ::
      (Subfield.scan data).flatMap Subfield.canonical) =
        x :: y :: (Subfield.scan data).flatMap Subfield.canonical := by
    apply Text.afterGap_two_spaces (by simp)
    by_cases hxb : isBlank x
    · right
      rw [hblank hxb]
      rfl
    · exact Or.inl hxb
  rw [hcanonical]
  refine ⟨newline_notMem_two_spaces hnewline ?_, h.two_spaces (by simp [roomFor]), ?_⟩
  · have hwritten := Subfield.newline_notMem_flatMap_canonical hdata
    simp only [List.mem_cons, not_or]
    exact ⟨Ne.symm hxn, Ne.symm hyn, hwritten⟩
  · have hscan := Subfield.map_withoutSpan_scan_canonical hdata [] (by decide)
    rw [spelled_data_eq hroom hgap, spelled_data_eq (by simp) hleft, hx, hy, hxx, hyy]
    simpa [Field.withoutSpans] using hscan

/-- The canonical line spells the same field, apart from where its subfields stand. -/
theorem Spells.canonical (h : Spells kind l) (hnewline : '\n' ∉ l) :
    Respells Spells spelled kind l ((spelled kind l).canonical .mrk) := by
  by_cases hkind : kind = .data
  · subst hkind
    exact h.canonical_data hnewline
  · exact h.canonical_of_ne_data hnewline hkind

end Mrk

/-! ### Both formats -/

namespace Format

/-- Rewriting a line canonically does not change what it means. Whatever line without line feeds a
    field was read from, the canonical line of the field is read as a field with the same tag, kind,
    indicators, content, subfield codes and subfield contents. -/
theorem field?_canonical_same {fmt : Format} {l : Text} {n : Int} {f : Field}
    (hnewline : '\n' ∉ l) (h : fmt.field? l n = some f) :
    (fmt.field? (f.canonical fmt) n).map Field.withoutSpans = some f.withoutSpans := by
  cases fmt with
  | mrk => exact Mrk.readsAsSpelled.map_withoutSpans_canonical Mrk.Spells.canonical hnewline h
  | line =>
    exact LineMode.readsAsSpelled.map_withoutSpans_canonical LineMode.Spells.canonical hnewline h
  | other => exact Mrk.readsAsSpelled.map_withoutSpans_canonical Mrk.Spells.canonical hnewline h

/-- A tab and a single character behind the tag: the blank that is given back to be the first
    indicator is given back by the canonical line as well. -/
theorem field?_canonical_same_given_back :
    let f : Field :=
      { tag := ['2', '4', '5'], kind := .data, indicator1 := some [' '], indicator2 := some ['x']
        subfields := some [], line := 1, stop := 8 }
    '\n' ∉ "=245 \t x".toList ∧ Format.mrk.field? "=245 \t x".toList 1 = some f ∧
      f.canonical .mrk = "=245   x".toList ∧
      (Format.mrk.field? (f.canonical .mrk) 1).map Field.withoutSpans = some f.withoutSpans := by
  intro f
  have hnewline : '\n' ∉ "=245 \t x".toList := by decide
  have hread : Format.mrk.field? "=245 \t x".toList 1 = some f := by decide
  exact ⟨hnewline, hread, by decide, field?_canonical_same hnewline hread⟩

end Format

end MarcLens

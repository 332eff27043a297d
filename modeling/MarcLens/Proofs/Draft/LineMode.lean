import MarcLens.Proofs.Draft.Basic

/-!
# Drafts written in line mode

A draft that is written in line mode is read as it is meant, with any characters as indicators and
digits of any script in its tags: no line with a tag is taken for a leader, and the fixed columns
leave no other reading.
-/

namespace MarcLens.Draft

variable {tag content : Text} {first second : Char} {subfields : List Subfield}

theorem isControlTag_iff : LineMode.isControlTag tag ↔ tag ∈ controlTags := by
  constructor
  · intro h
    unfold LineMode.isControlTag at h
    split at h
    · next c =>
      simp only [Bool.and_eq_true, Char.isDigit_iff_toNat, decide_eq_true_eq, ne_eq,
        ← Char.toNat_inj] at h
      have hzero : '0'.toNat = 0x30 := rfl
      have hnine : '9'.toNat = 0x39 := rfl
      have hcases : c.toNat = '1'.toNat ∨ c.toNat = '2'.toNat ∨ c.toNat = '3'.toNat ∨
          c.toNat = '4'.toNat ∨ c.toNat = '5'.toNat ∨ c.toNat = '6'.toNat ∨
          c.toNat = '7'.toNat ∨ c.toNat = '8'.toNat ∨ c.toNat = '9'.toNat := by
        change c.toNat = 0x31 ∨ c.toNat = 0x32 ∨ c.toNat = 0x33 ∨ c.toNat = 0x34 ∨
          c.toNat = 0x35 ∨ c.toNat = 0x36 ∨ c.toNat = 0x37 ∨ c.toNat = 0x38 ∨ c.toNat = 0x39
        omega
      simp only [Char.toNat_inj] at hcases
      simpa [controlTags] using hcases
    · simp at h
  · have hall : ∀ tag ∈ controlTags, LineMode.isControlTag tag := by decide
    exact hall tag

/-- The characters of a leader that is written in line mode: a digit, and no blank at the end. -/
theorem exists_cons_of_fitsLeader (h : FitsLeader .line content) :
    ∃ c cs, content = c :: cs ∧ isDecimal c ∧ Text.trim content = content := by
  obtain ⟨hlen, -, hdigits, hlast⟩ := h
  cases content with
  | nil => simp at hlen
  | cons c cs =>
    have hc : isDecimal c := List.all_eq_true.1 hdigits c (by simp)
    refine ⟨c, cs, rfl, hc, ?_⟩
    have hblank := not_isBlank_of_isDecimal hc
    rw [Text.trim_cons_of_not_isBlank hblank, ← Text.trimRight_cons_of_not_isBlank hblank,
      Text.trimRight_eq_self hlast]

theorem field?_leaderLine_lineMode (h : FitsLeader .line content) (n : Int) :
    LineMode.field? (leaderLine .line content) n =
      some { leaderField .line content with line := n } := by
  obtain ⟨-, -, -, -, htrim⟩ := exists_cons_of_fitsLeader h
  obtain ⟨hlen, hnewline, hdigits, -⟩ := h
  have hleader : LineMode.isLeader content := by
    simp only [LineMode.isLeader, Bool.and_eq_true, decide_eq_true_eq]
    refine ⟨⟨hlen, hdigits⟩, List.all_eq_true.2 ?_⟩
    intro c hc
    rw [decide_eq_true_eq]
    exact ne_of_mem_of_not_mem (List.mem_of_mem_drop hc) hnewline
  simp only [LineMode.field?, LineMode.reading?, leaderLine, htrim, if_pos hleader]
  rfl

/-- Behind a tag and a space, only control fields and data fields are looked for. -/
theorem reading?_tag_space {a b c : Char} (ha : isDecimal a) (t : Text) :
    LineMode.reading? (a :: b :: c :: ' ' :: t) =
      (LineMode.controlField? (a :: b :: c :: ' ' :: t)).or
        (LineMode.dataField? (a :: b :: c :: ' ' :: t)) := by
  rw [LineMode.reading?]
  exact if_neg (LineMode.not_isLeader_trim (not_isBlank_of_isDecimal ha) (by decide))

theorem controlField?_of_mem {a b c : Char} (htag : [a, b, c] ∈ controlTags) (hne : content ≠ [])
    (hnewline : '\n' ∉ content) :
    LineMode.controlField? (a :: b :: c :: ' ' :: content) =
      some { tag := [a, b, c], kind := .control, content := some content } := by
  have hcolumns : (LineMode.isControlTag [a, b, c] && isBlank ' ') = true := by
    rw [Bool.and_eq_true]
    exact ⟨isControlTag_iff.2 htag, by decide⟩
  rw [LineMode.controlField?, if_pos hcolumns, Text.contentUpToEnd_of_newline_notMem hnewline hne]
  rfl

theorem controlField?_of_notMem {a b c gap : Char} {t : Text} (htag : [a, b, c] ∉ controlTags) :
    LineMode.controlField? (a :: b :: c :: gap :: t) = none := by
  rw [LineMode.controlField?, if_neg]
  intro h
  rw [Bool.and_eq_true] at h
  exact htag (isControlTag_iff.1 h.1)

theorem dataField?_columns {a b c : Char} (htag : [a, b, c].all isDecimal)
    (hfirst : first ≠ '\n') (hsecond : second ≠ '\n') (ss : List Subfield) :
    LineMode.dataField?
        (a :: b :: c :: ' ' :: first :: second :: ' ' :: ss.flatMap Subfield.written) =
      some { tag := [a, b, c], kind := .data, indicator1 := some [first]
             indicator2 := some [second], subfields := some (Subfield.layout 1 ss) } := by
  have hcolumns : ([a, b, c].all isDecimal && isBlank ' ' && decide (first ≠ '\n') &&
      decide (second ≠ '\n') && isBlank ' ') = true := by
    have hspace : isBlank ' ' := by decide
    simp [hspace, hfirst, hsecond, htag]
  have hscan : Subfield.scan (' ' :: ss.flatMap Subfield.written) = Subfield.layout 1 ss := by
    rw [← Subfield.scanFrom_flatMap_written, Subfield.scan, ← List.singleton_append,
      MarcLens.Subfield.scanFrom_append_of_dollar_notMem (by decide)]
    rfl
  rw [LineMode.dataField?, if_pos hcolumns,
    Text.upToEnd_of_newline_notMem (Subfield.newline_notMem_flatMap_written ss), Option.map_some,
    hscan]

theorem field?_line_lineMode {e : Entry} (h : e.Fits .line) (n : Int) :
    LineMode.field? (e.line .line) n = some { e.field .line with line := n } := by
  cases e with
  | control tag content =>
    obtain ⟨htag, hne, hnewline⟩ := h
    obtain ⟨c, -, rfl⟩ := List.mem_map.1 htag
    change (LineMode.reading? ('0' :: '0' :: c :: ' ' :: content)).map _ = _
    rw [reading?_tag_space rfl, controlField?_of_mem htag hne hnewline]
    rfl
  | data tag first second subfields =>
    obtain ⟨hlen, hdigits, htag, hfirst, hsecond, -⟩ := h
    obtain ⟨a, b, c, rfl⟩ := List.length_eq_three.1 hlen
    change (LineMode.reading? (a :: b :: c :: ' ' :: first :: second :: ' ' ::
      subfields.flatMap Subfield.written)).map _ = _
    rw [reading?_tag_space (List.all_eq_true.1 hdigits a (by simp)), controlField?_of_notMem htag,
      dataField?_columns hdigits hfirst hsecond]
    rfl

theorem newline_notMem_line_lineMode {e : Entry} (h : e.Fits .line) : '\n' ∉ e.line .line := by
  cases e with
  | control tag content =>
    obtain ⟨htag, -, hnewline⟩ := h
    have hall : ∀ tag ∈ controlTags, '\n' ∉ tag := by decide
    simp [Entry.line, hall tag htag, hnewline]
  | data tag first second subfields =>
    obtain ⟨-, hdigits, -, hfirst, hsecond, -⟩ := h
    have htag : '\n' ∉ tag := Text.newline_notMem_of_all (by decide) hdigits
    have hdata := Subfield.newline_notMem_flatMap_written subfields
    simp only [Entry.line, List.mem_append, List.mem_cons, List.not_mem_nil, or_false, not_or]
    exact ⟨⟨htag, by decide, hfirst.symm, hsecond.symm, by decide⟩, hdata⟩

/-- The line for an entry starts with the first digit of its tag. -/
theorem exists_line_eq_cons {e : Entry} (h : e.Fits .line) :
    ∃ c t, e.line .line = c :: t ∧ isDecimal c := by
  cases e with
  | control tag content =>
    obtain ⟨c, -, rfl⟩ := List.mem_map.1 h.1
    exact ⟨'0', _, rfl, rfl⟩
  | data tag first second subfields =>
    obtain ⟨a, b, c, rfl⟩ := List.length_eq_three.1 h.1
    exact ⟨a, _, rfl, List.all_eq_true.1 h.2.1 a (by simp)⟩

theorem reads_leaderLine_lineMode (h : FitsLeader .line content) :
    Reads .line (leaderLine .line content) (leaderField .line content) := by
  have hraw := field?_leaderLine_lineMode h
  obtain ⟨c, cs, rfl, hc, -⟩ := exists_cons_of_fitsLeader h
  exact reads_of_start (Or.inr ⟨rfl, hc⟩) h.2.1 hraw hraw rfl

theorem reads_line_lineMode {e : Entry} (h : e.Fits .line) :
    Reads .line (e.line .line) ((e.prepared .line).field .line) := by
  have hraw := field?_line_lineMode h
  have hnewline := newline_notMem_line_lineMode h
  obtain ⟨c, t, ht, hc⟩ := exists_line_eq_cons h
  rw [ht] at hraw hnewline ⊢
  exact reads_of_start (Or.inr ⟨rfl, hc⟩) hnewline hraw hraw (Entry.complaints_field h)

/-- A draft that can be written in line mode is read back from the document. The document is found
    to be in line mode, nothing is wrong with it, and it holds the records of the draft: as they
    were grouped, with their fields, indicators, contents and subfields, and numbered line by
    line. -/
theorem read_write_lineMode {rs : List Record} (h : IsDocument .line rs) :
    Format.detect (write .line rs) = .line ∧ Diagnostic.ofDocument (write .line rs) = [] ∧
      Document.records .line (write .line rs) = records .line rs :=
  h.read_write (fun _ => reads_leaderLine_lineMode) (fun _ => reads_line_lineMode)

/-- A draft with blank indicators, a tag in Arabic-Indic digits, a control field with nothing but
    blanks, and blanks behind subfields. -/
theorem read_write_lineMode_sample :
    let rs : List Record :=
      [{ entries := [.control ['0', '0', '5'] [' ', ' '],
          .data ['٢', '٤', '٥'] ' ' '$'
            [{ code := 'a', content := ['T', ' ', 'i'], pad := [' ', '\t'] },
              { code := '9', content := [], pad := [' '] }]] },
        { leader := some "00000nam a2200000 a 4500".toList }]
    IsDocument .line rs ∧
      write .line rs = "005   \n٢٤٥  $ $aT i \t$9 \n00000nam a2200000 a 4500".toList ∧
      Format.detect (write .line rs) = .line ∧ Diagnostic.ofDocument (write .line rs) = [] ∧
      Document.records .line (write .line rs) = records .line rs := by
  intro rs
  have h : IsDocument .line rs := by
    refine ⟨?_, ?_, ?_, ?_, ?_⟩
    all_goals decide
  exact ⟨h, by decide, read_write_lineMode h⟩

end MarcLens.Draft

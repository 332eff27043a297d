import MarcLens.Proofs.Draft.Basic

/-!
# Drafts written in MRK

A draft that is written in MRK is read as it is meant, whatever blanks follow its subfields: the
leader and control fields because their content starts with no blank, data fields because their
first indicator is none.
-/

namespace MarcLens

namespace Draft

variable {tag content : Text} {first second : Char} {subfields : List Subfield}

/-- Two spaces in front of a character that is no blank are taken together. -/
theorem afterBlanks_two_spaces {α : Type} {accept : Text → Option α} {c : Char} {t : Text}
    (hc : ¬isBlank c) (h : (accept (c :: t)).isSome) :
    Text.afterBlanks accept (' ' :: ' ' :: c :: t) = accept (c :: t) := by
  obtain ⟨a, ha⟩ := Option.isSome_iff_exists.1 h
  have hspace : isBlank ' ' := by decide
  simp [Text.afterBlanks, hspace, hc, ha]

theorem contentField?_two_spaces (kind : FieldKind) (tag : Text) (hne : content ≠ [])
    (hnewline : '\n' ∉ content) (hhead : ¬content.startsBlank) :
    Mrk.contentField? kind tag (' ' :: ' ' :: content) =
      some { tag := tag, kind := kind, content := some content } := by
  obtain ⟨c, cs, rfl⟩ := List.exists_cons_of_ne_nil hne
  have haccept := Text.contentUpToEnd_of_newline_notMem hnewline hne
  have hblanks := afterBlanks_two_spaces hhead (Option.isSome_of_mem haccept)
  rw [Mrk.contentField?, hblanks, haccept]
  rfl

theorem indicator_eq (h : ¬isBlank second ∨ second = ' ') : Mrk.indicator second = [second] := by
  rcases h with h | rfl
  · rw [Mrk.indicator, if_neg h]
  · rfl

theorem ne_newline_of_indicator (h : ¬isBlank second ∨ second = ' ') : second ≠ '\n' := by
  rintro rfl
  exact absurd h (by decide)

theorem dataField?_two_spaces (tag : Text) (hfirst : ¬isBlank first)
    (hsecond : ¬isBlank second ∨ second = ' ') (ss : List Subfield) :
    Mrk.dataField? tag (' ' :: ' ' :: first :: second :: ss.flatMap Subfield.written) =
      some { tag := tag, kind := .data, indicator1 := some [first], indicator2 := some [second]
             subfields := some (Subfield.layout 0 ss) } := by
  have haccept : Mrk.indicatorsAndData (first :: second :: ss.flatMap Subfield.written) =
      some (first, second, ss.flatMap Subfield.written) := by
    rw [Mrk.indicatorsAndData,
      if_neg (not_or.2 ⟨ne_newline_of_indicator (Or.inl hfirst), ne_newline_of_indicator hsecond⟩),
      Text.upToEnd_of_newline_notMem (Subfield.newline_notMem_flatMap_written ss)]
    rfl
  have hblanks := afterBlanks_two_spaces hfirst (Option.isSome_of_mem haccept)
  rw [Mrk.dataField?, hblanks, haccept, Option.map_some]
  simp only [indicator_eq (Or.inl hfirst), indicator_eq hsecond, Subfield.scan,
    Subfield.scanFrom_flatMap_written]

theorem field?_leaderLine_mrk (h : FitsLeader .mrk content) (n : Int) :
    Mrk.field? (leaderLine .mrk content) n = some { leaderField .mrk content with line := n } := by
  obtain ⟨hne, hnewline, hhead, -⟩ := h
  change (Mrk.contentField? .leader ['L', 'D', 'R'] (' ' :: ' ' :: content)).map _ = _
  rw [contentField?_two_spaces .leader _ hne hnewline hhead]
  rfl

theorem field?_line_mrk {e : Entry} (h : e.Fits .mrk) (n : Int) :
    Mrk.field? (e.line .mrk) n = some { e.field .mrk with line := n } := by
  cases e with
  | control tag content =>
    obtain ⟨hlen, hdigits, hlt, hne, hnewline, hhead, -⟩ := h
    obtain ⟨a, b, c, rfl⟩ := List.length_eq_three.1 hlen
    change (Mrk.taggedField? a b c (' ' :: ' ' :: content)).map _ = _
    rw [Mrk.taggedField?_of_digits hdigits, if_pos hlt,
      contentField?_two_spaces .control _ hne hnewline hhead]
    rfl
  | data tag first second subfields =>
    obtain ⟨hlen, hdigits, hge, hfirst, hsecond, -⟩ := h
    obtain ⟨a, b, c, rfl⟩ := List.length_eq_three.1 hlen
    change (Mrk.taggedField? a b c
      (' ' :: ' ' :: first :: second :: subfields.flatMap Subfield.written)).map _ = _
    rw [Mrk.taggedField?_of_digits hdigits, if_neg hge, dataField?_two_spaces _ hfirst hsecond]
    rfl

/-- Trimming the line for a leader changes nothing. -/
theorem trim_leaderLine_mrk (h : FitsLeader .mrk content) :
    Text.trim (leaderLine .mrk content) = leaderLine .mrk content := by
  obtain ⟨hne, -, hhead, hlast⟩ := h
  rw [leaderLine,
    Text.trim_cons_append (by decide) _ (Text.not_isVoid_of_not_startsBlank hne hhead),
    Text.trimRight_eq_self hlast]
  simp

theorem trim_line_mrk {e : Entry} (h : e.Fits .mrk) :
    Text.trim (e.line .mrk) = (e.prepared .mrk).line .mrk := by
  cases e with
  | control tag content =>
    obtain ⟨-, -, -, hne, -, hhead, hlast⟩ := h
    change Text.trim ('=' :: (tag ++ [' ', ' ']) ++ content) = '=' :: (tag ++ [' ', ' ']) ++ content
    rw [Text.trim_cons_append (by decide) _ (Text.not_isVoid_of_not_startsBlank hne hhead),
      Text.trimRight_eq_self hlast]
  | data tag first second subfields =>
    obtain ⟨-, -, -, -, -, hne⟩ := h
    change Text.trim ('=' :: (tag ++ [' ', ' ', first, second]) ++
      subfields.flatMap Subfield.written) = '=' :: (tag ++ [' ', ' ', first, second]) ++
      (Subfield.bareEnd subfields).flatMap Subfield.written
    rw [Text.trim_cons_append (by decide) _ (Subfield.not_isVoid_flatMap_written hne),
      Subfield.trimRight_flatMap_written]

theorem Entry.Fits.prepared_mrk {e : Entry} (h : e.Fits .mrk) : (e.prepared .mrk).Fits .mrk := by
  cases e with
  | control tag content => exact h
  | data tag first second subfields =>
    obtain ⟨hlen, hdigits, hge, hfirst, hsecond, hne⟩ := h
    exact ⟨hlen, hdigits, hge, hfirst, hsecond, Subfield.bareEnd_ne_nil hne⟩

theorem newline_notMem_leaderLine_mrk (h : FitsLeader .mrk content) :
    '\n' ∉ leaderLine .mrk content := by
  simpa [leaderLine] using h.2.1

theorem newline_notMem_line_mrk {e : Entry} (h : e.Fits .mrk) : '\n' ∉ e.line .mrk := by
  cases e with
  | control tag content =>
    obtain ⟨-, hdigits, -, -, hnewline, -⟩ := h
    have htag : '\n' ∉ tag := Text.newline_notMem_of_all (by decide) hdigits
    simp [Entry.line, htag, hnewline]
  | data tag first second subfields =>
    obtain ⟨-, hdigits, -, hfirst, hsecond, -⟩ := h
    have htag : '\n' ∉ tag := Text.newline_notMem_of_all (by decide) hdigits
    have hdata := Subfield.newline_notMem_flatMap_written subfields
    have hfirst := ne_newline_of_indicator (Or.inl hfirst)
    have hsecond := ne_newline_of_indicator hsecond
    simp only [Entry.line, List.mem_append, List.mem_cons, List.not_mem_nil, or_false, not_or]
    exact ⟨⟨⟨by decide, htag⟩, by decide, by decide, hfirst.symm, hsecond.symm⟩, hdata⟩

theorem reads_leaderLine_mrk (h : FitsLeader .mrk content) :
    Reads .mrk (leaderLine .mrk content) (leaderField .mrk content) := by
  refine reads_of_start (Or.inl ⟨rfl, rfl⟩) (newline_notMem_leaderLine_mrk h) ?_
    (field?_leaderLine_mrk h) rfl
  intro n
  change Mrk.field? (Text.trim (leaderLine .mrk content)) n = _
  rw [trim_leaderLine_mrk h, field?_leaderLine_mrk h]

theorem reads_line_mrk {e : Entry} (h : e.Fits .mrk) :
    Reads .mrk (e.line .mrk) ((e.prepared .mrk).field .mrk) := by
  -- The line is read without the blanks at its end, but judged with them.
  have hread : ∀ n, Format.field? .mrk (Format.prepare .mrk (e.line .mrk)) n =
      some { (e.prepared .mrk).field .mrk with line := n } := by
    intro n
    change Mrk.field? (Text.trim (e.line .mrk)) n = _
    rw [trim_line_mrk h, field?_line_mrk h.prepared_mrk]
  have hcons : ∃ t, e.line .mrk = '=' :: t := by cases e <;> exact ⟨_, rfl⟩
  obtain ⟨t, ht⟩ := hcons
  have hnewline := newline_notMem_line_mrk h
  have hraw := field?_line_mrk h
  rw [ht] at hread hnewline hraw ⊢
  exact reads_of_start (Or.inl ⟨rfl, rfl⟩) hnewline hread hraw (Entry.complaints_field h)

/-- A draft that can be written in MRK is read back from the document. The document is found to be
    in MRK, nothing is wrong with it, and it holds the records of the draft: as they were grouped,
    with their fields, indicators, contents and subfields, and numbered line by line. -/
theorem read_write_mrk {rs : List Record} (h : IsDocument .mrk rs) :
    Format.detect (write .mrk rs) = .mrk ∧ Diagnostic.ofDocument (write .mrk rs) = [] ∧
      Document.records .mrk (write .mrk rs) = records .mrk rs :=
  h.read_write (fun _ => reads_leaderLine_mrk) (fun _ => reads_line_mrk)

/-- A draft whose first record lacks a leader, with a second indicator that is blank, a subfield
    without content and blanks behind subfields. -/
theorem read_write_mrk_sample :
    let rs : List Record :=
      [{ entries := [.control ['0', '0', '1'] ['o', 'c', 'm'],
          .data ['2', '4', '5'] '1' ' '
            [{ code := 'a', content := ['T', ' ', 'i'], pad := [' ', '\t'] },
              { code := 'b', content := [], pad := [' '] }]] },
        { leader := some ['0', '0', 'n'] }]
    IsDocument .mrk rs ∧
      write .mrk rs = "=001  ocm\n=245  1 $aT i \t$b \n=LDR  00n".toList ∧
      Format.detect (write .mrk rs) = .mrk ∧ Diagnostic.ofDocument (write .mrk rs) = [] ∧
      Document.records .mrk (write .mrk rs) = records .mrk rs := by
  intro rs
  have h : IsDocument .mrk rs := by
    refine ⟨?_, ?_, ?_, ?_, ?_⟩
    all_goals decide
  exact ⟨h, by decide, read_write_mrk h⟩

end Draft

end MarcLens

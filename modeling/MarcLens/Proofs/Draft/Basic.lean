import MarcLens.Diagnostic
import MarcLens.Proofs.Draft.Subfield
import MarcLens.Proofs.Grouping
import MarcLens.Proofs.Reading
import Mathlib.Data.List.Forall2

/-!
# Drafts of records

A draft of records is written as a document in either format, one entry a line. If every line is
read as it is meant and found to be in order, then so is the whole document.

## Main definitions

- `Draft.Entry`, `Draft.Record`: what is to be written
- `Draft.write`: the document that holds a draft
- `Draft.IsDocument`: drafts that can be written in a format
- `Draft.records`: the records that a written draft stands for
- `Draft.Reads`: a line that is in order, and the field on it
-/

namespace MarcLens.Draft

/-- A field other than the leader, as it is to be written. -/
inductive Entry where
  | control (tag content : Text)
  | data (tag : Text) (first second : Char) (subfields : List Subfield)

/-- A record to be written, with the content of its leader. -/
structure Record where
  leader : Option Text := none
  entries : List Entry := []

/-- The line for a leader. In line mode it stands alone. -/
def leaderLine : Format → Text → Text
  | .line, content => content
  | _, content => ['=', 'L', 'D', 'R', ' ', ' '] ++ content

/-- The line for an entry. -/
def Entry.line : Format → Entry → Text
  | .line, control tag content => tag ++ [' '] ++ content
  | .line, data tag first second subfields =>
    tag ++ [' ', first, second, ' '] ++ subfields.flatMap Subfield.written
  | _, control tag content => '=' :: tag ++ [' ', ' '] ++ content
  | _, data tag first second subfields =>
    '=' :: tag ++ [' ', ' ', first, second] ++ subfields.flatMap Subfield.written

def Record.lines (fmt : Format) (r : Record) : List Text :=
  r.leader.toList.map (leaderLine fmt) ++ r.entries.map (Entry.line fmt)

/-- The document that holds the records. -/
def write (fmt : Format) (rs : List Record) : Text :=
  ['\n'].intercalate (rs.flatMap (Record.lines fmt))

/-- The tags 001 to 009. -/
def controlTags : List Text :=
  ['1', '2', '3', '4', '5', '6', '7', '8', '9'].map fun c => ['0', '0', c]

/-- The contents that a leader can have in a format. -/
def FitsLeader : Format → Text → Prop
  | .line, content =>
    content.length = 24 ∧ '\n' ∉ content ∧ (content.take 5).all isDecimal ∧ ¬content.endsBlank
  | _, content => content ≠ [] ∧ '\n' ∉ content ∧ ¬content.startsBlank ∧ ¬content.endsBlank

/-- The entries that can be written in a format. -/
def Entry.Fits : Format → Entry → Prop
  | .line, control tag content => tag ∈ controlTags ∧ content ≠ [] ∧ '\n' ∉ content
  | .line, data tag first second subfields =>
    tag.length = 3 ∧ tag.all isDecimal ∧ tag ∉ controlTags ∧ first ≠ '\n' ∧ second ≠ '\n' ∧
      subfields ≠ []
  | _, control tag content =>
    tag.length = 3 ∧ tag.all Char.isDigit ∧ tag < ['0', '1', '0'] ∧ content ≠ [] ∧
      '\n' ∉ content ∧ ¬content.startsBlank ∧ ¬content.endsBlank
  | _, data tag first second subfields =>
    tag.length = 3 ∧ tag.all Char.isDigit ∧ ¬tag < ['0', '1', '0'] ∧ ¬isBlank first ∧
      (¬isBlank second ∨ second = ' ') ∧ subfields ≠ []

/-- Records that can be written in a format, one after the other: there are some, none is empty,
    and only the first can lack a leader. -/
structure IsDocument (fmt : Format) (rs : List Record) : Prop where
  ne_nil : rs ≠ []
  nonempty : ∀ r ∈ rs, r.leader.isSome ∨ r.entries ≠ []
  led : ∀ r ∈ rs.tail, r.leader.isSome
  fitsLeader : ∀ r ∈ rs, ∀ content ∈ r.leader, FitsLeader fmt content
  fits : ∀ r ∈ rs, ∀ e ∈ r.entries, e.Fits fmt

instance (fmt : Format) (content : Text) : Decidable (FitsLeader fmt content) :=
  match fmt with
  | .line => inferInstanceAs (Decidable (_ ∧ _))
  | .mrk => inferInstanceAs (Decidable (_ ∧ _))
  | .other => inferInstanceAs (Decidable (_ ∧ _))

instance (fmt : Format) (e : Entry) : Decidable (e.Fits fmt) :=
  match fmt, e with
  | .line, .control .. => inferInstanceAs (Decidable (_ ∧ _))
  | .line, .data .. => inferInstanceAs (Decidable (_ ∧ _))
  | .mrk, .control .. => inferInstanceAs (Decidable (_ ∧ _))
  | .mrk, .data .. => inferInstanceAs (Decidable (_ ∧ _))
  | .other, .control .. => inferInstanceAs (Decidable (_ ∧ _))
  | .other, .data .. => inferInstanceAs (Decidable (_ ∧ _))

/-- The leader that stands on a leader line. -/
def leaderField (fmt : Format) (content : Text) : Field :=
  { tag := ['L', 'D', 'R'], kind := .leader, content := some content
    stop := (leaderLine fmt content).length }

/-- The field that stands on the line for an entry. In line mode the blank behind the indicators
    counts as subfield data. -/
def Entry.field (fmt : Format) (e : Entry) : Field :=
  match e with
  | control tag content =>
    { tag := tag, kind := .control, content := some content, stop := (e.line fmt).length }
  | data tag first second subfields =>
    { tag := tag, kind := .data, indicator1 := some [first], indicator2 := some [second]
      subfields := some (Subfield.layout (if fmt = .line then 1 else 0) subfields)
      stop := (e.line fmt).length }

/-- An entry as the reader of a whole document finds it: in MRK the blanks at the end of the line
    are gone. -/
def Entry.prepared : Format → Entry → Entry
  | .line, e => e
  | _, control tag content => control tag content
  | _, data tag first second subfields => data tag first second (Subfield.bareEnd subfields)

/-- Fields on successive lines, of which the first has number `n`. -/
def numbered (n : Nat) (fs : List Field) : List Field :=
  (fs.zipIdx n).map fun (f, i) => { f with line := i }

/-- The record that is written from line `n` on. -/
def Record.placed (fmt : Format) (n : Nat) (r : Record) : MarcLens.Record where
  leader := r.leader.map fun content => { leaderField fmt content with line := n }
  fields := numbered (n + r.leader.toList.length)
    (r.entries.map fun e => (e.prepared fmt).field fmt)

/-- The records that are written from line `n` on. -/
def recordsFrom (fmt : Format) (n : Nat) : List Record → List MarcLens.Record
  | [] => []
  | r :: rs => r.placed fmt n :: recordsFrom fmt (n + (r.lines fmt).length) rs

/-- The records that a document written from a draft holds. -/
def records (fmt : Format) (rs : List Record) : List MarcLens.Record := recordsFrom fmt 1 rs

section Numbering

variable {n : Nat} {fs gs : List Field} {rs : List Record}

theorem numbered_append : numbered n (fs ++ gs) = numbered n fs ++ numbered (n + fs.length) gs := by
  simp [numbered, List.zipIdx_append]

/-- The fields of a record in the order of its lines, apart from where they stand. -/
def Record.fields (fmt : Format) (r : Record) : List Field :=
  r.leader.toList.map (leaderField fmt) ++ r.entries.map fun e => (e.prepared fmt).field fmt

theorem Record.length_fields (fmt : Format) (r : Record) :
    (r.fields fmt).length = (r.lines fmt).length := by
  simp [fields, lines]

theorem Record.toList_placed (fmt : Format) (n : Nat) (r : Record) :
    (r.placed fmt n).toList = numbered n (r.fields fmt) := by
  rw [fields, numbered_append, List.length_map]
  cases hleader : r.leader <;> simp [placed, MarcLens.Record.toList, hleader, numbered]

/-- Record by record or line by line, the fields get the same numbers. -/
theorem flatMap_toList_recordsFrom (fmt : Format) (n : Nat) (rs : List Record) :
    (recordsFrom fmt n rs).flatMap MarcLens.Record.toList =
      numbered n (rs.flatMap (Record.fields fmt)) := by
  induction rs generalizing n with
  | nil => rfl
  | cons r rs ih =>
    rw [recordsFrom, List.flatMap_cons, List.flatMap_cons, numbered_append, r.toList_placed, ih,
      r.length_fields]

theorem kind_ne_leader_of_mem_numbered (h : ∀ f ∈ fs, f.kind ≠ .leader) :
    ∀ f ∈ numbered n fs, f.kind ≠ .leader := by
  intro f hf
  obtain ⟨⟨g, i⟩, hg, rfl⟩ := List.mem_map.1 hf
  exact h g (List.fst_mem_of_mem_zipIdx hg)

theorem Entry.kind_field_ne_leader (fmt : Format) (e : Entry) : (e.field fmt).kind ≠ .leader := by
  cases e <;> simp [field]

theorem Record.isProper_placed (fmt : Format) (n : Nat) (r : Record) :
    (r.placed fmt n).IsProper where
  leader := by
    intro f hf
    obtain ⟨content, -, rfl⟩ := Option.map_eq_some_iff.1 hf
    rfl
  fields := by
    apply kind_ne_leader_of_mem_numbered
    intro f hf
    obtain ⟨e, -, rfl⟩ := List.mem_map.1 hf
    exact Entry.kind_field_ne_leader fmt _

theorem Record.isSome_leader_placed (fmt : Format) (n : Nat) (r : Record) :
    (r.placed fmt n).leader.isSome = r.leader.isSome := by
  simp [placed]

theorem Record.fields_placed_ne_nil (fmt : Format) (n : Nat) {r : Record} (h : r.entries ≠ []) :
    (r.placed fmt n).fields ≠ [] := by
  simpa [placed, numbered] using h

/-- Every placed record comes from a record of the draft. -/
theorem exists_placed_of_mem_recordsFrom {fmt : Format} {r : MarcLens.Record}
    (h : r ∈ recordsFrom fmt n rs) : ∃ s ∈ rs, ∃ m, r = s.placed fmt m := by
  induction rs generalizing n with
  | nil => simp [recordsFrom] at h
  | cons s rs ih =>
    rcases List.mem_cons.1 h with rfl | h
    · exact ⟨s, by simp, n, rfl⟩
    · obtain ⟨t, ht, m, rfl⟩ := ih h
      exact ⟨t, by simp [ht], m, rfl⟩

theorem IsDocument.wellGrouped_records {fmt : Format} (h : IsDocument fmt rs) :
    MarcLens.Record.WellGrouped (records fmt rs) where
  proper := by
    intro r hr
    obtain ⟨s, -, m, rfl⟩ := exists_placed_of_mem_recordsFrom hr
    exact s.isProper_placed fmt m
  nonempty := by
    intro r hr
    obtain ⟨s, hs, m, rfl⟩ := exists_placed_of_mem_recordsFrom hr
    rw [s.isSome_leader_placed]
    exact (h.nonempty s hs).imp_right (Record.fields_placed_ne_nil fmt m)
  led := by
    intro r hr
    cases rs with
    | nil => simp [records, recordsFrom] at hr
    | cons s rs =>
      obtain ⟨t, ht, m, rfl⟩ := exists_placed_of_mem_recordsFrom hr
      rw [t.isSome_leader_placed]
      exact h.led t ht

end Numbering

section Reading

variable {fmt : Format} {ls : List Text} {fs : List Field} {rs : List Record}

/-- A line that is in order, and the field that is read from it within a document. -/
structure Reads (fmt : Format) (l : Text) (f : Field) : Prop where
  newline_notMem : '\n' ∉ l
  not_isVoid : ¬Text.isVoid l
  detected : fmt = if (Text.trim l).head? = some '=' then .mrk else .line
  read : ∀ n, fmt.field? (fmt.prepare l) n = some { f with line := n }
  verdict : ∀ n, Diagnostic.verdict fmt l n = []

/-- A line is in order if it starts the way its format wants, and if the field on it is none to
    complain about. -/
theorem reads_of_start {c : Char} {t : Text} {f g : Field}
    (hstart : fmt = .mrk ∧ c = '=' ∨ fmt = .line ∧ isDecimal c) (hnewline : '\n' ∉ c :: t)
    (hread : ∀ n, fmt.field? (fmt.prepare (c :: t)) n = some { f with line := n })
    (hraw : ∀ n, fmt.field? (c :: t) n = some { g with line := n }) (hg : g.complaints = []) :
    Reads fmt (c :: t) f := by
  have hc : ¬isBlank c := by
    rcases hstart with ⟨-, rfl⟩ | ⟨-, hc⟩
    · decide
    · exact not_isBlank_of_isDecimal hc
  have hhead : (Text.trim (c :: t)).head? = some c := by
    rw [Text.trim_cons_of_not_isBlank hc]
    rfl
  have hlooks : fmt.looksLikeField (c :: t) := by
    rcases hstart with ⟨rfl, rfl⟩ | ⟨rfl, hc⟩
    · exact Mrk.looksLikeField_equals t
    · exact LineMode.looksLikeField_of_isDecimal hc
  refine ⟨hnewline, ?_, ?_, hread, ?_⟩
  · intro hvoid
    exact hc (Text.isVoid_iff.1 hvoid c List.mem_cons_self)
  · rw [hhead]
    rcases hstart with ⟨rfl, rfl⟩ | ⟨rfl, hc⟩
    · rfl
    · rw [if_neg]
      rintro ⟨⟩
      exact absurd hc (by decide)
  · intro n
    have hcomplaints : ({ g with line := n + 1 } : Field).complaints = g.complaints := rfl
    rw [Diagnostic.verdict, if_pos hlooks, hraw]
    simp only [hcomplaints, hg, List.map_nil]

/-- Nothing is wrong with an entry that can be written. -/
theorem Entry.complaints_field {e : Entry} (h : e.Fits fmt) : (e.field fmt).complaints = [] := by
  cases e with
  | control tag content => rfl
  | data tag first second subfields =>
    have hne : subfields ≠ [] := by cases fmt <;> exact h.2.2.2.2.2
    obtain ⟨s, ss, rfl⟩ := List.exists_cons_of_ne_nil hne
    have hcode : codeFits [s.code] := s.isCode
    have hcodes : ∀ offset, ∀ t ∈ Subfield.layout offset ss, codeFits t.code := fun _ =>
      Subfield.codeFits_of_mem_layout
    simpa [field, Field.complaints, Field.subfieldList, indicatorFits, Subfield.layout]
      using ⟨hcode, hcodes _⟩

/-- Lines that are in order are read one by one. -/
theorem filterMap_field?_of_reads (h : List.Forall₂ (Reads fmt) ls fs) (n : Nat) :
    ((ls.zipIdx n).filter fun (l, _) => !Text.isVoid l).filterMap
      (fun (l, i) => fmt.field? (fmt.prepare l) i) = numbered n fs := by
  induction h generalizing n with
  | nil => rfl
  | @cons l f ls fs hl _ ih =>
    rw [List.zipIdx_cons, List.filter_cons_of_pos (by simpa using hl.not_isVoid),
      List.filterMap_cons]
    simp only [hl.read n, ih]
    rfl

theorem fields_of_reads {document : Text} (h : List.Forall₂ (Reads fmt) document.lines fs) :
    Document.fields fmt document = numbered 1 fs := by
  rw [Document.fields_eq_filterMap, Document.numberedLines, filterMap_field?_of_reads h]

/-- The first line tells the format. -/
theorem detect_of_reads {document l : Text} {f : Field} (hl : document.lines = l :: ls)
    (h : Reads fmt l f) : Format.detect document = fmt := by
  rw [Format.detect, hl, List.find?_cons_of_pos (by simpa using h.not_isVoid)]
  exact h.detected.symm

theorem ofDocument_of_reads {document : Text} (hfmt : Format.detect document = fmt)
    (h : ∀ l ∈ document.lines, ∃ f, Reads fmt l f) : Diagnostic.ofDocument document = [] := by
  rw [Diagnostic.ofDocument, hfmt, List.flatMap_eq_nil_iff]
  rintro ⟨l, i⟩ hmem
  obtain ⟨f, hf⟩ := h l (List.fst_mem_of_mem_zipIdx hmem)
  simp [Diagnostic.ofLine, hf.verdict]

theorem exists_reads_of_mem (h : List.Forall₂ (Reads fmt) ls fs) {l : Text} (hl : l ∈ ls) :
    ∃ f, Reads fmt l f := by
  induction h with
  | nil => simp at hl
  | cons hf _ ih =>
    rcases List.mem_cons.1 hl with rfl | hl
    · exact ⟨_, hf⟩
    · exact ih hl

theorem IsDocument.flatMap_lines_ne_nil (h : IsDocument fmt rs) :
    rs.flatMap (Record.lines fmt) ≠ [] := by
  obtain ⟨r, rs, rfl⟩ := List.exists_cons_of_ne_nil h.ne_nil
  have hr := h.nonempty r (by simp)
  cases hleader : r.leader <;> simp_all [Record.lines]

/-- If every leader and every entry that can be written is read as it is meant, then so is every
    document: its format is found, nothing is wrong with it, and it holds the records that were
    written. -/
theorem IsDocument.read_write (h : IsDocument fmt rs)
    (hleader : ∀ content, FitsLeader fmt content →
      Reads fmt (leaderLine fmt content) (leaderField fmt content))
    (hentry : ∀ e : Entry, e.Fits fmt → Reads fmt (e.line fmt) ((e.prepared fmt).field fmt)) :
    Format.detect (write fmt rs) = fmt ∧ Diagnostic.ofDocument (write fmt rs) = [] ∧
      Document.records fmt (write fmt rs) = records fmt rs := by
  -- Line by line, the lines of a record are read as its fields, and so are those of the document.
  have hrecord : ∀ r ∈ rs, List.Forall₂ (Reads fmt) (r.lines fmt) (r.fields fmt) := by
    intro r hr
    apply List.rel_append
    · rw [List.forall₂_map_left_iff, List.forall₂_map_right_iff, List.forall₂_same]
      intro content hcontent
      exact hleader content (h.fitsLeader r hr content (Option.mem_toList.1 hcontent))
    · rw [List.forall₂_map_left_iff, List.forall₂_map_right_iff, List.forall₂_same]
      intro e he
      exact hentry e (h.fits r hr e he)
  have hall : List.Forall₂ (Reads fmt) (rs.flatMap (Record.lines fmt))
      (rs.flatMap (Record.fields fmt)) := by
    rw [List.flatMap_def, List.flatMap_def]
    apply List.rel_flatten
    rw [List.forall₂_map_left_iff, List.forall₂_map_right_iff, List.forall₂_same]
    exact hrecord
  -- No line holds a line feed, so the document falls apart into the lines that were joined.
  have hlines : (write fmt rs).lines = rs.flatMap (Record.lines fmt) :=
    Text.lines_intercalate h.flatMap_lines_ne_nil fun l hl =>
      (exists_reads_of_mem hall hl).choose_spec.newline_notMem
  have hdetect : Format.detect (write fmt rs) = fmt := by
    obtain ⟨l, ls, hcons⟩ := List.exists_cons_of_ne_nil h.flatMap_lines_ne_nil
    obtain ⟨f, hf⟩ := exists_reads_of_mem hall (hcons ▸ List.mem_cons_self)
    exact detect_of_reads (hlines.trans hcons) hf
  refine ⟨hdetect, ?_, ?_⟩
  · apply ofDocument_of_reads hdetect
    rw [hlines]
    exact fun l hl => exists_reads_of_mem hall hl
  · rw [Document.records, fields_of_reads (hlines ▸ hall), ← flatMap_toList_recordsFrom]
    exact MarcLens.Record.group_flatMap_toList h.wellGrouped_records

end Reading

end MarcLens.Draft

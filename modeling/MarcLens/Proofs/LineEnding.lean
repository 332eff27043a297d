import MarcLens.Proofs.Grouping
import MarcLens.Proofs.Reading

/-!
# Line endings

A line ends at its line feed, so that a carriage return in front of the line feed stays with the
line, as its last character. MRK takes the blanks off a line before it is read, and the carriage
return with them. Line mode reads a line as it stands. The carriage return does not matter there to
a leader and to subfields, which lose the blanks at their end. But it becomes part of the content of
a control field, and it completes the columns of a line that ends with the indicators.

## Main definitions

- `Text.crlf`: a document with a carriage return in front of every line feed
- `Record.withoutSpans`: a record apart from where its parts stand in their lines
- `LineMode.takesReturn`: the lines that line mode reads differently with a carriage return

## Main statements

- `Text.lines_crlf`: the lines of a document with carriage returns
- `LineMode.field?_append_return_iff`: when a carriage return at the end of a line does not matter
- `Document.records_crlf`: when it does not matter to a document how its lines end
-/

namespace MarcLens

namespace Text

/-- A document with a carriage return in front of every line feed. -/
def crlf (t : Text) : Text := t.flatMap fun c => if c = '\n' then ['\r', '\n'] else [c]

/-- Lines with a carriage return at the end of each, the last one excepted. -/
def withReturns : List Text → List Text
  | [] => []
  | [l] => [l]
  | l :: m :: ms => (l ++ ['\r']) :: withReturns (m :: ms)

/-- The last line of a document is not ended, so it gets no carriage return. -/
theorem lines_crlf (t : Text) : lines (crlf t) = withReturns (lines t) := by
  induction t with
  | nil => rfl
  | cons c cs ih =>
    obtain ⟨m, ms, hlines⟩ := List.exists_cons_of_ne_nil (lines_ne_nil cs)
    by_cases hc : c = '\n'
    · have hcrlf : crlf (c :: cs) = '\r' :: '\n' :: crlf cs := by simp [crlf, hc]
      rw [hcrlf, lines, if_neg (by decide), lines, if_pos rfl, ih, lines, if_pos hc, hlines]
      rfl
    · have hcrlf : crlf (c :: cs) = c :: crlf cs := by simp [crlf, hc]
      rw [hcrlf, lines, if_neg hc, ih, lines, if_neg hc, hlines]
      cases ms <;> rfl

theorem isVoid_append_return (l : Text) : isVoid (l ++ ['\r']) = isVoid l := by
  have hreturn : isBlank '\r' = true := by decide
  simp [isVoid, hreturn]

theorem trim_append_return (l : Text) : trim (l ++ ['\r']) = trim l := by
  rw [← trimLeft_trimRight, trimRight_append_of_isVoid l (by decide), trimLeft_trimRight]

end Text

/-! ### What is read, apart from where it stands -/

def Subfield.withoutSpan (s : Subfield) : Subfield := { s with start := 0, stop := 0 }

def Field.withoutSpans (f : Field) : Field :=
  { f with
    subfields := f.subfields.map (·.map Subfield.withoutSpan)
    start := 0
    stop := 0 }

def Record.withoutSpans (r : Record) : Record :=
  { leader := r.leader.map Field.withoutSpans
    fields := r.fields.map Field.withoutSpans }

namespace Record

variable {fs gs : List Field}

theorem isEmpty_withoutSpans (r : Record) : r.withoutSpans.isEmpty = r.isEmpty := by
  simp [isEmpty, withoutSpans]

/-- How fields are grouped depends on their kinds only. -/
theorem map_withoutSpans_groupFrom (current : Record) (fs : List Field) :
    (groupFrom current fs).map withoutSpans =
      groupFrom current.withoutSpans (fs.map Field.withoutSpans) := by
  induction fs generalizing current with
  | nil =>
    rw [List.map_nil, groupFrom, groupFrom, isEmpty_withoutSpans]
    split <;> rfl
  | cons f fs ih =>
    by_cases hf : f.kind = .leader
    · have hf' : f.withoutSpans.kind = .leader := hf
      rw [List.map_cons, groupFrom_of_leader hf, groupFrom_of_leader hf', List.map_append, ih,
        isEmpty_withoutSpans]
      congr 1
      split <;> rfl
    · have hf' : f.withoutSpans.kind ≠ .leader := hf
      rw [List.map_cons, groupFrom_of_ne_leader hf, groupFrom_of_ne_leader hf', ih]
      congr 1
      simp [withoutSpans]

/-- Records are the same apart from spans iff their fields are. -/
theorem map_withoutSpans_group_eq_iff :
    (group fs).map withoutSpans = (group gs).map withoutSpans ↔
      fs.map Field.withoutSpans = gs.map Field.withoutSpans := by
  have hgroup : ∀ hs : List Field,
      (group hs).map withoutSpans = group (hs.map Field.withoutSpans) := fun hs =>
    map_withoutSpans_groupFrom {} hs
  rw [hgroup, hgroup]
  constructor
  · intro h
    rw [← flatMap_toList_group (fs.map Field.withoutSpans), h, flatMap_toList_group]
  · intro h
    rw [h]

end Record

namespace Subfield

theorem ofMarker?_append_return (offset : Nat) (c : Char) (rest : Text) :
    (ofMarker? offset c (rest ++ ['\r'])).map withoutSpan =
      (ofMarker? offset c rest).map withoutSpan := by
  cases rest with
  | nil =>
    have hcode : isSubfieldCode '\r' = false := by decide
    simp [ofMarker?, hcode]
  | cons code tail =>
    have hcontent : Text.trimRight ((tail ++ ['\r']).takeWhile (· ≠ '$')) =
        Text.trimRight (tail.takeWhile (· ≠ '$')) := by
      rw [List.takeWhile_append]
      split
      · -- The subfield reaches the end of the data, and the carriage return is a blank at its end.
        next hall =>
        have htail : tail.takeWhile (· ≠ '$') = tail :=
          (List.takeWhile_prefix _).eq_of_length hall
        rw [htail]
        exact Text.trimRight_append_of_isVoid tail (by decide)
      · rfl
    rw [List.cons_append, ofMarker?, ofMarker?]
    split
    · simp only [Option.map_some, withoutSpan, hcontent]
    · rfl

/-- A carriage return at the end of subfield data is a blank behind the last subfield. -/
theorem scanFrom_append_return (offset : Nat) (data : Text) :
    (scanFrom offset (data ++ ['\r'])).map withoutSpan =
      (scanFrom offset data).map withoutSpan := by
  induction data generalizing offset with
  | nil => rfl
  | cons c cs ih =>
    have hmarker := congrArg Option.toList (ofMarker?_append_return offset c cs)
    rw [Option.toList_map, Option.toList_map] at hmarker
    rw [List.cons_append, scanFrom, scanFrom, List.map_append, List.map_append, ih, hmarker]

end Subfield

/-! ### Lines in line mode -/

namespace LineMode

/-- A carriage return at the end of a line is taken for more than a blank there: it is content of a
    control field, or it stands behind the indicators of a line that ends with them. -/
def takesReturn : Text → Bool
  | a :: b :: c :: gap :: rest =>
    isBlank gap &&
      (isControlTag [a, b, c] || [a, b, c].all isDecimal && decide (rest.length = 2))
  | _ => false

variable {l : Text}

theorem exists_cons_of_takesReturn (h : takesReturn l) :
    ∃ a b c gap rest, l = a :: b :: c :: gap :: rest ∧ ¬isBlank a ∧ isBlank gap := by
  unfold takesReturn at h
  split at h
  · next a b c gap rest =>
    simp only [Bool.and_eq_true, Bool.or_eq_true, List.all_cons] at h
    obtain ⟨hgap, htag⟩ := h
    have ha : isDecimal a := htag.elim isDecimal_of_isControlTag fun htag => htag.1.1
    exact ⟨a, b, c, gap, rest, rfl, not_isBlank_of_isDecimal ha, hgap⟩
  · cases h

theorem not_isLeader_of_takesReturn (h : takesReturn l) : ¬isLeader (Text.trim l) := by
  obtain ⟨a, b, c, gap, rest, rfl, ha, hgap⟩ := exists_cons_of_takesReturn h
  exact not_isLeader_trim ha hgap

theorem not_isVoid_of_takesReturn (h : takesReturn l) : ¬Text.isVoid l := by
  obtain ⟨a, b, c, gap, rest, rfl, ha, -⟩ := exists_cons_of_takesReturn h
  exact fun hvoid => ha (Text.isVoid_iff.1 hvoid a List.mem_cons_self)

/-- With a carriage return the line has other content, or it has none and was no field before. -/
theorem content_reading?_append_return_ne (hnewline : '\n' ∉ l) (h : takesReturn l) :
    (reading? (l ++ ['\r'])).map Field.content ≠ (reading? l).map Field.content := by
  have hleader := not_isLeader_of_takesReturn h
  have hnewline' : '\n' ∉ l ++ ['\r'] := by simpa using hnewline
  rw [reading?_of_not_isLeader hleader,
    reading?_of_not_isLeader (by rwa [Text.trim_append_return])]
  unfold takesReturn at h
  split at h
  · next a b c gap rest =>
    simp only [Bool.and_eq_true, Bool.or_eq_true, decide_eq_true_eq] at h
    obtain ⟨hgap, htag⟩ := h
    simp only [List.cons_append] at hnewline' ⊢
    by_cases hcontrol : isControlTag [a, b, c]
    · -- The carriage return is the last character of the content, or all of it.
      have hrest : '\n' ∉ rest := fun hmem => hnewline (by simp [hmem])
      have hrest' : '\n' ∉ rest ++ ['\r'] := by simpa using hrest
      rw [controlField?_eq hcontrol hgap hrest, controlField?_eq hcontrol hgap hrest',
        if_neg (by simp)]
      split
      · next hnil =>
        subst hnil
        rw [dataField?_eq_none (l := [a, b, c, gap]) (by simp)]
        simp
      · simp
    · -- The line lacks the blank behind its indicators, and the carriage return is one.
      obtain ⟨hdecimal, hlength⟩ := htag.resolve_left hcontrol
      obtain ⟨i, j, rfl⟩ := List.length_eq_two.1 hlength
      rw [controlField?_eq_none (by simp [hcontrol]), controlField?_eq_none (by simp [hcontrol]),
        dataField?_eq_none (l := [a, b, c, gap, i, j]) (by simp)]
      simp only [List.cons_append, List.nil_append] at hnewline' ⊢
      rw [dataField?_eq hnewline', if_pos ⟨hdecimal, hgap, by decide⟩]
      simp
  · cases h

/-- Any other line is read as it is without the carriage return. -/
theorem reading?_append_return (hnewline : '\n' ∉ l) (h : ¬takesReturn l) :
    (reading? (l ++ ['\r'])).map Field.withoutSpans = (reading? l).map Field.withoutSpans := by
  have hnewline' : '\n' ∉ l ++ ['\r'] := by simpa using hnewline
  by_cases hleader : isLeader (Text.trim l)
  · simp only [reading?, Text.trim_append_return, hleader]
    rfl
  rw [reading?_of_not_isLeader hleader,
    reading?_of_not_isLeader (by rwa [Text.trim_append_return])]
  rcases l with _ | ⟨a, _ | ⟨b, _ | ⟨c, _ | ⟨gap, rest⟩⟩⟩⟩
  · rfl
  · rfl
  · rfl
  · -- Behind a tag alone the carriage return is the blank, and no content follows.
    have hcontrol : controlField? [a, b, c, '\r'] = none := by
      rw [controlField?]
      split <;> rfl
    change ((controlField? [a, b, c, '\r']).or none).map Field.withoutSpans = none
    rw [hcontrol]
    rfl
  have hcontrol : ¬(isControlTag [a, b, c] ∧ isBlank gap) := by
    rintro ⟨htag, hgap⟩
    exact h (by simp [takesReturn, htag, hgap])
  simp only [List.cons_append] at hnewline' ⊢
  rw [controlField?_eq_none hcontrol, controlField?_eq_none hcontrol, Option.none_or,
    Option.none_or]
  rcases rest with _ | ⟨i, _ | ⟨j, _ | ⟨gap2, data⟩⟩⟩
  · rfl
  · rfl
  · have hdata : ¬([a, b, c].all isDecimal ∧ isBlank gap ∧ isBlank '\r') := by
      rintro ⟨hdecimal, hgap, -⟩
      apply h
      rw [takesReturn, hgap, hdecimal]
      simp
    rw [dataField?_eq_none (l := [a, b, c, gap, i, j]) (by simp)]
    simp only [List.cons_append, List.nil_append] at hnewline' ⊢
    rw [dataField?_eq hnewline', if_neg hdata]
  · simp only [List.cons_append] at hnewline' ⊢
    rw [dataField?_eq hnewline', dataField?_eq hnewline]
    split
    · have hscan := Subfield.scanFrom_append_return 0 (gap2 :: data)
      simpa [Field.withoutSpans, Subfield.scan] using hscan
    · rfl

theorem field?_append_return_iff (hnewline : '\n' ∉ l) (n : Int) :
    (field? (l ++ ['\r']) n).map Field.withoutSpans = (field? l n).map Field.withoutSpans ↔
      ¬takesReturn l := by
  constructor
  · intro heq htakes
    apply content_reading?_append_return_ne hnewline htakes
    have hcontent := congrArg (Option.map Field.content) heq
    simpa [field?, Field.withoutSpans, Function.comp_def] using hcontent
  · intro h
    have hread := congrArg (Option.map fun f : Field => { f with line := n })
      (reading?_append_return hnewline h)
    simpa [field?, Field.withoutSpans, Function.comp_def] using hread

end LineMode

/-! ### Documents -/

namespace Document

variable {fmt : Format} {l : Text} {n : Nat}

/-- The field on a line of a document, if there is one. -/
def lineField? (fmt : Format) (l : Text) (number : Int) : Option Field :=
  if Text.isVoid l then none else fmt.field? (fmt.prepare l) number

/-- The fields on lines of which the first has the number `n + 1`. -/
def fieldsFrom (fmt : Format) (n : Nat) (ls : List Text) : List Field :=
  (ls.zipIdx n).filterMap fun x => lineField? fmt x.1 (x.2 + 1)

theorem fields_eq_fieldsFrom (fmt : Format) (document : Text) :
    fields fmt document = fieldsFrom fmt 0 document.lines := rfl

theorem fieldsFrom_cons (fmt : Format) (n : Nat) (l : Text) (ls : List Text) :
    fieldsFrom fmt n (l :: ls) =
      (lineField? fmt l (n + 1)).toList ++ fieldsFrom fmt (n + 1) ls := by
  rw [fieldsFrom, List.zipIdx_cons, List.filterMap_cons]
  dsimp only
  cases lineField? fmt l (n + 1) <;> rfl

theorem line_eq_of_lineField? {number : Int} {f : Field} (h : lineField? fmt l number = some f) :
    f.line = number := by
  rw [lineField?] at h
  split at h
  · cases h
  · exact Format.line_eq_of_field? h

theorem lt_line_of_mem_fieldsFrom {ls : List Text} {f : Field} (h : f ∈ fieldsFrom fmt n ls) :
    n < f.line := by
  induction ls generalizing n with
  | nil => cases h
  | cons l ls ih =>
    rw [fieldsFrom_cons, List.mem_append, Option.mem_toList] at h
    rcases h with h | h
    · rw [line_eq_of_lineField? h]
      omega
    · have := ih h
      omega

/-- In MRK the carriage return is a blank around the line. -/
theorem lineField?_append_return (hfmt : fmt ≠ .line) (l : Text) (number : Int) :
    lineField? fmt (l ++ ['\r']) number = lineField? fmt l number := by
  have hprepare : fmt.prepare (l ++ ['\r']) = fmt.prepare l := by
    cases fmt with
    | line => exact absurd rfl hfmt
    | mrk => exact Text.trim_append_return l
    | other => exact Text.trim_append_return l
  rw [lineField?, lineField?, Text.isVoid_append_return, hprepare]

theorem fieldsFrom_withReturns (hfmt : fmt ≠ .line) (ls : List Text) :
    fieldsFrom fmt n (Text.withReturns ls) = fieldsFrom fmt n ls := by
  induction ls generalizing n with
  | nil => rfl
  | cons l ls ih =>
    cases ls with
    | nil => rfl
    | cons m ms =>
      rw [Text.withReturns, fieldsFrom_cons, fieldsFrom_cons, ih, lineField?_append_return hfmt]

theorem lineField?_append_return_iff (hnewline : '\n' ∉ l) (number : Int) :
    (lineField? .line (l ++ ['\r']) number).map Field.withoutSpans =
        (lineField? .line l number).map Field.withoutSpans ↔
      ¬LineMode.takesReturn l := by
  rw [lineField?, lineField?, Text.isVoid_append_return]
  split
  · next hvoid =>
    exact iff_of_true rfl fun htakes => LineMode.not_isVoid_of_takesReturn htakes hvoid
  · exact LineMode.field?_append_return_iff hnewline number

/-- Fields in the order of lines are the same iff those on the first line are, and all others. -/
theorem toList_append_eq_iff {f g : Option Field} {fs gs : List Field} {number : Int}
    (hf : ∀ x ∈ f, x.line = number) (hg : ∀ x ∈ g, x.line = number)
    (hfs : ∀ x ∈ fs, number < x.line) (hgs : ∀ x ∈ gs, number < x.line) :
    f.toList ++ fs = g.toList ++ gs ↔ f = g ∧ fs = gs := by
  cases f with
  | none =>
    cases g with
    | none => simp
    | some y =>
      refine iff_of_false ?_ (by simp)
      rintro rfl
      have hline := hg y rfl
      have hlater := hfs y List.mem_cons_self
      omega
  | some x =>
    cases g with
    | none =>
      refine iff_of_false ?_ (by simp)
      rintro rfl
      have hline := hf x rfl
      have hlater := hgs x List.mem_cons_self
      omega
    | some y => simp

theorem map_withoutSpans_fieldsFrom_cons (n : Nat) (l : Text) (ls : List Text) :
    (fieldsFrom fmt n (l :: ls)).map Field.withoutSpans =
      ((lineField? fmt l (n + 1)).map Field.withoutSpans).toList ++
        (fieldsFrom fmt (n + 1) ls).map Field.withoutSpans := by
  rw [fieldsFrom_cons, List.map_append, Option.toList_map]

theorem map_withoutSpans_fieldsFrom_withReturns_iff {ls : List Text}
    (hnewline : ∀ l ∈ ls, '\n' ∉ l) :
    (fieldsFrom .line n (Text.withReturns ls)).map Field.withoutSpans =
        (fieldsFrom .line n ls).map Field.withoutSpans ↔
      ∀ l ∈ ls.dropLast, ¬LineMode.takesReturn l := by
  -- Fields carry the numbers of their lines, so the lists can be compared line by line.
  have hfirst : ∀ {n : Nat} {l : Text},
      ∀ x ∈ (lineField? .line l (n + 1)).map Field.withoutSpans, x.line = (n + 1 : Int) := by
    intro n l x hx
    obtain ⟨f, hf, rfl⟩ := Option.map_eq_some_iff.1 hx
    change f.line = _
    exact line_eq_of_lineField? hf
  have hothers : ∀ {n : Nat} {ls : List Text},
      ∀ x ∈ (fieldsFrom .line (n + 1) ls).map Field.withoutSpans, (n + 1 : Int) < x.line := by
    intro n ls x hx
    obtain ⟨f, hf, rfl⟩ := List.mem_map.1 hx
    exact_mod_cast lt_line_of_mem_fieldsFrom hf
  induction ls generalizing n with
  | nil => simp [Text.withReturns]
  | cons l ls ih =>
    cases ls with
    | nil => simp [Text.withReturns]
    | cons m ms =>
      rw [Text.withReturns, map_withoutSpans_fieldsFrom_cons, map_withoutSpans_fieldsFrom_cons,
        toList_append_eq_iff hfirst hfirst hothers hothers, List.dropLast_cons_cons,
        List.forall_mem_cons]
      exact and_congr (lineField?_append_return_iff (hnewline l List.mem_cons_self) _)
        (ih fun l hl => hnewline l (List.mem_cons_of_mem _ hl))

/-- In MRK a document has the same records however its lines end. In line mode it has the same ones,
    apart from where their parts stand in the lines, iff no line that a line feed ends takes a
    carriage return for more than a blank. -/
theorem records_crlf (document : Text) :
    (∀ fmt : Format, fmt ≠ .line → records fmt (Text.crlf document) = records fmt document) ∧
      ((records .line (Text.crlf document)).map Record.withoutSpans =
          (records .line document).map Record.withoutSpans ↔
        ∀ l ∈ document.lines.dropLast, ¬LineMode.takesReturn l) := by
  constructor
  · intro fmt hfmt
    rw [records, records, fields_eq_fieldsFrom, fields_eq_fieldsFrom, Text.lines_crlf,
      fieldsFrom_withReturns hfmt]
  · rw [records, records, Record.map_withoutSpans_group_eq_iff, fields_eq_fieldsFrom,
      fields_eq_fieldsFrom, Text.lines_crlf]
    exact map_withoutSpans_fieldsFrom_withReturns_iff fun l hl =>
      Text.newline_notMem_of_mem_lines hl

/-- The carriage return becomes content of a control field. -/
theorem records_crlf_ne_of_control :
    '\r' ∉ "001 123\n".toList ∧
      (records .line (Text.crlf "001 123\n".toList)).map Record.withoutSpans ≠
        (records .line "001 123\n".toList).map Record.withoutSpans := by
  decide

end Document

end MarcLens

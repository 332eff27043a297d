import MarcLens.Diagnostic
import MarcLens.Proofs.Grouping
import MarcLens.Proofs.Reading
import Mathlib.Data.Set.Basic

/-!
# Lines that are read and lines that pass

A document is read line by line, and its lines are judged one by one. In line mode the lines that
hold a field of some record are the lines without an error. In MRK the reader takes a line without
the blanks around it and the judge takes it as it stands, so the two part where these blanks matter.

## Main definitions

- `Document.readLines`: the lines from which the fields of a document are read
- `Diagnostic.passedLines`: the lines that are not void and get no error
- `Mrk.IsIndented`, `Mrk.IsCutShort`: the lines on which the two differ

## Main statements

- `Mrk.isField_trim_iff_isField_iff`: the blanks around a line matter on lines of these kinds only
- `Document.readLines_eq_passedLines_iff_forall`: the two agree on a document iff they agree on each
  of its lines
-/

namespace MarcLens

namespace Mrk

variable {a b c gap : Char} {l rest : Text} {room : Nat}

/-- What can be read can still be read when more follows. -/
theorem IsField.of_prefix {l' : Text} (h : IsField l) (hpre : l <+: l') : IsField l' := by
  obtain ⟨a, b, c, gap, rest, room, rfl, hroom, hgap, hle⟩ := h
  obtain ⟨t, rfl⟩ := hpre
  refine ⟨a, b, c, gap, rest ++ t, room, rfl, hroom, hgap, ?_⟩
  rw [List.length_append]
  omega

theorem not_isBlank_of_room? (h : room? [a, b, c] = some room) : ∀ d ∈ [a, b, c], ¬isBlank d := by
  rw [room?] at h
  split at h
  · next hldr =>
    rw [hldr]
    have hall : ['L', 'D', 'R'].all fun d => !isBlank d := by decide
    simpa using hall
  · split at h
    · next hdigits =>
      intro d hd
      exact not_isBlank_of_isDecimal (isDecimal_of_isDigit (List.all_eq_true.1 hdigits d hd))
    · simp at h

/-- Without the blanks at its end, a field needs its room in what is left behind the tag. -/
theorem isField_trim_iff (hroom : room? [a, b, c] = some room) (hgap : isBlank gap) :
    IsField (Text.trim ('=' :: a :: b :: c :: gap :: rest)) ↔
      room < (Text.trimRight (gap :: rest)).length := by
  have htag := not_isBlank_of_room? hroom
  rw [Text.trim_cons_of_not_isBlank (by decide),
    Text.trimRight_cons_of_not_isBlank (htag a (by simp)),
    Text.trimRight_cons_of_not_isBlank (htag b (by simp)),
    Text.trimRight_cons_of_not_isBlank (htag c (by simp))]
  -- What is left begins with the blank behind the tag, unless nothing is left at all.
  obtain ⟨tail, htail⟩ := Text.trimRight_isPrefix (gap :: rest)
  constructor
  · rintro ⟨a', b', c', gap', rest', room', heq, hroom', -, hle⟩
    simp only [List.cons.injEq, true_and] at heq
    obtain ⟨rfl, rfl, rfl, heq⟩ := heq
    obtain rfl : room = room' := Option.some.inj (hroom.symm.trans hroom')
    rw [heq, List.length_cons]
    omega
  · intro hlt
    cases htrim : Text.trimRight (gap :: rest) with
    | nil => simp [htrim] at hlt
    | cons gap' rest' =>
      rw [htrim] at htail hlt
      obtain rfl : gap' = gap := (List.cons.inj htail).1
      exact ⟨a, b, c, gap', rest', room, rfl, hroom, hgap, Nat.lt_succ_iff.1 hlt⟩

/-- A field with blanks in front of it. -/
def IsIndented (l : Text) : Prop := l.startsBlank ∧ IsField (Text.trim l)

/-- A field that has room enough, but not without the blanks at its end. -/
def IsCutShort (l : Text) : Prop :=
  ∃ a b c gap rest room, l = '=' :: a :: b :: c :: gap :: rest ∧ room? [a, b, c] = some room ∧
    isBlank gap ∧ room ≤ rest.length ∧ (Text.trimRight (gap :: rest)).length ≤ room

theorem isIndented_iff : IsIndented l ↔ IsField (Text.trim l) ∧ ¬IsField l := by
  constructor
  · rintro ⟨hblank, htrim⟩
    refine ⟨htrim, ?_⟩
    rintro ⟨_, _, _, _, _, _, rfl, -⟩
    have hequals : ¬isBlank '=' := by decide
    exact hequals hblank
  · rintro ⟨htrim, hfield⟩
    refine ⟨?_, htrim⟩
    cases l with
    | nil => exact absurd htrim hfield
    | cons c t =>
      by_contra hc
      -- Nothing is trimmed in front, so the trimmed line is the beginning of the line.
      rw [Text.trim_cons_of_not_isBlank hc] at htrim
      exact hfield (htrim.of_prefix ((List.prefix_cons_inj c).2 (Text.trimRight_isPrefix t)))

theorem isCutShort_iff : IsCutShort l ↔ IsField l ∧ ¬IsField (Text.trim l) := by
  constructor
  · rintro ⟨a, b, c, gap, rest, room, rfl, hroom, hgap, hle, hshort⟩
    refine ⟨⟨a, b, c, gap, rest, room, rfl, hroom, hgap, hle⟩, ?_⟩
    rw [isField_trim_iff hroom hgap]
    omega
  · rintro ⟨⟨a, b, c, gap, rest, room, rfl, hroom, hgap, hle⟩, htrim⟩
    rw [isField_trim_iff hroom hgap] at htrim
    exact ⟨a, b, c, gap, rest, room, rfl, hroom, hgap, hle, by omega⟩

/-- The blanks around a line matter in these two cases only. -/
theorem isField_trim_iff_isField_iff :
    (IsField (Text.trim l) ↔ IsField l) ↔ ¬IsIndented l ∧ ¬IsCutShort l := by
  rw [isIndented_iff, isCutShort_iff]
  tauto

/-- The reader of a document sees a line without the blanks around it. -/
theorem isSome_field?_trim_iff (h : '\n' ∉ l) (n : Int) :
    ¬Text.isVoid l ∧ (field? (Text.trim l) n).isSome ↔ IsField (Text.trim l) := by
  rw [isSome_field?_iff fun hmem => h (Text.mem_of_mem_trim hmem)]
  refine and_iff_right_of_imp ?_
  rintro ⟨_, _, _, _, _, _, heq, -⟩ hvoid
  rw [Text.trim_eq_nil_iff.2 hvoid] at heq
  simp at heq

/-- The judge sees a line as it stands. -/
theorem looksLikeField_and_isSome_iff (h : '\n' ∉ l) (n : Int) :
    ¬Text.isVoid l ∧ Format.looksLikeField .mrk l ∧ (field? l n).isSome ↔ IsField l := by
  rw [isSome_field?_iff h, ← and_assoc]
  refine and_iff_right_of_imp ?_
  rintro ⟨_, _, _, _, _, _, rfl, -⟩
  have hequals : ¬isBlank '=' := by decide
  refine ⟨?_, looksLikeField_equals _⟩
  intro hvoid
  exact hequals (Text.isVoid_iff.1 hvoid '=' (by simp))

theorem read_iff_passed_iff (h : '\n' ∉ l) (n : Int) :
    (¬Text.isVoid l ∧ (field? (Text.trim l) n).isSome ↔
        ¬Text.isVoid l ∧ Format.looksLikeField .mrk l ∧ (field? l n).isSome) ↔
      ¬IsIndented l ∧ ¬IsCutShort l := by
  rw [isSome_field?_trim_iff h, looksLikeField_and_isSome_iff h, isField_trim_iff_isField_iff]

end Mrk

/-- No document is found to be in some other format. -/
theorem Format.detect_eq_mrk_or_line (document : Text) :
    detect document = .mrk ∨ detect document = .line := by
  unfold detect
  split
  · exact Or.inl rfl
  · split
    · exact Or.inl rfl
    · exact Or.inr rfl

namespace Diagnostic

variable {fmt : Format} {l : Text} {number : Int}

/-- A line gets an error iff it is not void and holds no field. -/
theorem exists_error_iff :
    (∃ d ∈ ofLine fmt l number, d.severity = .error) ↔
      ¬Text.isVoid l ∧ ¬(fmt.looksLikeField l ∧ (fmt.field? l (number + 1)).isSome) := by
  rw [ofLine]
  by_cases hvoid : Text.isVoid l
  · simp [hvoid]
  · rw [if_neg hvoid, verdict]
    by_cases hlooks : fmt.looksLikeField l
    · cases fmt.field? l (number + 1) <;> simp [hvoid, hlooks]
    · simp [hvoid, hlooks]

theorem line_eq_of_mem_ofLine {d : Diagnostic} (h : d ∈ ofLine fmt l number) :
    d.range.start.line = number := by
  rw [ofLine] at h
  split at h
  · simp at h
  · obtain ⟨⟨severity, message⟩, -, rfl⟩ := List.mem_map.1 h
    rfl

/-- The diagnostics for a line are those of the document that name it. -/
theorem mem_ofLine_iff {document : Text} {i : Nat} (hl : document.lines[i]? = some l)
    (d : Diagnostic) :
    d ∈ ofLine (Format.detect document) l i ↔
      d ∈ ofDocument document ∧ d.range.start.line = i := by
  rw [ofDocument, List.mem_flatMap]
  constructor
  · intro hd
    exact ⟨⟨(l, i), List.mk_mem_zipIdx_iff_getElem?.2 hl, hd⟩, line_eq_of_mem_ofLine hd⟩
  · rintro ⟨⟨⟨l', j⟩, hmem, hd⟩, hline⟩
    have hj : j = i := by
      rw [line_eq_of_mem_ofLine hd] at hline
      exact Int.ofNat_inj.1 hline
    subst hj
    rw [List.mk_mem_zipIdx_iff_getElem?, hl] at hmem
    obtain rfl := Option.some.inj hmem
    exact hd

/-- The numbers, counted from 1, of the lines that are not void and get no error. -/
def passedLines (document : Text) : Set Int :=
  { n | ∃ (i : Nat) (l : Text), document.lines[i]? = some l ∧ n = i + 1 ∧ ¬Text.isVoid l ∧
    ∀ d ∈ ofDocument document, d.range.start.line = i → d.severity ≠ .error }

theorem mem_passedLines_iff {document : Text} {n : Int} :
    n ∈ passedLines document ↔
      ∃ (i : Nat) (l : Text), document.lines[i]? = some l ∧ n = i + 1 ∧
        (¬Text.isVoid l ∧ (Format.detect document).looksLikeField l ∧
          ((Format.detect document).field? l (i + 1)).isSome) := by
  constructor
  · rintro ⟨i, l, hl, rfl, hvoid, hpassed⟩
    refine ⟨i, l, hl, rfl, hvoid, ?_⟩
    by_contra hfail
    obtain ⟨d, hd, herror⟩ := exists_error_iff.2 ⟨hvoid, hfail⟩
    obtain ⟨hmem, hline⟩ := (mem_ofLine_iff hl d).1 hd
    exact hpassed d hmem hline herror
  · rintro ⟨i, l, hl, rfl, hvoid, hfield⟩
    refine ⟨i, l, hl, rfl, hvoid, ?_⟩
    intro d hmem hline herror
    have hd := (mem_ofLine_iff hl d).2 ⟨hmem, hline⟩
    exact (exists_error_iff.1 ⟨d, hd, herror⟩).2 hfield

end Diagnostic

namespace Document

/-- The numbers of the lines from which the fields of the records are read. -/
def readLines (document : Text) : Set Int :=
  { n | ∃ r ∈ records (Format.detect document) document, ∃ f ∈ r.toList, f.line = n }

theorem mem_readLines_iff {document : Text} {n : Int} :
    n ∈ readLines document ↔
      ∃ (i : Nat) (l : Text), document.lines[i]? = some l ∧ n = i + 1 ∧
        (¬Text.isVoid l ∧ ((Format.detect document).field?
          ((Format.detect document).prepare l) (i + 1)).isSome) := by
  have hfields : n ∈ readLines document ↔
      ∃ f ∈ fields (Format.detect document) document, f.line = n := by
    rw [← Record.flatMap_toList_group (fields _ _)]
    simp only [readLines, Set.mem_ofPred_eq, records, List.mem_flatMap]
    constructor
    · rintro ⟨r, hr, f, hf, hn⟩
      exact ⟨f, ⟨r, hr, hf⟩, hn⟩
    · rintro ⟨f, ⟨r, hr, hf⟩, hn⟩
      exact ⟨r, hr, f, hf, hn⟩
  rw [hfields]
  constructor
  · rintro ⟨f, hf, rfl⟩
    obtain ⟨⟨l, i⟩, hmem, hread⟩ := List.mem_filterMap.1 hf
    obtain ⟨hvoid, hread⟩ := Option.ite_none_left_eq_some.1 hread
    exact ⟨i, l, List.mk_mem_zipIdx_iff_getElem?.1 hmem, Format.line_eq_of_field? hread, hvoid,
      Option.isSome_of_mem hread⟩
  · rintro ⟨i, l, hl, rfl, hvoid, hread⟩
    obtain ⟨f, hf⟩ := Option.isSome_iff_exists.1 hread
    refine ⟨f, List.mem_filterMap.2 ⟨(l, i), List.mk_mem_zipIdx_iff_getElem?.2 hl, ?_⟩,
      Format.line_eq_of_field? hf⟩
    exact (if_neg hvoid).trans hf

/-- Two sets of line numbers are equal iff they agree on every line. -/
theorem lineSet_eq_iff {ls : List Text} {P Q : Nat → Text → Prop} {S T : Set Int}
    (hS : ∀ n, n ∈ S ↔ ∃ (i : Nat) (l : Text), ls[i]? = some l ∧ n = i + 1 ∧ P i l)
    (hT : ∀ n, n ∈ T ↔ ∃ (i : Nat) (l : Text), ls[i]? = some l ∧ n = i + 1 ∧ Q i l) :
    S = T ↔ ∀ (i : Nat) (l : Text), ls[i]? = some l → (P i l ↔ Q i l) := by
  -- A number belongs to one line only, so being in the set says something of that line.
  have hat : ∀ {R : Nat → Text → Prop} {i : Nat} {l : Text}, ls[i]? = some l →
      ((∃ (j : Nat) (m : Text), ls[j]? = some m ∧ (i + 1 : Int) = j + 1 ∧ R j m) ↔ R i l) := by
    intro R i l hl
    constructor
    · rintro ⟨j, m, hm, hn, hR⟩
      obtain rfl : i = j := by omega
      obtain rfl := Option.some.inj (hl.symm.trans hm)
      exact hR
    · intro hR
      exact ⟨i, l, hl, rfl, hR⟩
  constructor
  · intro h i l hl
    calc
      P i l ↔ (i + 1 : Int) ∈ S := ((hS _).trans (hat hl)).symm
      _ ↔ (i + 1 : Int) ∈ T := by rw [h]
      _ ↔ Q i l := (hT _).trans (hat hl)
  · intro h
    ext n
    rw [hS, hT]
    constructor
    · rintro ⟨i, l, hl, hn, hP⟩
      exact ⟨i, l, hl, hn, (h i l hl).1 hP⟩
    · rintro ⟨i, l, hl, hn, hQ⟩
      exact ⟨i, l, hl, hn, (h i l hl).2 hQ⟩

/-- Reading and judging agree on a document iff they agree on each of its lines. -/
theorem readLines_eq_passedLines_iff_forall (document : Text) :
    readLines document = Diagnostic.passedLines document ↔
      ∀ (i : Nat) (l : Text), document.lines[i]? = some l →
        (¬Text.isVoid l ∧
            ((Format.detect document).field? ((Format.detect document).prepare l) (i + 1)).isSome ↔
          ¬Text.isVoid l ∧ (Format.detect document).looksLikeField l ∧
            ((Format.detect document).field? l (i + 1)).isSome) :=
  lineSet_eq_iff (fun _ => mem_readLines_iff) (fun _ => Diagnostic.mem_passedLines_iff)

/-- The lines that are read are the lines that pass, in line mode always, and in MRK iff no field
    has blanks in front of it or needs the blanks at its end. -/
theorem readLines_eq_passedLines_iff (document : Text) :
    readLines document = Diagnostic.passedLines document ↔
      Format.detect document = .line ∨
        ∀ l ∈ document.lines, ¬Mrk.IsIndented l ∧ ¬Mrk.IsCutShort l := by
  rw [readLines_eq_passedLines_iff_forall]
  rcases Format.detect_eq_mrk_or_line document with hfmt | hfmt
  · rw [hfmt]
    constructor
    · intro h
      right
      intro l hl
      obtain ⟨i, hi⟩ := List.mem_iff_getElem?.1 hl
      exact (Mrk.read_iff_passed_iff (Text.newline_notMem_of_mem_lines hl) _).1 (h i l hi)
    · rintro (h | h) i l hi
      · simp at h
      · have hl := List.mem_of_getElem? hi
        exact (Mrk.read_iff_passed_iff (Text.newline_notMem_of_mem_lines hl) _).2 (h l hl)
  · rw [hfmt]
    refine iff_of_true ?_ (Or.inl rfl)
    intro i l _
    constructor
    · rintro ⟨hvoid, hfield⟩
      exact ⟨hvoid, LineMode.looksLikeField_of_isSome hfield, hfield⟩
    · rintro ⟨hvoid, -, hfield⟩
      exact ⟨hvoid, hfield⟩

/-- A control field behind a single space is read, but does not pass. -/
theorem readLines_ne_passedLines_of_space :
    readLines " =001  x".toList ≠ Diagnostic.passedLines " =001  x".toList := by
  intro h
  rw [readLines_eq_passedLines_iff_forall] at h
  exact absurd (h 0 " =001  x".toList (by decide)) (by decide)

end Document

end MarcLens

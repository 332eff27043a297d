import MarcLens.Format.Basic
import MarcLens.Proofs.Text

/-!
# Lines that can be read

Which lines hold a field, apart from what the field is. In MRK the tag says how many characters have
to follow the blanks behind it. In line mode a blank behind the tag tells all other fields from a
leader, so that every line is read in one way only.

## Main statements

- `Mrk.isSome_field?_iff`: the lines that MRK can read
- `LineMode.not_isLeader_trim`: a line with a blank behind its tag is no leader
- `LineMode.controlField?_eq`, `LineMode.dataField?_eq`: what stands in the columns of a line
- `LineMode.looksLikeField_of_isSome`: whatever line mode can read starts with a decimal digit
-/

namespace MarcLens

namespace Mrk

/-- Among tags of digits, those below 010 are the ones that start with two zeros. -/
theorem tag_lt_iff {a b c : Char} (h : [a, b, c].all Char.isDigit) :
    ([a, b, c] : Text) < ['0', '1', '0'] ↔ a = '0' ∧ b = '0' := by
  simp only [List.all_cons, List.all_nil, Bool.and_eq_true, Char.isDigit_iff_toNat] at h
  obtain ⟨ha, hb, hc, -⟩ := h
  have hzero : '0'.toNat = 0x30 := rfl
  have hone : '1'.toNat = 0x31 := rfl
  simp only [List.cons_lt_cons_iff, List.not_lt_nil, Char.lt_def, UInt32.lt_iff_toNat_lt,
    Char.toNat_val, ← Char.toNat_inj, and_false, or_false]
  constructor
  · intro h
    omega
  · intro h
    omega

/-- A tag of digits belongs to a control field or to a data field, according to its value. -/
theorem taggedField?_of_digits {a b c : Char} (h : [a, b, c].all Char.isDigit) (rest : Text) :
    taggedField? a b c rest =
      if ([a, b, c] : Text) < ['0', '1', '0'] then contentField? .control [a, b, c] rest
      else dataField? [a, b, c] rest := by
  have hldr : [a, b, c] ≠ ['L', 'D', 'R'] := by
    rintro ⟨⟩
    exact absurd h (by decide)
  have hdigits : a.isDigit && b.isDigit && c.isDigit := by simpa [and_assoc] using h
  rw [taggedField?, if_neg hldr, if_pos hdigits]
  simp only [tag_lt_iff h]

/-- The number of characters that a field with a given tag needs behind its blanks: one for the
    content of a leader or control field, two for the indicators of a data field. -/
def room? (tag : Text) : Option Nat :=
  if tag = ['L', 'D', 'R'] then some 1
  else if tag.all Char.isDigit then some (if tag < ['0', '1', '0'] then 1 else 2)
  else none

/-- A line that MRK can read: an equals sign, a tag, at least one blank, and room enough. -/
def IsField (l : Text) : Prop :=
  ∃ a b c gap rest room, l = '=' :: a :: b :: c :: gap :: rest ∧ room? [a, b, c] = some room ∧
    isBlank gap ∧ room ≤ rest.length

variable {rest : Text}

theorem isSome_indicatorsAndData_iff (h : '\n' ∉ rest) :
    (indicatorsAndData rest).isSome ↔ 2 ≤ rest.length := by
  match rest with
  | [] => simp [indicatorsAndData]
  | [a] => simp [indicatorsAndData]
  | a :: b :: rest =>
    simp only [List.mem_cons, not_or] at h
    have hindicators : ¬(a = '\n' ∨ b = '\n') := not_or.2 ⟨Ne.symm h.1, Ne.symm h.2.1⟩
    rw [indicatorsAndData, if_neg hindicators, Text.upToEnd_of_newline_notMem h.2.2]
    simp

theorem isSome_contentField?_iff (h : '\n' ∉ rest) (kind : FieldKind) (tag : Text) :
    (contentField? kind tag rest).isSome ↔
      ∃ gap t, rest = gap :: t ∧ isBlank gap ∧ 1 ≤ t.length := by
  rw [contentField?, Option.isSome_map]
  apply Text.isSome_afterBlanks_iff
  intro s hs
  exact Text.isSome_contentUpToEnd_iff fun hmem => h (hs.subset hmem)

theorem isSome_dataField?_iff (h : '\n' ∉ rest) (tag : Text) :
    (dataField? tag rest).isSome ↔ ∃ gap t, rest = gap :: t ∧ isBlank gap ∧ 2 ≤ t.length := by
  rw [dataField?, Option.isSome_map]
  apply Text.isSome_afterBlanks_iff
  intro s hs
  exact isSome_indicatorsAndData_iff fun hmem => h (hs.subset hmem)

theorem isSome_taggedField?_iff (h : '\n' ∉ rest) (a b c : Char) :
    (taggedField? a b c rest).isSome ↔
      ∃ room, room? [a, b, c] = some room ∧
        ∃ gap t, rest = gap :: t ∧ isBlank gap ∧ room ≤ t.length := by
  rw [room?]
  by_cases hldr : [a, b, c] = ['L', 'D', 'R']
  · simp only [taggedField?, if_pos hldr, isSome_contentField?_iff h, Option.some.injEq,
      exists_eq_left']
  · rw [if_neg hldr]
    by_cases hall : [a, b, c].all Char.isDigit
    · rw [taggedField?_of_digits hall, if_pos hall]
      by_cases hlt : ([a, b, c] : Text) < ['0', '1', '0']
      · simp only [if_pos hlt, isSome_contentField?_iff h, Option.some.injEq, exists_eq_left']
      · simp only [if_neg hlt, isSome_dataField?_iff h, Option.some.injEq, exists_eq_left']
    · have hdigits : ¬(a.isDigit && b.isDigit && c.isDigit) := by simpa [and_assoc] using hall
      rw [taggedField?, if_neg hldr, if_neg hdigits, if_neg hall]
      simp

/-- A line without line feeds can be read iff it has the parts of a field. -/
theorem isSome_field?_iff {l : Text} (h : '\n' ∉ l) (n : Int) :
    (field? l n).isSome ↔ IsField l := by
  unfold field?
  split
  · next a b c rest =>
    have hrest : '\n' ∉ rest := fun hmem => h (by simp [hmem])
    rw [Option.isSome_map, isSome_taggedField?_iff hrest]
    constructor
    · rintro ⟨room, hroom, gap, t, rfl, hgap, hle⟩
      exact ⟨a, b, c, gap, t, room, rfl, hroom, hgap, hle⟩
    · rintro ⟨a, b, c, gap, t, room, heq, hroom, hgap, hle⟩
      obtain ⟨⟩ := heq
      exact ⟨room, hroom, gap, t, rfl, hgap, hle⟩
  · next hshape =>
    constructor
    · intro hnone
      simp at hnone
    · rintro ⟨a, b, c, gap, t, room, rfl, -⟩
      exact absurd rfl (hshape a b c (gap :: t))

theorem looksLikeField_equals (t : Text) : Format.looksLikeField .mrk ('=' :: t) := by
  have hequals : ¬isBlank '=' := by decide
  simp [Format.looksLikeField, Text.trim_cons_of_not_isBlank hequals]

end Mrk

namespace LineMode

variable {l : Text}

/-- A line with a blank behind its tag is no leader, whatever follows. -/
theorem not_isLeader_trim {a b c gap : Char} {rest : Text} (ha : ¬isBlank a) (hgap : isBlank gap) :
    ¬isLeader (Text.trim (a :: b :: c :: gap :: rest)) := by
  intro h
  rw [Text.trim_cons_of_not_isBlank ha] at h
  obtain ⟨tail, htail⟩ := Text.trimRight_isPrefix (b :: c :: gap :: rest)
  simp only [isLeader, Bool.and_eq_true, decide_eq_true_eq] at h
  obtain ⟨⟨hlen, hdigits⟩, -⟩ := h
  -- The blank stays where it is, among the characters that have to be digits.
  match htrim : Text.trimRight (b :: c :: gap :: rest), htail with
  | [], _ => simp [htrim] at hlen
  | [_], _ => simp [htrim] at hlen
  | [_, _], _ => simp [htrim] at hlen
  | _ :: _ :: d :: _, htail =>
    have hd : d = gap := by simpa using (List.cons.inj (List.cons.inj (List.cons.inj htail).2).2).1
    have hdecimal : isDecimal gap := by
      rw [htrim, hd] at hdigits
      simp only [List.take_succ_cons, List.all_cons, Bool.and_eq_true] at hdigits
      exact hdigits.2.2.2.1
    exact not_isBlank_of_isDecimal hdecimal hgap

theorem isDecimal_of_isControlTag {a b c : Char} (h : isControlTag [a, b, c]) : isDecimal a := by
  unfold isControlTag at h
  split at h
  · next heq =>
    obtain ⟨⟩ := heq
    rfl
  · simp at h

theorem looksLikeField_of_isDecimal {a : Char} {t : Text} (ha : isDecimal a) :
    Format.looksLikeField .line (a :: t) := by
  simpa [Format.looksLikeField, Text.trim_cons_of_not_isBlank (not_isBlank_of_isDecimal ha)]
    using ha

/-- Whatever can be read in line mode starts with a decimal digit, blanks aside. -/
theorem looksLikeField_of_isSome {n : Int} (h : (field? l n).isSome) :
    Format.looksLikeField .line l := by
  rw [field?, Option.isSome_map, reading?] at h
  split at h
  · next hleader =>
    simp only [isLeader, Bool.and_eq_true, decide_eq_true_eq] at hleader
    obtain ⟨⟨hlen, hdigits⟩, -⟩ := hleader
    cases htrim : Text.trim l with
    | nil => simp [htrim] at hlen
    | cons a t =>
      rw [htrim] at hdigits
      have ha : isDecimal a := by simpa using List.all_eq_true.1 hdigits a (by simp)
      simpa [Format.looksLikeField, htrim] using ha
  · rw [Option.isSome_or, Bool.or_eq_true] at h
    rcases h with h | h
    · unfold controlField? at h
      split at h
      · split at h
        · next htag =>
          simp only [Bool.and_eq_true] at htag
          exact looksLikeField_of_isDecimal (isDecimal_of_isControlTag htag.1)
        · simp at h
      · simp at h
    · unfold dataField? at h
      split at h
      · split at h
        · next hcolumns =>
          simp only [List.all_cons, Bool.and_eq_true] at hcolumns
          exact looksLikeField_of_isDecimal hcolumns.1.1.1.1.1
        · simp at h
      · simp at h

/-- Where no leader stands, the columns are read. -/
theorem reading?_of_not_isLeader (h : ¬isLeader (Text.trim l)) :
    reading? l = (controlField? l).or (dataField? l) := by
  rw [reading?]
  exact if_neg h

section Columns

variable {a b c gap i j gap2 : Char} {rest data : Text}

theorem controlField?_eq_none (h : ¬(isControlTag [a, b, c] ∧ isBlank gap)) :
    controlField? (a :: b :: c :: gap :: rest) = none := by
  rw [controlField?, if_neg (by simpa using h)]

theorem controlField?_eq (htag : isControlTag [a, b, c]) (hgap : isBlank gap)
    (hrest : '\n' ∉ rest) :
    controlField? (a :: b :: c :: gap :: rest) =
      if rest = [] then none
      else some { tag := [a, b, c], kind := .control, content := some rest } := by
  rw [controlField?, if_pos (by simp [htag, hgap])]
  split
  · next hnil =>
    subst hnil
    rfl
  · next hne =>
    rw [Text.contentUpToEnd_of_newline_notMem hrest hne]
    rfl

theorem dataField?_eq_none (h : l.length < 7) : dataField? l = none := by
  unfold dataField?
  split
  · simp only [List.length_cons] at h
    omega
  · rfl

theorem dataField?_eq (hnewline : '\n' ∉ a :: b :: c :: gap :: i :: j :: gap2 :: data) :
    dataField? (a :: b :: c :: gap :: i :: j :: gap2 :: data) =
      if [a, b, c].all isDecimal ∧ isBlank gap ∧ isBlank gap2 then
        some { tag := [a, b, c], kind := .data, indicator1 := some [i], indicator2 := some [j]
               subfields := some (Subfield.scan (gap2 :: data)) }
      else none := by
  simp only [List.mem_cons, not_or] at hnewline
  obtain ⟨-, -, -, -, hi, hj, -, hdata⟩ := hnewline
  rw [dataField?, Text.upToEnd_of_newline_notMem hdata]
  simp only [Bool.and_eq_true, decide_eq_true_eq, Ne.symm hi, Ne.symm hj, ne_eq, not_false_eq_true,
    and_true, and_assoc]
  rfl

end Columns

end LineMode

/-- Whatever can be read looks like a field. -/
theorem Format.looksLikeField_of_field? {fmt : Format} (hfmt : fmt = .mrk ∨ fmt = .line) {l : Text}
    {n : Int} {f : Field} (h : fmt.field? l n = some f) : fmt.looksLikeField l := by
  rcases hfmt with rfl | rfl
  · change Mrk.field? l n = some f at h
    unfold Mrk.field? at h
    split at h
    · exact Mrk.looksLikeField_equals _
    · cases h
  · exact LineMode.looksLikeField_of_isSome (Option.isSome_of_mem h)

end MarcLens

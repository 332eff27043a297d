import MarcLens.Proofs.Reading
import Mathlib.Data.Nat.Find

/-!
# Lines of data fields

Where the parts of a data field stand in the line that it was read from. In line mode they have
columns of their own. In MRK the blanks behind the tag are taken as far as they go, and given back
as long as what follows them is refused. This holds of every text that is read, also of one with
line feeds among its blanks or at its end.

## Main definitions

- `Text.gapTaken`: how many blanks are taken
- `Format.indicatorsAt`, `Format.dataAt`: where the indicators and the subfield data stand
- `Format.ReadsData`: a line that is read as a data field, taken apart
- `Format.IsDataLine`: a line that is read as a data field without dollar signs as indicators

## Main statements

- `Text.afterBlanks_eq_gapTaken`: what follows the blanks that are taken is what is accepted
- `Format.exists_readsData`: every line that is read as a data field can be taken apart
-/

namespace MarcLens

namespace Text

variable {α : Type} {accept : Text → Option α} {t body : Text}

/-- The greatest number of blanks at the start of a text behind which something is accepted, or 0 if
    there is none. -/
def gapTaken (accept : Text → Option α) (t : Text) : Nat :=
  Nat.findGreatest (fun k => (accept (t.drop k)).isSome) t.leadingBlanks

theorem gapTaken_le_leadingBlanks (accept : Text → Option α) (t : Text) :
    gapTaken accept t ≤ t.leadingBlanks :=
  Nat.findGreatest_le _

theorem gapTaken_le_length (accept : Text → Option α) (t : Text) : gapTaken accept t ≤ t.length :=
  (gapTaken_le_leadingBlanks accept t).trans t.leadingBlanks_le_length

/-- Only blanks are taken. -/
theorem isVoid_take_gapTaken (accept : Text → Option α) (t : Text) :
    isVoid (t.take (gapTaken accept t)) := by
  have htake : t.take t.leadingBlanks = t.takeWhile isBlank :=
    (List.prefix_iff_eq_take.1 (List.takeWhile_prefix isBlank)).symm
  rw [isVoid_iff]
  intro c hc
  have hmem := List.take_subset_take_left t (gapTaken_le_leadingBlanks accept t) hc
  rw [htake] at hmem
  exact List.mem_takeWhile_imp hmem

theorem isSome_accept_gapTaken (h : 0 < gapTaken accept t) :
    (accept (t.drop (gapTaken accept t))).isSome := by
  obtain ⟨k, -, hk, haccept⟩ := Nat.findGreatest_pos.1 h
  exact Nat.findGreatest_spec (P := fun k => (accept (t.drop k)).isSome) hk haccept

/-- A blank in front is taken if anything behind it is accepted. -/
theorem gapTaken_cons_of_isBlank {c : Char} (hc : isBlank c) :
    gapTaken accept (c :: t) =
      if 0 < gapTaken accept t ∨ (accept t).isSome then gapTaken accept t + 1 else 0 := by
  rw [gapTaken, leadingBlanks_cons_of_isBlank hc, Nat.findGreatest_eq_iff]
  have hgreatest : ∀ n, gapTaken accept t < n → n ≤ t.leadingBlanks →
      ¬(accept (t.drop n)).isSome := fun n => Nat.findGreatest_is_greatest
  have hle := gapTaken_le_leadingBlanks accept t
  split
  · next h =>
    refine ⟨by omega, fun _ => ?_, ?_⟩
    · rw [List.drop_succ_cons]
      by_cases hpos : 0 < gapTaken accept t
      · exact isSome_accept_gapTaken hpos
      · rw [Nat.eq_zero_of_not_pos hpos]
        exact h.resolve_left hpos
    · intro n hn hnle
      obtain ⟨m, rfl⟩ := Nat.exists_eq_succ_of_ne_zero (Nat.ne_of_gt (Nat.zero_lt_of_lt hn))
      exact hgreatest m (by omega) (by omega)
  · next h =>
    obtain ⟨hzero, hnone⟩ := not_or.1 h
    refine ⟨Nat.zero_le _, fun hne => absurd rfl hne, ?_⟩
    intro n hn hnle
    obtain ⟨m, rfl⟩ := Nat.exists_eq_succ_of_ne_zero (Nat.ne_of_gt hn)
    rcases Nat.eq_zero_or_pos m with rfl | hm
    · exact hnone
    · exact hgreatest m (by omega) (by omega)

/-- What follows the blanks that are taken is what is accepted. -/
theorem afterBlanks_eq_gapTaken (accept : Text → Option α) (t : Text) :
    afterBlanks accept t =
      if 0 < gapTaken accept t then accept (t.drop (gapTaken accept t)) else none := by
  induction t with
  | nil => rfl
  | cons c cs ih =>
    by_cases hc : isBlank c
    · rw [afterBlanks, if_pos hc, ih, gapTaken_cons_of_isBlank hc]
      by_cases hpos : 0 < gapTaken accept cs
      · -- More blanks follow, and `c` is one more of them.
        obtain ⟨a, ha⟩ := Option.isSome_iff_exists.1 (isSome_accept_gapTaken hpos)
        rw [if_pos hpos, ha, if_pos (Or.inl hpos), if_pos (Nat.succ_pos _), List.drop_succ_cons, ha]
      · rw [if_neg hpos]
        cases haccept : accept cs with
        | none => simp [hpos]
        | some a => simp [Nat.eq_zero_of_not_pos hpos, haccept]
    · have hzero : gapTaken accept (c :: cs) = 0 := by
        have hle := gapTaken_le_leadingBlanks accept (c :: cs)
        rw [leadingBlanks_eq_zero (t := c :: cs) hc] at hle
        omega
      rw [afterBlanks, if_neg hc, hzero]
      rfl

/-- What `upToEnd` leaves out at the end of a text. -/
def isLineEnd (t : Text) : Bool := t = [] || t = ['\n']

theorem upToEnd_eq_some_iff :
    upToEnd t = some body ↔ '\n' ∉ body ∧ ∃ tail, t = body ++ tail ∧ isLineEnd tail := by
  have hsplit : t.takeWhile (· ≠ '\n') ++ t.drop (t.takeWhile (· ≠ '\n')).length = t :=
    List.prefix_iff_eq_append.1 (List.takeWhile_prefix _)
  simp only [upToEnd, isLineEnd, Bool.or_eq_true, decide_eq_true_eq, Option.ite_none_right_eq_some,
    Option.some.injEq]
  constructor
  · rintro ⟨hend, rfl⟩
    refine ⟨fun hmem => ?_, _, hsplit.symm, hend⟩
    simpa using List.mem_takeWhile_imp hmem
  · rintro ⟨hnewline, tail, rfl, hend⟩
    have htake : (body ++ tail).takeWhile (· ≠ '\n') = body := by
      rw [List.takeWhile_append_of_pos fun c hc => by simpa using ne_of_mem_of_not_mem hc hnewline]
      rcases hend with rfl | rfl <;> simp
    rw [htake, List.drop_left]
    exact ⟨hend, rfl⟩

end Text

namespace Mrk

variable {t l : Text} {n : Int} {f : Field}

theorem indicatorsAndData_eq_some_iff {i j : Char} {data : Text} :
    indicatorsAndData t = some (i, j, data) ↔
      '\n' ∉ i :: j :: data ∧ ∃ tail, t = i :: j :: (data ++ tail) ∧ Text.isLineEnd tail := by
  constructor
  · intro h
    unfold indicatorsAndData at h
    split at h
    · next a b rest =>
      obtain ⟨hne, h⟩ := Option.ite_none_left_eq_some.1 h
      obtain ⟨data', hdata, heq⟩ := Option.map_eq_some_iff.1 h
      obtain ⟨rfl, rfl, rfl⟩ : a = i ∧ b = j ∧ data' = data := by simpa using heq
      obtain ⟨hnewline, tail, rfl, hend⟩ := Text.upToEnd_eq_some_iff.1 hdata
      obtain ⟨ha, hb⟩ := not_or.1 hne
      refine ⟨?_, tail, rfl, hend⟩
      simp [Ne.symm ha, Ne.symm hb, hnewline]
    · cases h
  · rintro ⟨hnewline, tail, rfl, hend⟩
    simp only [List.mem_cons, not_or] at hnewline
    obtain ⟨hi, hj, hdata⟩ := hnewline
    rw [indicatorsAndData, if_neg (not_or.2 ⟨Ne.symm hi, Ne.symm hj⟩),
      Text.upToEnd_eq_some_iff.2 ⟨hdata, tail, rfl, hend⟩]
    rfl

/-- The place of the first indicator in what follows a tag. -/
abbrev gapBehindTag (rest : Text) : Nat := Text.gapTaken indicatorsAndData rest

theorem kind_of_contentField? {kind : FieldKind} {tag rest : Text}
    (h : contentField? kind tag rest = some f) : f.kind = kind := by
  obtain ⟨content, -, rfl⟩ := Option.map_eq_some_iff.1 h
  rfl

/-- The line of a data field: a tag of ASCII digits, the blanks that are taken, and the rest. -/
theorem exists_eq_of_data (hread : field? l n = some f) (hkind : f.kind = .data) :
    ∃ a b c rest i j data, l = '=' :: a :: b :: c :: rest ∧ [a, b, c].all Char.isDigit ∧
      0 < gapBehindTag rest ∧
      indicatorsAndData (rest.drop (gapBehindTag rest)) = some (i, j, data) ∧
      f.indicator1 = some (indicator i) ∧ f.indicator2 = some (indicator j) ∧
      f.subfields = some (Subfield.scan data) := by
  unfold field? at hread
  split at hread
  · next a b c rest =>
    obtain ⟨g, hg, rfl⟩ := Option.map_eq_some_iff.1 hread
    change g.kind = .data at hkind
    rw [taggedField?] at hg
    split at hg
    · cases (kind_of_contentField? hg).symm.trans hkind
    · obtain ⟨hdigits, hg⟩ := Option.ite_none_right_eq_some.1 hg
      split at hg
      · cases (kind_of_contentField? hg).symm.trans hkind
      · rw [dataField?, Text.afterBlanks_eq_gapTaken] at hg
        obtain ⟨⟨i, j, data⟩, hgap, rfl⟩ := Option.map_eq_some_iff.1 hg
        obtain ⟨hpos, hparts⟩ := Option.ite_none_right_eq_some.1 hgap
        exact ⟨a, b, c, rest, i, j, data, rfl, by simpa [and_assoc] using hdigits, hpos, hparts,
          rfl, rfl, rfl⟩
  · cases hread

end Mrk

namespace LineMode

variable {l : Text} {n : Int} {f : Field}

theorem kind_of_controlField? (h : controlField? l = some f) : f.kind = .control := by
  unfold controlField? at h
  split at h
  · obtain ⟨-, h⟩ := Option.ite_none_right_eq_some.1 h
    obtain ⟨content, -, rfl⟩ := Option.map_eq_some_iff.1 h
    rfl
  · cases h

/-- The line of a data field: its columns and the rest. -/
theorem exists_eq_of_dataField? (h : dataField? l = some f) :
    ∃ a b c gap i j gap2 rest data, l = a :: b :: c :: gap :: i :: j :: gap2 :: rest ∧
      [a, b, c].all isDecimal ∧ isBlank gap ∧ i ≠ '\n' ∧ j ≠ '\n' ∧ isBlank gap2 ∧
      Text.upToEnd rest = some data ∧ f.indicator1 = some [i] ∧ f.indicator2 = some [j] ∧
      f.subfields = some (Subfield.scan (gap2 :: data)) := by
  unfold dataField? at h
  split at h
  · next a b c gap i j gap2 rest =>
    obtain ⟨hcolumns, h⟩ := Option.ite_none_right_eq_some.1 h
    obtain ⟨data, hdata, rfl⟩ := Option.map_eq_some_iff.1 h
    simp only [Bool.and_eq_true, decide_eq_true_eq] at hcolumns
    obtain ⟨⟨⟨⟨htag, hgap⟩, hi⟩, hj⟩, hgap2⟩ := hcolumns
    exact ⟨a, b, c, gap, i, j, gap2, rest, data, rfl, htag, hgap, hi, hj, hgap2, hdata, rfl, rfl,
      rfl⟩
  · cases h

/-- A data field is read from the columns of its line. -/
theorem dataField?_of_data (hread : field? l n = some f) (hkind : f.kind = .data) :
    ∃ g, dataField? l = some g ∧ f = { g with line := n, stop := l.length } := by
  obtain ⟨g, hg, rfl⟩ := Option.map_eq_some_iff.1 hread
  change g.kind = .data at hkind
  rw [reading?] at hg
  split at hg
  · obtain rfl := Option.some.inj hg
    cases hkind
  · rcases Option.or_eq_some_iff.1 hg with hcontrol | ⟨-, hdata⟩
    · cases (kind_of_controlField? hcontrol).symm.trans hkind
    · exact ⟨g, hdata, rfl⟩

end LineMode

namespace Format

variable {fmt : Format} {l : Text} {n : Int} {f : Field}

/-- The place in a line from which the first indicator of a data field is read. -/
def indicatorsAt : Format → Text → Nat
  | .line, _ => 4
  | _, l => 4 + Mrk.gapBehindTag (l.drop 4)

theorem four_le_indicatorsAt (fmt : Format) (l : Text) : 4 ≤ fmt.indicatorsAt l := by
  cases fmt <;> simp [indicatorsAt]

/-- The place in a line at which the subfield data of a data field begins. -/
def dataAt (fmt : Format) (l : Text) : Nat := fmt.indicatorsAt l + 2

/-- An indicator as it is kept: in MRK every blank counts as a space. -/
def indicator : Format → Char → Text
  | .line, c => [c]
  | _, c => Mrk.indicator c

/-- A line is read as a data field with the indicators `i` and `j` and some subfield data, which
    stand where the format looks for them. What the reading leaves out at the end is `tail`. -/
structure ReadsData (fmt : Format) (l : Text) (f : Field) (i j : Char) (data tail : Text) :
    Prop where
  parts : l.drop (fmt.indicatorsAt l) = i :: j :: (data ++ tail)
  dollar_notMem : '$' ∉ l.take (fmt.indicatorsAt l)
  isLineEnd : Text.isLineEnd tail
  indicator1 : f.indicator1 = some (fmt.indicator i)
  indicator2 : f.indicator2 = some (fmt.indicator j)
  subfields : f.subfields = some (Subfield.scan data)

theorem ReadsData.drop_dataAt {i j : Char} {data tail : Text}
    (h : ReadsData fmt l f i j data tail) : l.drop (fmt.dataAt l) = data ++ tail := by
  rw [dataAt, ← List.drop_drop, h.parts]
  rfl

theorem not_dollar_of_isDecimal {c : Char} (h : isDecimal c) : c ≠ '$' := by
  rintro rfl
  exact absurd h (by decide)

theorem not_dollar_of_isBlank {c : Char} (h : isBlank c) : c ≠ '$' := by
  rintro rfl
  exact absurd h (by decide)

theorem exists_readsData_line (hread : LineMode.field? l n = some f) (hkind : f.kind = .data) :
    ∃ i j data tail, ReadsData .line l f i j data tail := by
  obtain ⟨g, hg, rfl⟩ := LineMode.dataField?_of_data hread hkind
  obtain ⟨a, b, c, gap, i, j, gap2, rest, data, rfl, htag, hgap, -, -, -, hdata, h1, h2, hsub⟩ :=
    LineMode.exists_eq_of_dataField? hg
  obtain ⟨-, tail, rfl, hend⟩ := Text.upToEnd_eq_some_iff.1 hdata
  refine ⟨i, j, gap2 :: data, tail, rfl, ?_, hend, h1, h2, hsub⟩
  intro hmem
  have hmem : '$' ∈ [a, b, c] ++ [gap] := hmem
  rcases List.mem_append.1 hmem with hmem | hmem
  · exact not_dollar_of_isDecimal (List.all_eq_true.1 htag _ hmem) rfl
  · rw [List.mem_singleton] at hmem
    exact not_dollar_of_isBlank hgap hmem.symm

theorem exists_readsData_mrk (hfmt : fmt ≠ .line) (hread : Mrk.field? l n = some f)
    (hkind : f.kind = .data) : ∃ i j data tail, ReadsData fmt l f i j data tail := by
  obtain ⟨a, b, c, rest, i, j, data, rfl, htag, -, hparts, h1, h2, hsub⟩ :=
    Mrk.exists_eq_of_data hread hkind
  obtain ⟨-, tail, hdrop, hend⟩ := Mrk.indicatorsAndData_eq_some_iff.1 hparts
  have hat : fmt.indicatorsAt ('=' :: a :: b :: c :: rest) = Mrk.gapBehindTag rest + 4 := by
    rw [Nat.add_comm]
    cases fmt <;> first | rfl | exact absurd rfl hfmt
  have hindicator : fmt.indicator = Mrk.indicator := by
    cases fmt <;> first | rfl | exact absurd rfl hfmt
  refine ⟨i, j, data, tail, ?_, ?_, hend, ?_, ?_, hsub⟩
  · rw [hat]
    exact hdrop
  · rw [hat]
    intro hmem
    have hmem : '$' ∈ ['='] ++ ([a, b, c] ++ rest.take (Mrk.gapBehindTag rest)) := hmem
    rcases List.mem_append.1 hmem with hmem | hmem
    · exact absurd hmem (by decide)
    rcases List.mem_append.1 hmem with hmem | hmem
    · exact not_dollar_of_isDecimal (isDecimal_of_isDigit (List.all_eq_true.1 htag _ hmem)) rfl
    · have hvoid := Text.isVoid_take_gapTaken Mrk.indicatorsAndData rest
      exact not_dollar_of_isBlank (Text.isVoid_iff.1 hvoid _ hmem) rfl
  · rw [h1, hindicator]
  · rw [h2, hindicator]

/-- Every line that is read as a data field can be taken apart. -/
theorem exists_readsData (hread : fmt.field? l n = some f) (hkind : f.kind = .data) :
    ∃ i j data tail, ReadsData fmt l f i j data tail := by
  cases fmt with
  | line => exact exists_readsData_line hread hkind
  | mrk => exact exists_readsData_mrk (by decide) hread hkind
  | other => exact exists_readsData_mrk (by decide) hread hkind

/-- A line is read as a data field, and neither of its indicators is a dollar sign. -/
structure IsDataLine (fmt : Format) (l : Text) (f : Field) : Prop where
  read : ∃ n, fmt.field? l n = some f
  kind : f.kind = .data
  indicator1 : f.indicator1 ≠ some ['$']
  indicator2 : f.indicator2 ≠ some ['$']

theorem indicator_dollar (fmt : Format) : fmt.indicator '$' = ['$'] := by
  cases fmt <;> rfl

/-- In front of the subfield data of a data line there is no dollar sign. -/
theorem IsDataLine.exists_data (h : fmt.IsDataLine l f) :
    ∃ data tail, l.drop (fmt.dataAt l) = data ++ tail ∧ Text.isLineEnd tail ∧
      '$' ∉ l.take (fmt.dataAt l) ∧ f.subfields = some (Subfield.scan data) := by
  obtain ⟨n, hread⟩ := h.read
  obtain ⟨i, j, data, tail, hdata⟩ := exists_readsData hread h.kind
  have hi : i ≠ '$' := by
    rintro rfl
    exact h.indicator1 (by rw [hdata.indicator1, indicator_dollar])
  have hj : j ≠ '$' := by
    rintro rfl
    exact h.indicator2 (by rw [hdata.indicator2, indicator_dollar])
  refine ⟨data, tail, hdata.drop_dataAt, hdata.isLineEnd, ?_, hdata.subfields⟩
  rw [dataAt, List.take_add, hdata.parts]
  intro hmem
  rcases List.mem_append.1 hmem with hmem | hmem
  · exact hdata.dollar_notMem hmem
  · simp [Ne.symm hi, Ne.symm hj] at hmem

end Format

end MarcLens

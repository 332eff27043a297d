import MarcLens.Document
import MarcLens.Proofs.Grammar.Mrk
import MarcLens.Proofs.Hover.Walk
import Mathlib.Data.List.Sort

/-!
# The subfield under a cursor

A cursor counts characters from the start of its line, and so does the span of a field. The spans
of its subfields count from the start of the subfield data, which stands behind the tag and the
indicators. So a subfield is found under a cursor only up to where it would end if it stood that
much further to the front. Every subfield loses its last characters in this way. If the cursor is
counted from the start of the subfield data as well, each subfield is found wherever it stands.

## Main definitions

- `Mrk.dollars`: where the dollar signs of the subfields stand in a line
- `Mrk.FindsUnderCursor`: looking up a cursor finds the subfield in which it stands

## Main statements

- `Field.subfieldAt?_eq_some_iff`: where a subfield is found
- `Mrk.subfieldAt?_iff_of_dollar`: which of the cursors in a subfield find it
-/

namespace MarcLens

namespace Subfield

/-! ### The dollar signs of a line -/

theorem nextDollar_drop (l : Text) (d i : Nat) :
    nextDollar l (d + i) = d + nextDollar (l.drop d) i := by
  rw [nextDollar, nextDollar, List.drop_drop, ← Nat.add_assoc d i 1]
  omega

/-- The markers of a line from a place on are those of the text that begins there. -/
theorem filter_markers (l : Text) (d : Nat) :
    (markers l).filter (d ≤ ·) = (markers (l.drop d)).map (d + ·) := by
  have hright : ((markers (l.drop d)).map (d + ·)).Pairwise (· < ·) := by
    rw [List.pairwise_map]
    exact (pairwise_markers (l.drop d)).imp fun hij => Nat.add_lt_add_left hij d
  refine ((pairwise_markers l).filter _).eq_of_mem_iff hright ?_
  intro p
  simp only [List.mem_filter, mem_markers_iff, decide_eq_true_eq, List.mem_map, isMarkerAt_drop]
  constructor
  · rintro ⟨hmarker, hle⟩
    obtain ⟨i, rfl⟩ := Nat.exists_eq_add_of_le hle
    exact ⟨i, hmarker, rfl⟩
  · rintro ⟨i, hmarker, rfl⟩
    exact ⟨hmarker, Nat.le_add_right d i⟩

end Subfield

theorem Text.eq_nil_of_isLineEnd {t : Text} (hend : isLineEnd t) (h : '\n' ∉ t) : t = [] := by
  simp only [isLineEnd, Bool.or_eq_true, decide_eq_true_eq] at hend
  rcases hend with rfl | rfl
  · rfl
  · exact absurd List.mem_cons_self h

namespace Format

variable {fmt : Format} {l : Text} {n : Int} {f : Field}

/-- On a line without line feeds the subfield data reaches up to the end of the line. -/
theorem subfieldList_eq_scan (hread : fmt.field? l n = some f) (hkind : f.kind = .data)
    (hline : '\n' ∉ l) : f.subfieldList = Subfield.scan (l.drop (fmt.dataAt l)) := by
  obtain ⟨i, j, data, tail, hdata⟩ := exists_readsData hread hkind
  have hsplit := hdata.drop_dataAt
  have htail : tail = [] := by
    refine Text.eq_nil_of_isLineEnd hdata.isLineEnd fun hmem => hline ?_
    refine List.mem_of_mem_drop (i := fmt.dataAt l) ?_
    rw [hsplit]
    exact List.mem_append_right data hmem
  rw [Field.subfieldList, hdata.subfields, hsplit, htail, List.append_nil]
  rfl

end Format

/-! ### Looking up a position -/

/-- Of subfields that stand one behind the other, one is found at a position behind its start iff
    the position is not behind its end. -/
theorem Field.subfieldAt?_eq_some_iff {f : Field} {s : Subfield} {k : Nat} {c : Int}
    (hapart : f.subfieldList.Pairwise fun s u => s.stop ≤ u.start)
    (hk : f.subfieldList[k]? = some s) (hc : s.start < c) :
    f.subfieldAt? c = some s ↔ c ≤ s.stop := by
  rw [subfieldAt?]
  constructor
  · intro hfound
    have hcovers := List.find?_some hfound
    simp only [Bool.and_eq_true, decide_eq_true_eq] at hcovers
    exact hcovers.2
  · intro hle
    obtain ⟨hlt, rfl⟩ := List.getElem?_eq_some_iff.1 hk
    refine List.find?_eq_some_iff_getElem.2 ⟨?_, k, hlt, rfl, ?_⟩
    · simp only [Bool.and_eq_true, decide_eq_true_eq]
      omega
    · -- Everything in front ends before the position.
      intro j hj
      have hstop := List.pairwise_iff_getElem.1 hapart j k (by omega) hlt hj
      simp only [Bool.not_eq_true', Bool.and_eq_false_iff, decide_eq_false_iff_not]
      omega

namespace Mrk

open MarcLens.Subfield

variable {l : Text} {n : Int} {f : Field} {k p : Nat}

/-- A field spans its whole line. -/
theorem start_stop_of_field? (hread : field? l n = some f) (hline : '\n' ∉ l) :
    f.start = 0 ∧ f.stop = l.length := by
  obtain ⟨kind, -, rfl⟩ := (field?_eq_some_iff_spells hline).1 hread
  cases kind <;> exact ⟨rfl, rfl⟩

/-- The places in a data line at which the dollar signs of its subfields stand. -/
def dollars (l : Text) : List Nat := (markers l).filter (Format.dataAt .mrk l ≤ ·)

/-- The cursor stands in the subfield with index `k`: behind its dollar sign, and in front of the
    next dollar sign or of the end of the line. -/
def IsInSubfield (l : Text) (k : Nat) (c : Int) : Prop :=
  ∃ p, (dollars l)[k]? = some p ∧ p < c ∧ c < nextDollar l p

/-- Looking up a cursor finds the subfield in which it stands. -/
def FindsUnderCursor (l : Text) (f : Field) : Prop :=
  ∀ k c, IsInSubfield l k c → ∃ s, f.subfieldList[k]? = some s ∧ f.subfieldAt? c = some s

/-- From each of the dollar signs a subfield is read. Its span counts from the start of the subfield
    data. -/
theorem exists_subfield_of_dollar (hread : Format.field? .mrk l n = some f) (hkind : f.kind = .data)
    (hline : '\n' ∉ l) (hk : (dollars l)[k]? = some p) :
    ∃ s, f.subfieldList[k]? = some s ∧ Format.dataAt .mrk l + s.start = p ∧
      Format.dataAt .mrk l + s.stop = nextDollar l p ∧ p + 1 < nextDollar l p := by
  rw [dollars, filter_markers, List.getElem?_map, Option.map_eq_some_iff] at hk
  obtain ⟨i, hi, rfl⟩ := hk
  have hmarker : isMarkerAt (l.drop (Format.dataAt .mrk l)) i :=
    mem_markers_iff.1 (List.mem_of_getElem? hi)
  obtain ⟨code, rest, -, -, -, -, hroom⟩ := exists_atMarker_eq hmarker
  have hlist := Format.subfieldList_eq_scan hread hkind hline
  refine ⟨atMarker (l.drop (Format.dataAt .mrk l)) i, ?_, rfl, ?_, ?_⟩
  · rw [hlist, scan_eq_map_atMarker, List.getElem?_map, hi]
    rfl
  · rw [nextDollar_drop]
    rfl
  · rw [nextDollar_drop]
    omega

/-- Where there is a subfield there is a dollar sign. -/
theorem length_dollars (hread : Format.field? .mrk l n = some f) (hkind : f.kind = .data)
    (hline : '\n' ∉ l) : (dollars l).length = f.subfieldList.length := by
  rw [Format.subfieldList_eq_scan hread hkind hline, scan_eq_map_atMarker, dollars,
    filter_markers, List.length_map, List.length_map]

/-- A cursor finds the subfield in which it stands iff it is not behind the end of the subfield,
    although the two count from different places. -/
theorem subfieldAt?_iff_of_dollar (hread : Format.field? .mrk l n = some f) (hkind : f.kind = .data)
    (hline : '\n' ∉ l) (hk : (dollars l)[k]? = some p) :
    ∃ s, f.subfieldList[k]? = some s ∧ Format.dataAt .mrk l + s.start = p ∧
      Format.dataAt .mrk l + s.stop = nextDollar l p ∧
      ∀ c : Int, p < c → c < nextDollar l p →
        (f.subfieldAt? c = some s ↔ c ≤ s.stop) ∧
        f.subfieldAt? (c - Format.dataAt .mrk l) = some s := by
  obtain ⟨s, hs, hstart, hstop, -⟩ := exists_subfield_of_dollar hread hkind hline hk
  have hfound := fun c => Field.subfieldAt?_eq_some_iff (c := c)
    (Format.pairwise_subfieldList hread hkind) hs
  refine ⟨s, hs, hstart, hstop, ?_⟩
  intro c hpc hc
  refine ⟨hfound c (by omega), (hfound (c - Format.dataAt .mrk l) ?_).2 ?_⟩
  · omega
  · omega

/-- In every field that has subfields, there is a cursor that does not find the one in which it
    stands. -/
theorem findsUnderCursor_iff_eq_nil (hread : Format.field? .mrk l n = some f)
    (hkind : f.kind = .data) (hline : '\n' ∉ l) :
    FindsUnderCursor l f ↔ f.subfieldList = [] := by
  constructor
  · -- The cursor on the last character of the first subfield is behind its end.
    intro hfinds
    by_contra hne
    have hpos : 0 < (dollars l).length := by
      rw [length_dollars hread hkind hline]
      exact List.length_pos_iff.2 hne
    have hk := List.getElem?_eq_getElem hpos
    obtain ⟨s, hs, hstart, hstop, hroom⟩ := exists_subfield_of_dollar hread hkind hline hk
    have hdata : 4 + 2 ≤ Format.dataAt .mrk l :=
      Nat.add_le_add_right (Format.four_le_indicatorsAt .mrk l) 2
    obtain ⟨u, hu, hfound⟩ := hfinds 0 (nextDollar l (dollars l)[0] - 1)
      ⟨_, hk, by omega, by omega⟩
    obtain rfl := Option.some.inj (hs.symm.trans hu)
    have hle := (Field.subfieldAt?_eq_some_iff (Format.pairwise_subfieldList hread hkind) hs
      (by omega)).1 hfound
    omega
  · rintro hnil k c ⟨p, hk, -⟩
    obtain ⟨s, hs, -⟩ := exists_subfield_of_dollar hread hkind hline hk
    rw [hnil] at hs
    cases hs

end Mrk

namespace Document

variable {document : Text} {number : Int} {f : Field}

theorem newline_notMem_of_line? {l : Text} (h : line? document number = .ok (some l)) :
    '\n' ∉ l := by
  rw [line?] at h
  dsimp only at h
  split at h
  · cases h
  · generalize (if number < 0 then number + document.lines.length else number) = index at h
    split at h
    · cases h
    · exact Text.newline_notMem_of_mem_lines (List.mem_of_getElem? (Except.ok.inj h))

theorem exists_line_of_fieldAt? (h : fieldAt? document number = .ok (some f)) :
    ∃ l, line? document number = .ok (some l) ∧ Format.field? .mrk l (number + 1) = some f := by
  rw [fieldAt?] at h
  cases hline : line? document number with
  | error fault =>
    rw [hline] at h
    cases h
  | ok line =>
    rw [hline] at h
    obtain ⟨l, rfl, hread⟩ := Option.bind_eq_some_iff.1 (Except.ok.inj h)
    exact ⟨l, rfl, hread⟩

/-- A field counts from the start of its line, and its subfields from the start of the subfield
    data. So a cursor finds the subfield in which it stands iff the cursor, counted from the start
    of the line, is not behind the end of the subfield, counted from the start of the data. Counted
    from there as well, every cursor finds the subfield in which it stands. Counted from the start
    of the line, all of them do so only in a field without subfields. -/
theorem findsUnderCursor_iff (hread : fieldAt? document number = .ok (some f))
    (hkind : f.kind = .data) :
    ∃ l, line? document number = .ok (some l) ∧ f.start = 0 ∧ f.stop = l.length ∧
      (∀ k p : Nat, (Mrk.dollars l)[k]? = some p →
        ∃ s, f.subfieldList[k]? = some s ∧ Format.dataAt .mrk l + s.start = p ∧
          Format.dataAt .mrk l + s.stop = Subfield.nextDollar l p ∧
          ∀ c : Int, p < c → c < Subfield.nextDollar l p →
            (f.subfieldAt? c = some s ↔ c ≤ s.stop) ∧
            f.subfieldAt? (c - Format.dataAt .mrk l) = some s) ∧
      (Mrk.FindsUnderCursor l f ↔ f.subfieldList = []) := by
  obtain ⟨l, hget, hfield⟩ := exists_line_of_fieldAt? hread
  have hline := newline_notMem_of_line? hget
  obtain ⟨hstart, hstop⟩ := Mrk.start_stop_of_field? hfield hline
  refine ⟨l, hget, hstart, hstop, ?_, Mrk.findsUnderCursor_iff_eq_nil hfield hkind hline⟩
  intro k p hk
  exact Mrk.subfieldAt?_iff_of_dollar hfield hkind hline hk

/-- A long subfield is found under the first cursors that stand in it, and then no more. -/
theorem findsUnderCursor_iff_long_title :
    let document := "=001  x\n=245  10$aA longer title$bsub".toList
    let l := "=245  10$aA longer title$bsub".toList
    let s : Subfield :=
      { code := ['a'], content := "A longer title".toList, start := 0, stop := 16 }
    let f : Field :=
      { tag := ['2', '4', '5'], indicator1 := some ['1'], indicator2 := some ['0']
        subfields := some [s, { code := ['b'], content := "sub".toList, start := 16, stop := 21 }]
        line := 2, stop := 29 }
    fieldAt? document 1 = .ok (some f) ∧ f.kind = .data ∧ line? document 1 = .ok (some l) ∧
      Mrk.IsInSubfield l 0 16 ∧ f.subfieldAt? 16 = some s ∧
      Mrk.IsInSubfield l 0 17 ∧ f.subfieldAt? 17 ≠ some s ∧
      f.subfieldAt? (17 - Format.dataAt .mrk l) = some s ∧ ¬Mrk.FindsUnderCursor l f := by
  intro document l s f
  have hread : fieldAt? document 1 = .ok (some f) := rfl
  have hk : (Mrk.dollars l)[0]? = some 8 := by decide
  have hnext : Subfield.nextDollar l 8 = 24 := by decide
  obtain ⟨l', hline, -, -, hcursor, hfinds⟩ := findsUnderCursor_iff hread rfl
  obtain rfl : l' = l := Option.some.inj (Except.ok.inj hline.symm)
  obtain ⟨s', hs, -, -, hwithin⟩ := hcursor 0 8 hk
  obtain rfl : s' = s := Option.some.inj hs.symm
  obtain ⟨hearly, -⟩ := hwithin 16 (by decide) (by rw [hnext]; decide)
  obtain ⟨hlate, hcounted⟩ := hwithin 17 (by decide) (by rw [hnext]; decide)
  refine ⟨hread, rfl, hline, ⟨8, hk, ?_⟩, hearly.2 (by decide), ⟨8, hk, ?_⟩, ?_, hcounted, ?_⟩
  · rw [hnext]
    decide
  · rw [hnext]
    decide
  · exact fun hfound => absurd (hlate.1 hfound) (by decide)
  · exact fun hall => absurd (hfinds.1 hall) (by decide)

/-- A cursor in the title finds the subtitle. -/
theorem next_subfield_found_under_cursor :
    let l := "=245  10$aTitle$bsub".toList
    let s : Subfield := { code := ['a'], content := "Title".toList, start := 0, stop := 7 }
    let u : Subfield := { code := ['b'], content := "sub".toList, start := 7, stop := 12 }
    let f : Field :=
      { tag := ['2', '4', '5'], indicator1 := some ['1'], indicator2 := some ['0']
        subfields := some [s, u], line := 1, stop := 20 }
    fieldAt? l 0 = .ok (some f) ∧ f.kind = .data ∧ line? l 0 = .ok (some l) ∧
      Mrk.IsInSubfield l 0 10 ∧ f.subfieldList[0]? = some s ∧ f.subfieldAt? 10 = some u ∧
      ¬Mrk.FindsUnderCursor l f := by
  intro l s u f
  have hwithin : Mrk.IsInSubfield l 0 10 := ⟨8, by decide, by decide, by decide⟩
  refine ⟨rfl, rfl, rfl, hwithin, rfl, rfl, ?_⟩
  intro hfinds
  obtain ⟨v, hv, hfound⟩ := hfinds 0 10 hwithin
  obtain rfl := Option.some.inj hv
  exact absurd hfound (by decide)

end Document

end MarcLens

import MarcLens.Proofs.Hover.Cases
import MarcLens.Proofs.Hover.Indicators
import MarcLens.Proofs.Hover.Walk

/-!
# The ranges of hovers

A hover finds the characters that it is about in five ways: it searches the line for the tag, it
adds the bounds of a position to the place where the content starts, it looks for indicators in a
way of its own, it walks over the subfields, or it takes the whole line. What it finds always lies
inside the line and holds the cursor, except that the cursor may be in the blanks behind an open
position.

A walk over a line with a dollar sign among its indicators may take this sign for a marker, and then
finds every subfield too early. But it never overtakes the places from which the subfields were
read, so it stays inside the line as well.

## Main definitions

- `Located.FitsLine`: the range of an answer is inside its line and holds the cursor

## Main statements

- `Locate.fitsLine_of_positionFrom`: the cursor is on a position or in the blanks behind it
- `Locate.exists_of_mem_spansFrom`: a walk never overtakes the places of the subfields
-/

namespace MarcLens

/-! ### Answers that fit their line -/

/-- A note is on an open position. -/
def Note.isOnOpenPosition : Note → Bool
  | .position _ p _ => p.isOpen
  | _ => false

namespace Located

variable {found : Located} {line c : Int} {l : Text}

/-- The range of an answer for the character `c` of a line is inside this line and holds the
    character. Only behind an open position the character may be outside. -/
structure FitsLine (line : Int) (l : Text) (c : Int) (found : Located) : Prop where
  start_line : (found.range line).start.line = line
  stop_line : (found.range line).stop.line = line
  nonneg : 0 ≤ (found.range line).start.character
  ordered : (found.range line).start.character ≤ (found.range line).stop.character
  inside : (found.range line).stop.character ≤ l.length
  started : (found.range line).start.character ≤ c
  reached : ¬found.note.isOnOpenPosition → c ≤ (found.range line).stop.character

/-- Characters of the line that hold the cursor are enough. -/
theorem fitsLine_of_holds (hzero : 0 ≤ found.start) (hinside : found.stop ≤ l.length)
    (hstart : found.start ≤ c) (hstop : c ≤ found.stop) : found.FitsLine line l c :=
  ⟨rfl, rfl, hzero, Int.le_trans hstart hstop, hinside, hstart, fun _ => hstop⟩

end Located

namespace Locate

open MarcLens.Subfield

variable {cat : Catalogue} {fmt : Format} {l data tail : Text} {f : Field} {line c n : Int}
  {start d : Nat} {ms : List Nat} {found : Located} {type : Option RecordType} {t : RecordType}

theorem fitsLine_of_tag? (hc : c < l.length) (h : tag? cat fmt l f c = some found) :
    found.FitsLine line l c := by
  obtain ⟨start, definition, hstart, hfrom, hto, rfl⟩ := exists_of_tag?_eq_some h
  have hwritten := (Text.find?_eq_some_iff.1 hstart).1.length_le
  rw [List.length_drop] at hwritten
  refine Located.fitsLine_of_holds ?_ ?_ hfrom (Int.le_of_lt hto) <;> dsimp only <;> omega

/-- The cursor is on a position with a last character, and at the start of an open one or behind. -/
theorem fitsLine_of_positionFrom (hpositions : cat.startsInside) (hzero : 0 ≤ c)
    (hc : c < l.length) (hstart : (start : Int) ≤ c)
    (h : positionFrom cat l f c start t = .ok found) : found.FitsLine line l c := by
  rcases positionFrom_cases h with ⟨-, rfl⟩ | ⟨p, value, hp, -, rfl⟩
  · refine Located.fitsLine_of_holds hzero ?_ (Int.le_refl c) ?_ <;> dsimp only <;> omega
  · have hinside := Catalogue.of_position?_eq_some hpositions hp
    obtain ⟨hnonneg, hopenStart⟩ := Position.startsInside_iff.1 hinside
    obtain ⟨-, hcovers⟩ := Position.exists_of_first?_eq_some hp
    obtain ⟨hstarted, hreached⟩ := Position.covers_eq_ok_true_iff.1 hcovers
    have hlow : 0 ≤ p.start.capped (l.length - start) := Json.le_capped hnonneg (by omega)
    have hhigh : p.start.capped (l.length - start) ≤ c - start := Json.capped_le hnonneg hstarted
    by_cases hopen : p.isOpen
    · have hbegin : p.start.capped (l.length - start) ≤ 0 :=
        Json.capped_le hnonneg (Json.atMost?_of_isInt (hopenStart hopen))
      refine ⟨rfl, rfl, ?_, ?_, ?_, ?_, fun hnot => absurd hopen hnot⟩ <;>
        simp only [Located.range, Range.onLine, positionStop, if_pos hopen] <;> omega
    · have hlast : c - start ≤ p.stop.capped (l.length - start - 1) :=
        Json.le_capped (hreached.resolve_left hopen) (by omega)
      refine Located.fitsLine_of_holds ?_ ?_ ?_ ?_ <;>
        simp only [positionStop, if_neg hopen] <;> omega

theorem fitsLine_of_indicator? (hzero : 0 ≤ c) (hc : c < l.length)
    (h : indicator? cat fmt l f c = some found) : found.FitsLine line l c := by
  obtain ⟨places, number, -, -, rfl⟩ := indicator?_eq_some_iff.1 h
  refine Located.fitsLine_of_holds hzero ?_ (Int.le_refl c) ?_ <;> dsimp only <;> omega

/-! ### The walk over the subfields -/

/-- A walk that starts in front of all markers finds every subfield at its marker or earlier, and
    as long as it is. -/
theorem exists_of_mem_spansFrom (hsplit : l.drop d = data ++ tail) (hsorted : ms.Pairwise (· < ·))
    (hmarkers : ∀ m ∈ ms, isMarkerAt data m ∧ start ≤ d + m) {x : SubfieldSpan}
    (hx : x ∈ spansFrom l start (ms.map (atMarker data))) :
    ∃ m, isMarkerAt data m ∧ x.start ≤ d + m ∧
      x.stop = x.start + 2 + (atMarker data m).content.length := by
  induction ms generalizing start with
  | nil => cases hx
  | cons m ms ih =>
    obtain ⟨hfirst, hsorted⟩ := List.pairwise_cons.1 hsorted
    obtain ⟨hm, hstart⟩ := hmarkers m List.mem_cons_self
    have hbehind := fun m' hm' => (hmarkers m' (List.mem_cons_of_mem m hm'))
    rw [List.map_cons, spansFrom] at hx
    split at hx
    · exact ih hsorted hbehind hx
    · next i hi =>
      obtain ⟨code, rest, hdrop, -, hcode, -, hlen⟩ := exists_atMarker_eq hm
      have hle : i ≤ d + m - start := by
        refine Text.find?_le hi ?_
        rw [List.drop_drop, Nat.add_sub_cancel' hstart, drop_line_of_isMarkerAt hsplit hm, hdrop,
          hcode]
        exact ⟨rest ++ tail, rfl⟩
      have hwidth : (atMarker data m).code.length = 1 := by rw [hcode]; rfl
      rcases List.mem_cons.1 hx with rfl | hx
      · exact ⟨m, hm, by dsimp only; omega, by dsimp only; omega⟩
      · -- The next marker is behind the content of this subfield, wherever that was found.
        refine ih hsorted (fun m' hm' => ?_) hx
        have hmarker := (hbehind m' hm').1
        have hnext := nextDollar_le (hfirst m' hm') (isMarkerAt_iff.1 hmarker).1
        exact ⟨hmarker, by omega⟩

/-- A walk over a line that is read as a data field stays inside the line. -/
theorem stop_le_length_of_mem_spans (hread : fmt.field? l n = some f) (hkind : f.kind = .data)
    {x : SubfieldSpan} (hx : x ∈ spans l f.subfieldList) : x.stop ≤ l.length := by
  obtain ⟨i, j, data, tail, hdata⟩ := Format.exists_readsData hread hkind
  have hsplit : l.drop (fmt.dataAt l) = data ++ tail := by
    rw [Format.dataAt, ← List.drop_drop, hdata.parts]
    rfl
  rw [Field.subfieldList, hdata.subfields, Option.getD_some, scan_eq_map_atMarker, spans] at hx
  obtain ⟨m, hm, hstart, hstop⟩ := exists_of_mem_spansFrom hsplit (pairwise_markers data)
    (fun m hm => ⟨mem_markers_iff.1 hm, Nat.zero_le _⟩) hx
  obtain ⟨code, rest, -, -, -, -, hlen⟩ := exists_atMarker_eq hm
  have hnext := nextDollar_le_length (lt_length_of_isMarkerAt hm)
  have hline := congrArg List.length hsplit
  rw [List.length_drop, List.length_append] at hline
  have hlt := lt_length_of_isMarkerAt hm
  omega

theorem fitsLine_of_subfieldIn? (hread : fmt.field? l n = some f) (hkind : f.kind = .data)
    (h : subfieldIn? cat l f c f.subfieldList = some found) : found.FitsLine line l c := by
  obtain ⟨x, hx, rfl⟩ := Option.map_eq_some_iff.1 h
  have hholds := List.find?_some hx
  simp only [Bool.and_eq_true, decide_eq_true_eq] at hholds
  have hle := stop_le_length_of_mem_spans hread hkind (List.mem_of_find?_eq_some hx)
  refine Located.fitsLine_of_holds ?_ ?_ hholds.1 hholds.2 <;> dsimp only <;> omega

/-! ### All answers -/

/-- Whatever stands under a character of a line, its range is inside this line and holds the
    character. -/
theorem fitsLine_of_at? (hread : fmt.field? l n = some f) (hpositions : cat.startsInside)
    (hzero : 0 ≤ c) (hc : c < l.length) (line : Int)
    (hfound : at? cat fmt l f c type = .ok (some found)) : found.FitsLine line l c := by
  rcases at?_cases hfound with htag | hposition | hpart
  · exact fitsLine_of_tag? hc htag
  · obtain ⟨start, t, hstart, -, hposition⟩ := exists_of_position?_eq_some hposition
    exact fitsLine_of_positionFrom hpositions hzero hc (contentStart?_eq_some_iff.1 hstart).2.1
      hposition
  · rcases part?_cases hpart with ⟨hkind, hindicator | hsubfield⟩ | ⟨note, -, rfl⟩
    · exact fitsLine_of_indicator? hzero hc hindicator
    · exact fitsLine_of_subfieldIn? hread hkind hsubfield
    · exact Located.fitsLine_of_holds (Int.le_refl 0) (Int.le_refl _) hzero (Int.le_of_lt hc)

/-- The indicators are taken for the marker of the subfield behind them, and the subfield is found
    two characters too early. -/
theorem fitsLine_of_at?_dollar :
    let l := "=245  $a$aTitle".toList
    let f : Field :=
      { tag := ['2', '4', '5'], indicator1 := some ['$'], indicator2 := some ['a']
        subfields := some [{ code := ['a'], content := "Title".toList, start := 0, stop := 7 }]
        line := 1, stop := 15 }
    Format.field? .mrk l 1 = some f ∧ Catalogue.shipped.startsInside ∧ (0 : Int) ≤ 13 ∧
      (13 : Int) < l.length ∧
      ∃ found, at? .shipped .mrk l f 13 none = .ok (some found) ∧ found.start = 6 ∧
        found.stop = 13 ∧ found.FitsLine 4 l 13 := by
  intro l f
  have hread : Format.field? .mrk l 1 = some f := by decide
  have hpositions := Catalogue.startsInside_shipped
  have hfound : at? .shipped .mrk l f 13 none =
      .ok (some ⟨subfieldNote .shipped f ⟨['a'], "Title".toList, 0, 7⟩, 6, 13⟩) := rfl
  exact ⟨hread, hpositions, by decide, by decide, _, hfound, rfl, rfl,
    fitsLine_of_at? hread hpositions (by decide) (by decide) 4 hfound⟩

end Locate

end MarcLens

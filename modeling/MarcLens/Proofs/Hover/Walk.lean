import MarcLens.Hover.Locate
import MarcLens.Proofs.DataLine
import MarcLens.Proofs.Grammar.Subfield

/-!
# Walking over subfields

A hover finds the subfields of a line by walking over it. It knows their codes and contents only,
and looks for the marker of each of them behind the content of the one before. Still it finds every
subfield at the place from which it was read, since everything that looks like a marker is one: what
it passes over holds no marker at all.

## Main definitions

- `Subfield.span`: the place of a subfield in its line

## Main statements

- `Locate.spansFrom_map_atMarker`: a walk that starts in front of all markers finds them all
- `Format.IsDataLine.spans_eq`: the walk over a line finds its subfields where they were read
-/

namespace MarcLens

namespace Subfield

variable {l t data tail : Text} {d i p : Nat} {s : Subfield}

/-! ### Markers of a line and of its data -/

theorem isMarkerAt_drop : isMarkerAt (l.drop d) i ↔ isMarkerAt l (d + i) := by
  rw [isMarkerAt_iff, isMarkerAt_iff, List.getElem?_drop, List.getElem?_drop, Nat.add_assoc]

/-- What is left out at the end of a line makes no marker. -/
theorem isMarkerAt_append (hend : Text.isLineEnd tail) :
    isMarkerAt (data ++ tail) i ↔ isMarkerAt data i := by
  rw [isMarkerAt_iff, isMarkerAt_iff]
  constructor
  · rintro ⟨hdollar, c, hc, hcode⟩
    have hlt : i + 1 < data.length := by
      by_contra hle
      rw [List.getElem?_append_right (by omega)] at hc
      have hmem := List.mem_of_getElem? hc
      simp only [Text.isLineEnd, Bool.or_eq_true, decide_eq_true_eq] at hend
      rcases hend with rfl | rfl
      · cases hmem
      · obtain rfl := List.mem_singleton.1 hmem
        exact absurd hcode (by decide)
    rw [List.getElem?_append_left (by omega)] at hdollar hc
    exact ⟨hdollar, c, hc, hcode⟩
  · rintro ⟨hdollar, c, hc, hcode⟩
    have hlt := (List.getElem?_eq_some_iff.1 hc).1
    rw [List.getElem?_append_left (by omega), List.getElem?_append_left hlt]
    exact ⟨hdollar, c, hc, hcode⟩

/-- The markers of a line are those of its subfield data. -/
theorem isMarkerAt_line_iff (hsplit : l.drop d = data ++ tail) (hend : Text.isLineEnd tail)
    (hhead : '$' ∉ l.take d) : isMarkerAt l p ↔ ∃ i, p = d + i ∧ isMarkerAt data i := by
  constructor
  · intro h
    have hle : d ≤ p := by
      by_contra hlt
      have hget : (l.take d)[p]? = some '$' := by
        rw [List.getElem?_take_of_lt (by omega)]
        exact (isMarkerAt_iff.1 h).1
      exact hhead (List.mem_of_getElem? hget)
    obtain ⟨i, rfl⟩ := Nat.exists_eq_add_of_le hle
    rw [← isMarkerAt_drop, hsplit, isMarkerAt_append hend] at h
    exact ⟨i, rfl, h⟩
  · rintro ⟨i, rfl, h⟩
    rw [← isMarkerAt_drop, hsplit, isMarkerAt_append hend]
    exact h

/-- A dollar sign and a code stand where there is a marker. -/
theorem isMarkerAt_of_isPrefix {code : Char} (hcode : isSubfieldCode code)
    (h : ['$', code] <+: t.drop i) : isMarkerAt t i := by
  obtain ⟨rest, hrest⟩ := h
  rw [isMarkerAt_iff]
  refine ⟨?_, code, ?_, hcode⟩
  · rw [← List.head?_drop, ← hrest]
    rfl
  · rw [← List.getElem?_drop, ← hrest]
    rfl

theorem lt_length_of_isMarkerAt (h : isMarkerAt t i) : i < t.length :=
  (List.getElem?_eq_some_iff.1 (isMarkerAt_iff.1 h).1).1

/-- The line from a marker of its data on. -/
theorem drop_line_of_isMarkerAt (hsplit : l.drop d = data ++ tail) (h : isMarkerAt data i) :
    l.drop (d + i) = data.drop i ++ tail := by
  rw [← List.drop_drop, hsplit, List.drop_append_of_le_length (Nat.le_of_lt
    (lt_length_of_isMarkerAt h))]

/-! ### Where a subfield stands -/

/-- The marker of a subfield that was scanned, and what follows it. -/
theorem exists_atMarker_eq (h : isMarkerAt t i) :
    ∃ code tail, t.drop i = '$' :: code :: tail ∧ isSubfieldCode code ∧
      (atMarker t i).code = [code] ∧ (atMarker t i).content <+: tail ∧
      i + 2 + (atMarker t i).content.length ≤ nextDollar t i := by
  obtain ⟨hdollar, code, hget, hcode⟩ := isMarkerAt_iff.1 h
  have hlt := (List.getElem?_eq_some_iff.1 hdollar).1
  have hdrop : t.drop i = '$' :: t.drop (i + 1) := by
    rw [List.drop_eq_getElem_cons hlt, (List.getElem?_eq_some_iff.1 hdollar).2]
  cases hrest : t.drop (i + 1) with
  | nil => simp [← List.head?_drop, hrest] at hget
  | cons code' tail =>
    obtain rfl : code' = code := by simpa [← List.head?_drop, hrest] using hget
    have hat := atMarker_eq hrest hcode
    have hstarts := Text.trimRight_isPrefix (tail.takeWhile (· ≠ '$'))
    refine ⟨code', tail, by rw [hdrop, hrest], hcode, by rw [hat], ?_, ?_⟩
    · rw [hat]
      exact hstarts.trans (List.takeWhile_prefix _)
    · have hstop : ((nextDollar t i : Nat) : Int) =
          (i : Int) + 2 + (tail.takeWhile (· ≠ '$')).length := congrArg Subfield.stop hat
      have hlen := hstarts.length_le
      rw [hat]
      dsimp only
      omega

/-- The place of a subfield in a line whose subfield data begins at `d`. -/
def span (d : Nat) (s : Subfield) : SubfieldSpan :=
  ⟨s, d + s.start.toNat, d + s.start.toNat + 2 + s.content.length⟩

theorem stop_span (d : Nat) (s : Subfield) :
    (s.span d).stop = (s.span d).start + 2 + s.content.length := rfl

end Subfield

namespace Locate

open MarcLens.Subfield

variable {l data tail : Text} {d start : Nat} {ms : List Nat}

/-- A walk that has all markers of the line before it finds the subfields of all of them. -/
theorem spansFrom_map_atMarker (hsplit : l.drop d = data ++ tail) (hsorted : ms.Pairwise (· < ·))
    (hmarkers : ∀ m ∈ ms, isMarkerAt data m ∧ start ≤ d + m)
    (hall : ∀ p, start ≤ p → isMarkerAt l p → ∃ m ∈ ms, p = d + m) :
    spansFrom l start (ms.map (atMarker data)) = (ms.map (atMarker data)).map (span d) := by
  induction ms generalizing start with
  | nil => rfl
  | cons m ms ih =>
    obtain ⟨hfirst, hsorted⟩ := List.pairwise_cons.1 hsorted
    obtain ⟨hm, hstart⟩ := hmarkers m List.mem_cons_self
    obtain ⟨code, rest, hdrop, hcode, hcodeEq, hcontent, hlen⟩ := exists_atMarker_eq hm
    have hplace : start + (d + m - start) = d + m := by omega
    have hfound : Text.find? ('$' :: (atMarker data m).code) (l.drop start) =
        some (d + m - start) := by
      rw [Text.find?_eq_some_iff, hcodeEq]
      constructor
      · rw [List.drop_drop, hplace, drop_line_of_isMarkerAt hsplit hm, hdrop]
        exact ⟨rest ++ tail, rfl⟩
      · -- An earlier occurrence would be a marker in front of the first one.
        intro j hj hstarts
        rw [List.drop_drop] at hstarts
        obtain ⟨m', hm', heq⟩ := hall _ (by omega) (isMarkerAt_of_isPrefix hcode hstarts)
        rcases List.mem_cons.1 hm' with rfl | hm'
        · omega
        · have := hfirst m' hm'
          omega
    have hstop : start + (d + m - start) + 1 + (atMarker data m).code.length +
        (atMarker data m).content.length = d + m + 2 + (atMarker data m).content.length := by
      rw [hplace, hcodeEq]
      rfl
    have hrest : spansFrom l (d + m + 2 + (atMarker data m).content.length)
        (ms.map (atMarker data)) = (ms.map (atMarker data)).map (span d) := by
      refine ih hsorted ?_ ?_
      · intro m' hm'
        have hmarker := (hmarkers m' (List.mem_cons_of_mem m hm')).1
        have hnext := nextDollar_le (hfirst m' hm') (isMarkerAt_iff.1 hmarker).1
        exact ⟨hmarker, by omega⟩
      · intro p hp hmarker
        obtain ⟨m', hm', rfl⟩ := hall p (by omega) hmarker
        rcases List.mem_cons.1 hm' with rfl | hm'
        · omega
        · exact ⟨m', hm', rfl⟩
    rw [List.map_cons, spansFrom, hfound]
    dsimp only
    rw [hstop, hrest, hplace]
    rfl

/-- A walk over a line from its start finds what was scanned where it stands. -/
theorem spans_scan (hsplit : l.drop d = data ++ tail) (hend : Text.isLineEnd tail)
    (hhead : '$' ∉ l.take d) : spans l (scan data) = (scan data).map (span d) := by
  rw [spans, scan_eq_map_atMarker]
  refine spansFrom_map_atMarker hsplit (pairwise_markers data) ?_ ?_
  · intro m hm
    exact ⟨mem_markers_iff.1 hm, Nat.zero_le _⟩
  · intro p _ hp
    obtain ⟨m, rfl, hm⟩ := (isMarkerAt_line_iff hsplit hend hhead).1 hp
    exact ⟨m, mem_markers_iff.2 hm, rfl⟩

end Locate

/-! ### The subfields of a data line -/

/-- The subfields of a data field stand one behind the other. -/
theorem Format.pairwise_subfieldList {fmt : Format} {l : Text} {n : Int} {f : Field}
    (hread : fmt.field? l n = some f) (hkind : f.kind = .data) :
    f.subfieldList.Pairwise fun s u => s.stop ≤ u.start := by
  obtain ⟨i, j, data, tail, hdata⟩ := exists_readsData hread hkind
  rw [Field.subfieldList, hdata.subfields]
  exact Subfield.pairwise_scan data

namespace Format.IsDataLine

open MarcLens.Subfield

variable {fmt : Format} {l : Text} {f : Field} {s u : Subfield}

/-- The walk over a data line finds its subfields where they were read. -/
theorem spans_eq (h : fmt.IsDataLine l f) :
    Locate.spans l f.subfieldList = f.subfieldList.map (span (fmt.dataAt l)) := by
  obtain ⟨data, tail, hsplit, hend, hhead, hsub⟩ := h.exists_data
  rw [Field.subfieldList, hsub]
  exact Locate.spans_scan hsplit hend hhead

/-- The subfields of a data line are those of the markers of its data. -/
theorem exists_marker (h : fmt.IsDataLine l f) (hs : s ∈ f.subfieldList) :
    ∃ data tail i, l.drop (fmt.dataAt l) = data ++ tail ∧ f.subfieldList = scan data ∧
      isMarkerAt data i ∧ s = atMarker data i := by
  obtain ⟨data, tail, hsplit, -, -, hsub⟩ := h.exists_data
  have hlist : f.subfieldList = scan data := by rw [Field.subfieldList, hsub]; rfl
  rw [hlist] at hs
  obtain ⟨i, hi, rfl⟩ := mem_scan_iff.1 hs
  exact ⟨data, tail, i, hsplit, hlist, hi, rfl⟩

/-- A subfield stands in its line where it was read. -/
theorem start_span (h : fmt.IsDataLine l f) (hs : s ∈ f.subfieldList) :
    ((s.span (fmt.dataAt l)).start : Int) = fmt.dataAt l + s.start := by
  obtain ⟨data, tail, i, -, -, -, rfl⟩ := h.exists_marker hs
  exact Int.natCast_add _ i

/-- The place of a subfield in its line ends no later than what was scanned for it. -/
theorem stop_span_le (h : fmt.IsDataLine l f) (hs : s ∈ f.subfieldList) :
    ((s.span (fmt.dataAt l)).stop : Int) ≤ fmt.dataAt l + s.stop := by
  obtain ⟨data, tail, i, -, -, hi, rfl⟩ := h.exists_marker hs
  obtain ⟨code, rest, -, -, -, -, hlen⟩ := exists_atMarker_eq hi
  change ((fmt.dataAt l + i + 2 + (atMarker data i).content.length : Nat) : Int) ≤
    fmt.dataAt l + (nextDollar data i : Nat)
  omega

/-- A marker, a code and the content stand at the place of a subfield. -/
theorem take_drop_span (h : fmt.IsDataLine l f) (hs : s ∈ f.subfieldList) :
    (l.take (s.span (fmt.dataAt l)).stop).drop (s.span (fmt.dataAt l)).start =
      '$' :: (s.code ++ s.content) := by
  obtain ⟨data, tail, i, hsplit, -, hi, rfl⟩ := h.exists_marker hs
  obtain ⟨code, rest, hdrop, -, hcode, ⟨more, hmore⟩, -⟩ := exists_atMarker_eq hi
  have hline : l.drop (fmt.dataAt l + i) =
      '$' :: code :: (atMarker data i).content ++ (more ++ tail) := by
    rw [drop_line_of_isMarkerAt hsplit hi, hdrop, ← hmore]
    simp
  have hwidth : fmt.dataAt l + i + 2 + (atMarker data i).content.length - (fmt.dataAt l + i) =
      ('$' :: code :: (atMarker data i).content).length := by
    simp only [List.length_cons]
    omega
  change (l.take (fmt.dataAt l + i + 2 + (atMarker data i).content.length)).drop
    (fmt.dataAt l + i) = _
  rw [List.drop_take, hline, hwidth, List.take_left, hcode]
  rfl

theorem pairwise_subfieldList (h : fmt.IsDataLine l f) :
    f.subfieldList.Pairwise fun s u => s.stop ≤ u.start := by
  obtain ⟨n, hread⟩ := h.read
  exact Format.pairwise_subfieldList hread h.kind

/-- The places of the subfields of a data line do not meet. -/
theorem pairwise_spans (h : fmt.IsDataLine l f) :
    (Locate.spans l f.subfieldList).Pairwise fun a b => a.stop ≤ b.start := by
  rw [h.spans_eq, List.pairwise_map]
  refine h.pairwise_subfieldList.imp_of_mem ?_
  intro s u hs hu hle
  have hstop := h.stop_span_le hs
  have hstart := h.start_span hu
  omega

end Format.IsDataLine

end MarcLens

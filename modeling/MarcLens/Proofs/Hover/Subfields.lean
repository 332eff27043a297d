import MarcLens.Proofs.Hover.Walk

/-!
# Hovers over subfields

What a hover over a subfield is about, and which places of the line belong to which subfield. The
place right behind the content of a subfield counts as part of it. If the next subfield begins
there, that place belongs to both, and the hover is about the earlier one. So the dollar sign of a
subfield is lost to the subfield in front of it whenever nothing stands between the two.

## Main definitions

- `Locate.onSubfield`: the answer on a subfield
- `Subfield.IsToldBy`: the text on a subfield
- `Locate.WalksAligned`: the walk over a line agrees with what was read from it

## Main statements

- `Locate.subfieldIn?_eq`: a hover is about the first subfield that has the cursor
- `Locate.subfieldIn?_eq_none_iff`: where a hover is about no subfield
-/

namespace MarcLens

namespace Subfield

variable {s u : Subfield} {d : Nat} {c : Int}

/-- The cursor is on a subfield: on its marker, its content, or right behind it. -/
def Has (d : Nat) (s : Subfield) (c : Int) : Prop :=
  ((s.span d).start : Int) ≤ c ∧ c ≤ (s.span d).stop

theorem start_span_lt_stop (d : Nat) (s : Subfield) : (s.span d).start < (s.span d).stop := by
  rw [stop_span]
  omega

/-- The text on a subfield of a field. If the subfield is documented, the text has the code that the
    documentation gives and ends with the content. Otherwise it has the code and the tag. -/
structure IsToldBy (cat : Catalogue) (tag : Text) (s : Subfield) (text : String) : Prop where
  known : ∀ d, cat.subfield? (String.ofList tag) (String.ofList s.code) = some d →
    ∃ about, text = "**$" ++ d.code.shown ++ " - " ++ about ++
      "**Content:** " ++ String.ofList s.content ++ "\n\n"
  unknown : cat.subfield? (String.ofList tag) (String.ofList s.code) = none →
    text = "**$" ++ String.ofList s.code ++ "** - Unknown subfield for tag " ++ String.ofList tag

end Subfield

namespace Locate

open MarcLens.Subfield

variable {cat : Catalogue} {fmt : Format} {l : Text} {f : Field} {s u : Subfield} {c : Int}
  {k : Nat} {found : Located}

/-- The answer on a subfield of a line whose subfield data begins at `d`. -/
def onSubfield (cat : Catalogue) (f : Field) (d : Nat) (s : Subfield) : Located :=
  ⟨subfieldNote cat f s, (s.span d).start, (s.span d).stop⟩

theorem exists_markdown_subfieldNote (cat : Catalogue) (f : Field) (s : Subfield) :
    ∃ text, (subfieldNote cat f s).markdown = .ok text ∧ s.IsToldBy cat f.tag text := by
  rw [subfieldNote]
  cases hdocumented : cat.subfield? (String.ofList f.tag) (String.ofList s.code) with
  | none =>
    refine ⟨_, rfl, fun d hd => ?_, fun _ => rfl⟩
    cases hd.symm.trans hdocumented
  | some d =>
    refine ⟨_, rfl, fun d' hd' => ?_, fun hnone => ?_⟩
    · obtain rfl := Option.some.inj (hdocumented.symm.trans hd')
      refine ⟨d.name.shown ++ "**\n\n" ++ d.description.shown ++ "\n\n" ++
        (if d.repeatable.holds then "*Repeatable subfield*\n\n" else ""), ?_⟩
      have hmarker : "**$" = "**" ++ "$" := rfl
      simp only [Note.heading, hmarker, String.append_assoc]
    · cases hnone.symm.trans hdocumented

/-- A hover over a data line is about the first subfield that has the cursor. -/
theorem subfieldIn?_eq (h : fmt.IsDataLine l f) (cat : Catalogue) (c : Int) :
    subfieldIn? cat l f c f.subfieldList =
      (f.subfieldList.find? fun s => ((s.span (fmt.dataAt l)).start : Int) ≤ c &&
        c ≤ (s.span (fmt.dataAt l)).stop).map (onSubfield cat f (fmt.dataAt l)) := by
  rw [subfieldIn?, h.spans_eq, List.find?_map, Option.map_map]
  rfl

theorem subfield?_eq (h : fmt.IsDataLine l f) (cat : Catalogue) (c : Int) :
    subfield? cat l f c = .ok (subfieldIn? cat l f c f.subfieldList) := by
  obtain ⟨data, tail, -, -, -, hsub⟩ := h.exists_data
  rw [subfield?, Field.subfieldList, hsub]
  rfl

/-- What a hover answers is about a subfield that has the cursor. -/
theorem exists_of_subfieldIn?_eq_some (h : fmt.IsDataLine l f)
    (hfound : subfieldIn? cat l f c f.subfieldList = some found) :
    ∃ s ∈ f.subfieldList, s.Has (fmt.dataAt l) c ∧ found = onSubfield cat f (fmt.dataAt l) s := by
  rw [subfieldIn?_eq h] at hfound
  obtain ⟨s, hs, rfl⟩ := Option.map_eq_some_iff.1 hfound
  have hhas := List.find?_some hs
  simp only [Bool.and_eq_true, decide_eq_true_eq] at hhas
  exact ⟨s, List.mem_of_find?_eq_some hs, hhas, rfl⟩

theorem subfieldIn?_eq_none_iff (h : fmt.IsDataLine l f) :
    subfieldIn? cat l f c f.subfieldList = none ↔
      ∀ s ∈ f.subfieldList, ¬s.Has (fmt.dataAt l) c := by
  rw [subfieldIn?_eq h, Option.map_eq_none_iff, List.find?_eq_none]
  simp only [Bool.and_eq_true, decide_eq_true_eq, Has]

/-! ### The walk and the reading -/

/-- The walk over a line agrees with the subfields that were read from it. It finds all of them, in
    their order and where they were read, and every answer is about one of them. -/
structure WalksAligned (fmt : Format) (l : Text) (f : Field) : Prop where
  length : (spans l f.subfieldList).length = f.subfieldList.length
  place : ∀ (k : Nat) (s : Subfield), f.subfieldList[k]? = some s → ∃ span : SubfieldSpan,
    (spans l f.subfieldList)[k]? = some span ∧ span.subfield = s ∧
    (span.start : Int) = fmt.dataAt l + s.start ∧
    span.stop = span.start + 2 + s.content.length ∧
    (l.take span.stop).drop span.start = '$' :: (s.code ++ s.content)
  apart : (spans l f.subfieldList).Pairwise fun a b => a.stop ≤ b.start
  answer : ∀ cat c, ∃ answer, subfield? cat l f c = .ok answer ∧ ∀ found ∈ answer,
    ∃ span ∈ spans l f.subfieldList, found.start = span.start ∧ found.stop = span.stop ∧
      ∃ text, found.note.markdown = .ok text ∧ span.subfield.IsToldBy cat f.tag text

/-- The walk over a data line keeps step with the reading of it, from where the subfield data
    begins. -/
theorem walk_aligned (h : fmt.IsDataLine l f) :
    (∃ data tail, l.drop (fmt.dataAt l) = data ++ tail ∧ Text.isLineEnd tail ∧
      f.subfields = some (scan data)) ∧ WalksAligned fmt l f := by
  obtain ⟨data, tail, hsplit, hend, -, hsub⟩ := h.exists_data
  refine ⟨⟨data, tail, hsplit, hend, hsub⟩, ?_, ?_, h.pairwise_spans, ?_⟩
  · rw [h.spans_eq, List.length_map]
  · intro k s hk
    have hs := List.mem_of_getElem? hk
    refine ⟨s.span (fmt.dataAt l), ?_, rfl, h.start_span hs, rfl, h.take_drop_span hs⟩
    rw [h.spans_eq, List.getElem?_map, hk]
    rfl
  · intro cat c
    refine ⟨_, subfield?_eq h cat c, ?_⟩
    intro found hfound
    obtain ⟨s, hs, -, rfl⟩ := exists_of_subfieldIn?_eq_some h hfound
    refine ⟨s.span (fmt.dataAt l), ?_, rfl, rfl, exists_markdown_subfieldNote cat f s⟩
    rw [h.spans_eq]
    exact List.mem_map_of_mem hs

/-- The walk passes over what is no marker, over a content that looks like a tag, and over blanks
    between subfields with the same code. -/
theorem walk_aligned_repeated :
    let l := "245 10 $A $a=100  1  $a$bB".toList
    let f : Field :=
      { tag := ['2', '4', '5'], indicator1 := some ['1'], indicator2 := some ['0']
        subfields := some [
          { code := ['a'], content := "=100  1".toList, start := 4, stop := 15 },
          { code := ['a'], content := [], start := 15, stop := 17 },
          { code := ['b'], content := ['B'], start := 17, stop := 20 }]
        line := 1, stop := 26 }
    Format.IsDataLine .line l f ∧ WalksAligned .line l f := by
  intro l f
  have hline : Format.IsDataLine .line l f := ⟨⟨1, by decide⟩, rfl, by decide, by decide⟩
  exact ⟨hline, (walk_aligned hline).2⟩

/-- The text on a subfield that is not documented leaves out the content, and the text on one that
    is filed under another code than its own has that other code. -/
theorem text_without_code_or_content :
    let l := "=245  10$zNote".toList
    let s : Subfield := { code := ['z'], content := "Note".toList, start := 0, stop := 6 }
    let f : Field :=
      { tag := ['2', '4', '5'], indicator1 := some ['1'], indicator2 := some ['0']
        subfields := some [s], line := 1, stop := 14 }
    let definition : SubfieldDefinition :=
      { code := .str "a", name := .str "Title", description := .str "Title proper" }
    let misfiled : Catalogue :=
      { bibliographic := [("245",
          { tag := .str "245", name := .str "Title Statement", description := .str "Title"
            subfields := [("z", definition)] })] }
    Format.IsDataLine .mrk l f ∧
      (∃ text, subfield? {} l f 9 = .ok (some (onSubfield {} f 8 s)) ∧
        (onSubfield {} f 8 s).note.markdown = .ok text ∧ ¬s.content <:+: text.toList) ∧
      ∃ text, subfield? misfiled l f 9 = .ok (some (onSubfield misfiled f 8 s)) ∧
        (onSubfield misfiled f 8 s).note.markdown = .ok text ∧
        ¬(['$'] ++ s.code <:+: text.toList) := by
  intro l s f definition misfiled
  refine ⟨⟨⟨1, by decide⟩, rfl, by decide, by decide⟩, ⟨_, rfl, rfl, ?_⟩, ⟨_, rfl, rfl, ?_⟩⟩
  · simp only [String.toList_append, String.toList_ofList]
    decide +kernel
  · simp only [Note.heading, String.toList_append, String.toList_ofList]
    decide +kernel

/-! ### The cells of a subfield -/

/-- Of two subfields of a data line, the earlier one ends where the later one begins, or before. -/
theorem stop_span_le_start_span (h : fmt.IsDataLine l f) {j : Nat} (hjk : j < k)
    (hu : f.subfieldList[j]? = some u) (hs : f.subfieldList[k]? = some s) :
    (u.span (fmt.dataAt l)).stop ≤ (s.span (fmt.dataAt l)).start := by
  have hapart := h.pairwise_spans
  rw [h.spans_eq, List.pairwise_map] at hapart
  obtain ⟨hj, rfl⟩ := List.getElem?_eq_some_iff.1 hu
  obtain ⟨hk, rfl⟩ := List.getElem?_eq_some_iff.1 hs
  exact List.pairwise_iff_getElem.1 hapart j k hj hk hjk

/-- No subfield in front of the one at `k` has a cell of it, unless the one right in front of it
    ends there. -/
theorem not_has_of_lt (h : fmt.IsDataLine l f) (hk : f.subfieldList[k]? = some s)
    (hc : ((s.span (fmt.dataAt l)).start : Int) ≤ c)
    (hfree : ∀ j u, k = j + 1 → f.subfieldList[j]? = some u →
      ((u.span (fmt.dataAt l)).stop : Int) ≠ c)
    {j : Nat} (hjk : j < k) (hu : f.subfieldList[j]? = some u) : ¬u.Has (fmt.dataAt l) c := by
  rintro ⟨-, hle⟩
  have hstop := stop_span_le_start_span h hjk hu hk
  by_cases hnext : k = j + 1
  · have := hfree j u hnext hu
    omega
  · -- Between the two stands another subfield, which is not empty.
    have hlt : j + 1 < f.subfieldList.length := by
      have := (List.getElem?_eq_some_iff.1 hk).1
      omega
    have hv := List.getElem?_eq_getElem hlt
    have hbefore := stop_span_le_start_span h (Nat.lt_succ_self j) hu hv
    have hwidth := start_span_lt_stop (fmt.dataAt l) f.subfieldList[j + 1]
    have hbehind := stop_span_le_start_span h (by omega) hv hk
    omega

/-- A cell of a subfield of a data line, from its dollar sign to the end of its content, is answered
    with that subfield iff the subfield in front of it does not end right there. -/
theorem subfield?_own_iff (h : fmt.IsDataLine l f) (hk : f.subfieldList[k]? = some s)
    (hfrom : ((s.span (fmt.dataAt l)).start : Int) ≤ c) (hto : c < (s.span (fmt.dataAt l)).stop)
    (cat : Catalogue) :
    subfield? cat l f c = .ok (some (onSubfield cat f (fmt.dataAt l) s)) ↔
      ∀ j u, k = j + 1 → f.subfieldList[j]? = some u →
        ((u.span (fmt.dataAt l)).stop : Int) ≠ c := by
  rw [subfield?_eq h, subfieldIn?_eq h, Except.ok.injEq, Option.map_eq_some_iff]
  constructor
  · rintro ⟨v, hv, hsame⟩ j u rfl hu hstop
    have hstart : (v.span (fmt.dataAt l)).start = (s.span (fmt.dataAt l)).start :=
      Int.ofNat.inj (congrArg Located.start hsame)
    obtain ⟨-, i, hi, rfl, hfirst⟩ := List.find?_eq_some_iff_getElem.1 hv
    -- The subfield in front has the cell, so it would have been found first.
    have hij : ¬j < i := by
      intro hji
      obtain ⟨hj, rfl⟩ := List.getElem?_eq_some_iff.1 hu
      have hwidth := start_span_lt_stop (fmt.dataAt l) f.subfieldList[j]
      have := hfirst j hji
      simp only [Bool.not_eq_true', Bool.and_eq_false_iff, decide_eq_false_iff_not] at this
      omega
    have hbefore : (f.subfieldList[i].span (fmt.dataAt l)).start <
        (s.span (fmt.dataAt l)).start := by
      have hwidth := start_span_lt_stop (fmt.dataAt l) f.subfieldList[i]
      have hle := stop_span_le_start_span h (by omega : i < j + 1) (List.getElem?_eq_getElem hi) hk
      omega
    omega
  · intro hfree
    obtain ⟨hlt, hget⟩ := List.getElem?_eq_some_iff.1 hk
    refine ⟨s, List.find?_eq_some_iff_getElem.2 ⟨?_, k, hlt, hget, ?_⟩, rfl⟩
    · simp only [Bool.and_eq_true, decide_eq_true_eq]
      omega
    · intro j hj
      have hnot := not_has_of_lt h hk hfrom hfree hj (List.getElem?_eq_getElem (by omega))
      simpa only [Bool.not_eq_true', Bool.and_eq_false_iff, decide_eq_false_iff_not, Has,
        Classical.not_and_iff_not_or_not] using hnot

/-- A blank in front of a subfield leaves its dollar sign to it. -/
theorem subfield?_own_iff_behind_blank :
    let l := "=245  10$aTitle $bsub".toList
    let s : Subfield := { code := ['b'], content := "sub".toList, start := 8, stop := 13 }
    let f : Field :=
      { tag := ['2', '4', '5'], indicator1 := some ['1'], indicator2 := some ['0']
        subfields := some [
          { code := ['a'], content := "Title".toList, start := 0, stop := 8 }, s]
        line := 1, stop := 21 }
    Format.IsDataLine .mrk l f ∧ f.subfieldList[1]? = some s ∧
      ((s.span (Format.dataAt .mrk l)).start : Int) ≤ 16 ∧
      16 < ((s.span (Format.dataAt .mrk l)).stop : Int) ∧
      subfield? {} l f 16 =
        .ok (some (onSubfield {} f (Format.dataAt .mrk l) s)) := by
  intro l s f
  have hline : Format.IsDataLine .mrk l f := ⟨⟨1, by decide⟩, rfl, by decide, by decide⟩
  have hfrom : ((s.span (Format.dataAt .mrk l)).start : Int) ≤ 16 := by decide
  have hto : 16 < ((s.span (Format.dataAt .mrk l)).stop : Int) := by decide
  have hsecond : f.subfieldList[1]? = some s := rfl
  refine ⟨hline, hsecond, hfrom, hto, (subfield?_own_iff hline hsecond hfrom hto {}).2 ?_⟩
  rintro j u hj hu
  obtain rfl : j = 0 := by omega
  obtain rfl := Option.some.inj hu
  decide

/-- Where two subfields touch, the dollar sign of the second is answered with the first. -/
theorem dollar_answered_with_subfield_before :
    let l := "=245  10$aTitle$bsub".toList
    let s : Subfield := { code := ['a'], content := "Title".toList, start := 0, stop := 7 }
    let u : Subfield := { code := ['b'], content := "sub".toList, start := 7, stop := 12 }
    let f : Field :=
      { tag := ['2', '4', '5'], indicator1 := some ['1'], indicator2 := some ['0']
        subfields := some [s, u], line := 1, stop := 20 }
    Format.IsDataLine .mrk l f ∧ l[15]? = some '$' ∧
      ((u.span (Format.dataAt .mrk l)).start : Int) = 15 ∧
      ∀ cat, subfield? cat l f 15 = .ok (some (onSubfield cat f (Format.dataAt .mrk l) s)) ∧
        subfield? cat l f 15 ≠ .ok (some (onSubfield cat f (Format.dataAt .mrk l) u)) := by
  intro l s u f
  refine ⟨⟨⟨1, by decide⟩, rfl, by decide, by decide⟩, rfl, by decide, ?_⟩
  intro cat
  have hfound : subfield? cat l f 15 =
      .ok (some (onSubfield cat f (Format.dataAt .mrk l) s)) := rfl
  refine ⟨hfound, ?_⟩
  rw [hfound]
  intro hsame
  have hstart : ((s.span (Format.dataAt .mrk l)).start : Int) =
      (u.span (Format.dataAt .mrk l)).start :=
    congrArg Located.start (Option.some.inj (Except.ok.inj hsame))
  exact absurd hstart (by decide)

end Locate

end MarcLens

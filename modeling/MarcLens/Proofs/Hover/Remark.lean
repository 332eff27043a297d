import MarcLens.Proofs.Hover.Cases
import MarcLens.Proofs.Hover.Indicators
import MarcLens.Proofs.Hover.Subfields

/-!
# Remarks on subfields

Where the walk over a line finds no subfield under the cursor, a hover makes a remark without a
place of its own. It pairs every marker of the line with the content of every subfield that has the
code of the marker, and reports a subfield whose content would reach the cursor from some marker.
Such a remark is never right: no subfield with the code and the content that it reports is under
the cursor. It is made behind a subfield that is shorter than another one with the same code.

## Main definitions

- `Locate.IsUnder`: a subfield is under the cursor, whatever stands behind its content
- `Locate.ReportsUnderCursor`: what is reported on a subfield is a subfield under the cursor
- `Locate.LeavesNoGap`: no place is left to remarks on subfields

## Main statements

- `Locate.isSome_plainSubfield?_iff`: where there is a remark on a subfield
- `Locate.not_isUnder_of_not_has`: why such a remark is never right
- `Locate.exists_of_at?_subfield`: an answer on a subfield is found by the walk, or is a remark
-/

namespace MarcLens

namespace Text

variable {part t : Text} {offset skip o i k : Nat}

/-- A part that cannot overlap with itself has all its places among its occurrences. -/
theorem mem_occurrencesFrom_iff (hne : part ≠ [])
    (hself : ∀ c cs k, part <+: c :: cs → k < part.length - 1 → ¬part <+: cs.drop k)
    (hskip : ∀ k < skip, ¬part <+: t.drop k) :
    o ∈ occurrencesFrom part offset skip t ↔ ∃ k, o = offset + k ∧ part <+: t.drop k := by
  -- What is to be skipped holds no place of the part, and this stays so with every character.
  induction t generalizing offset skip with
  | nil => simp [occurrencesFrom, hne]
  | cons c cs ih =>
    -- A place in the rest of the text is one place farther on.
    have hshift : (∃ k, o = offset + k ∧ part <+: (c :: cs).drop k) ↔
        o = offset ∧ part <+: c :: cs ∨ ∃ k, o = offset + 1 + k ∧ part <+: cs.drop k := by
      constructor
      · rintro ⟨k, rfl, hk⟩
        cases k with
        | zero => exact Or.inl ⟨rfl, hk⟩
        | succ k => exact Or.inr ⟨k, by omega, hk⟩
      · rintro (⟨rfl, hhead⟩ | ⟨k, rfl, hk⟩)
        · exact ⟨0, rfl, hhead⟩
        · exact ⟨k + 1, by omega, hk⟩
    rw [hshift]
    cases skip with
    | succ skip =>
      have hhead : ¬part <+: c :: cs := hskip 0 (by omega)
      rw [occurrencesFrom, ih fun k hk => hskip (k + 1) (by omega)]
      simp only [hhead, and_false, false_or]
    | zero =>
      by_cases hhead : part <+: c :: cs
      · rw [occurrencesFrom, if_pos (List.isPrefixOf_iff_prefix.2 hhead), List.mem_cons,
          ih fun k hk => hself c cs k hhead hk]
        simp only [hhead, and_true]
      · rw [occurrencesFrom, if_neg fun h => hhead (List.isPrefixOf_iff_prefix.1 h),
          ih fun k hk => absurd hk (Nat.not_lt_zero k)]
        simp only [hhead, and_false, false_or]

theorem mem_occurrences_marker_iff {code : Char} (hcode : code ≠ '$') :
    o ∈ occurrences ['$', code] t ↔ ['$', code] <+: t.drop o := by
  rw [occurrences, mem_occurrencesFrom_iff (by simp) ?_ fun k hk => absurd hk (Nat.not_lt_zero k)]
  · simp
  · intro c cs k hstarts hk
    obtain rfl : k = 0 := by simpa using hk
    obtain ⟨rest, hrest⟩ := hstarts
    obtain ⟨-, rfl⟩ : '$' = c ∧ code :: rest = cs := by simpa using hrest
    rintro ⟨rest', hrest'⟩
    exact hcode (List.cons.inj hrest').1.symm

end Text

namespace Locate

open MarcLens.Subfield

variable {cat : Catalogue} {fmt : Format} {l : Text} {f : Field} {s u v : Subfield} {c : Int}
  {note : Note} {found : Located} {type : Option RecordType}

/-! ### Where there is a remark on a subfield -/

/-- The places of the marker of a subfield are those of the subfields with its code. -/
theorem mem_occurrences_iff (h : fmt.IsDataLine l f) (hs : s ∈ f.subfieldList) {o : Nat} :
    o ∈ Text.occurrences ('$' :: s.code) l ↔
      ∃ u ∈ f.subfieldList, u.code = s.code ∧ o = (u.span (fmt.dataAt l)).start := by
  obtain ⟨n, hread⟩ := h.read
  obtain ⟨code, hcode, hallowed⟩ := (Format.isRead_of_field? hread).codes s hs
  obtain ⟨data, tail, hsplit, hend, hhead, hsub⟩ := h.exists_data
  have hlist : f.subfieldList = scan data := by rw [Field.subfieldList, hsub]; rfl
  rw [hcode, Text.mem_occurrences_marker_iff (ne_dollar_of_isSubfieldCode hallowed)]
  constructor
  · intro hstarts
    have hmarker := isMarkerAt_of_isPrefix hallowed hstarts
    obtain ⟨i, rfl, hi⟩ := (isMarkerAt_line_iff hsplit hend hhead).1 hmarker
    refine ⟨atMarker data i, ?_, ?_, rfl⟩
    · rw [hlist]
      exact mem_scan_iff.2 ⟨i, hi, rfl⟩
    · obtain ⟨code', rest, hdrop, -, hcode', -⟩ := exists_atMarker_eq hi
      obtain ⟨rest', hrest'⟩ := hstarts
      rw [drop_line_of_isMarkerAt hsplit hi, hdrop] at hrest'
      rw [hcode', (List.cons.inj (List.cons.inj hrest').2).1]
  · rintro ⟨u, hu, hsame, rfl⟩
    have hspelled := h.take_drop_span hu
    rw [List.drop_take, hsame] at hspelled
    have hstarts : ['$', code] <+:
        (l.drop (u.span (fmt.dataAt l)).start).take
          ((u.span (fmt.dataAt l)).stop - (u.span (fmt.dataAt l)).start) := by
      rw [hspelled]
      exact ⟨u.content, rfl⟩
    exact hstarts.trans (List.take_prefix _ _)

/-- A remark on a subfield is about one whose content would reach the cursor from the marker of some
    subfield with the same code. -/
theorem exists_of_plainSubfield?_eq_some (h : fmt.IsDataLine l f)
    (hnote : plainSubfield? cat l f c = some note) :
    ∃ u ∈ f.subfieldList, ∃ s ∈ f.subfieldList, s.code = u.code ∧
      ((s.span (fmt.dataAt l)).start : Int) ≤ c ∧
      c ≤ (s.span (fmt.dataAt l)).start + 2 + u.content.length ∧ note = subfieldNote cat f u := by
  obtain ⟨u, hu, hfound⟩ := List.exists_of_findSome?_eq_some hnote
  obtain ⟨o, ho, rfl⟩ := Option.map_eq_some_iff.1 hfound
  obtain ⟨s, hs, hcode, rfl⟩ := (mem_occurrences_iff h hu).1 (List.mem_of_find?_eq_some ho)
  have hreach := List.find?_some ho
  obtain ⟨n, hread⟩ := h.read
  obtain ⟨code, hu1, -⟩ := (Format.isRead_of_field? hread).codes u hu
  simp only [Bool.and_eq_true, decide_eq_true_eq, hu1, List.length_cons, List.length_nil] at hreach
  exact ⟨u, hu, s, hs, hcode, hreach.1, by omega, rfl⟩

/-- There is a remark on a subfield iff the content of some subfield would reach the cursor from the
    marker of one with the same code. -/
theorem isSome_plainSubfield?_iff (h : fmt.IsDataLine l f) :
    (plainSubfield? cat l f c).isSome ↔
      ∃ u ∈ f.subfieldList, ∃ s ∈ f.subfieldList, s.code = u.code ∧
        ((s.span (fmt.dataAt l)).start : Int) ≤ c ∧
        c ≤ (s.span (fmt.dataAt l)).start + 2 + u.content.length := by
  constructor
  · intro hsome
    obtain ⟨note, hnote⟩ := Option.isSome_iff_exists.1 hsome
    obtain ⟨u, hu, s, hs, hcode, hfrom, hto, -⟩ := exists_of_plainSubfield?_eq_some h hnote
    exact ⟨u, hu, s, hs, hcode, hfrom, hto⟩
  · rintro ⟨u, hu, s, hs, hcode, hfrom, hto⟩
    obtain ⟨n, hread⟩ := h.read
    obtain ⟨code, hu1, -⟩ := (Format.isRead_of_field? hread).codes u hu
    rw [plainSubfield?, List.findSome?_isSome_iff]
    refine ⟨u, hu, ?_⟩
    rw [Option.isSome_map, List.find?_isSome]
    refine ⟨_, (mem_occurrences_iff h hu).2 ⟨s, hs, hcode, rfl⟩, ?_⟩
    simp only [Bool.and_eq_true, decide_eq_true_eq, hu1, List.length_cons, List.length_nil]
    omega

/-- Where no subfield has the cursor, a remark is made behind a subfield that is shorter than
    another one with the same code. -/
theorem exists_gap_of_remark (h : fmt.IsDataLine l f)
    (hnone : ∀ w ∈ f.subfieldList, ¬w.Has (fmt.dataAt l) c)
    (hremark : (plainSubfield? cat l f c).isSome) :
    ∃ s ∈ f.subfieldList, ∃ u ∈ f.subfieldList, s.code = u.code ∧ ∃ k ≤ u.content.length,
      s.content.length < k ∧ c = ((s.span (fmt.dataAt l)).start + 2 + k : Nat) := by
  obtain ⟨u, hu, s, hs, hcode, hfrom, hto⟩ := (isSome_plainSubfield?_iff h).1 hremark
  have hstop := stop_span (fmt.dataAt l) s
  have hbehind : ((s.span (fmt.dataAt l)).stop : Int) < c := by
    by_contra hle
    exact hnone s hs ⟨hfrom, by omega⟩
  exact ⟨s, hs, u, hu, hcode, (c - (s.span (fmt.dataAt l)).start - 2).toNat, by omega, by omega,
    by omega⟩

/-! ### Why such a remark is never right -/

/-- Of two subfields of a data line, the one that begins earlier ends in front of the other. -/
theorem stop_le_start_of_lt (h : fmt.IsDataLine l f) (hv : v ∈ f.subfieldList)
    (hs : s ∈ f.subfieldList) (hlt : v.start < s.start) : v.stop ≤ s.start := by
  obtain ⟨i, hi, rfl⟩ := List.getElem_of_mem hv
  obtain ⟨j, hj, rfl⟩ := List.getElem_of_mem hs
  have hapart := List.pairwise_iff_getElem.1 h.pairwise_subfieldList
  rcases Nat.lt_trichotomy i j with hij | rfl | hji
  · exact hapart i j hi hj hij
  · omega
  · have hbefore := hapart j i hj hi hji
    have hstop := h.stop_span_le hs
    have hstart := h.start_span hs
    have hwidth := start_span_lt_stop (fmt.dataAt l) f.subfieldList[j]
    omega

/-- The cursor is between the marker of a subfield and the next dollar sign, which is included, or
    the end of the line. -/
def IsUnder (d : Nat) (c : Int) (s : Subfield) : Prop := d + s.start ≤ c ∧ c ≤ d + s.stop

/-- If no subfield has the cursor, but a content would reach it from some marker, then no subfield
    with a content of that length is under the cursor. -/
theorem not_isUnder_of_not_has (h : fmt.IsDataLine l f) (hs : s ∈ f.subfieldList)
    (hfrom : ((s.span (fmt.dataAt l)).start : Int) ≤ c)
    (hto : c ≤ (s.span (fmt.dataAt l)).start + 2 + u.content.length)
    (hnone : ∀ w ∈ f.subfieldList, ¬w.Has (fmt.dataAt l) c)
    (hv : v ∈ f.subfieldList) (hlen : v.content.length = u.content.length) :
    ¬IsUnder (fmt.dataAt l) c v := by
  rintro ⟨hafter, hbefore⟩
  have hsStart := h.start_span hs
  have hvStart := h.start_span hv
  have hvStop := stop_span (fmt.dataAt l) v
  -- The cursor is behind the content of `v`, so the marker that reaches it comes later.
  have hbehind : ((v.span (fmt.dataAt l)).stop : Int) < c := by
    by_contra hle
    exact hnone v hv ⟨by omega, by omega⟩
  have hstop := stop_le_start_of_lt h hv hs (by omega)
  -- Then the cursor is on that marker.
  have hwidth := start_span_lt_stop (fmt.dataAt l) s
  exact hnone s hs ⟨hfrom, by omega⟩

/-! ### Which answers are about a subfield -/

theorem note_ne_subfield_of_tag? (h : tag? cat fmt l f c = some found) (tag : Text) (s : Subfield)
    (d : Option SubfieldDefinition) : found.note ≠ .subfield tag s d := by
  obtain ⟨start, definition, -, -, -, rfl⟩ := exists_of_tag?_eq_some h
  intro hnote
  cases hnote

theorem note_ne_subfield_of_position? (h : position? cat fmt l f c type = .ok (some found))
    (tag : Text) (s : Subfield) (d : Option SubfieldDefinition) :
    found.note ≠ .subfield tag s d := by
  obtain ⟨start, t, -, -, hposition⟩ := exists_of_position?_eq_some h
  rcases positionFrom_cases hposition with ⟨-, rfl⟩ | ⟨p, value, -, -, rfl⟩
  · intro hnote
    cases hnote
  · intro hnote
    cases hnote

/-- An answer on a subfield is about one that the walk finds under the cursor, or it is a remark. -/
theorem exists_of_at?_subfield (h : fmt.IsDataLine l f) {tag : Text}
    {d : Option SubfieldDefinition} (hfound : at? cat fmt l f c type = .ok (some found))
    (hnote : found.note = .subfield tag s d) :
    s ∈ f.subfieldList ∧ s.Has (fmt.dataAt l) c ∨
      indicator? cat fmt l f c = none ∧ (∀ w ∈ f.subfieldList, ¬w.Has (fmt.dataAt l) c) ∧
        (plainSubfield? cat l f c).isSome := by
  rcases at?_cases hfound with htag | hposition | hpart
  · exact absurd hnote (note_ne_subfield_of_tag? htag tag s d)
  · exact absurd hnote (note_ne_subfield_of_position? hposition tag s d)
  have hindicator : ∀ located, indicator? cat fmt l f c = some located →
      located.note ≠ .subfield tag s d := by
    intro located hlocated
    obtain ⟨places, number, -, -, rfl⟩ := indicator?_eq_some_iff.1 hlocated
    intro hnote
    cases hnote
  rw [part?_eq h.kind] at hpart
  rcases Option.or_eq_some_iff.1 (Except.ok.inj hpart) with hinside | ⟨hinside, hplain⟩
  · rcases Option.or_eq_some_iff.1 hinside with hlocated | ⟨-, hwalk⟩
    · exact absurd hnote (hindicator found hlocated)
    · obtain ⟨u, hu, hhas, rfl⟩ := exists_of_subfieldIn?_eq_some h hwalk
      obtain rfl : u = s := (Note.subfield.inj hnote).2.1
      exact Or.inl ⟨hu, hhas⟩
  · obtain ⟨hnone, hwalk⟩ := Option.or_eq_none_iff.1 hinside
    refine Or.inr ⟨hnone, (subfieldIn?_eq_none_iff h).1 hwalk, ?_⟩
    obtain ⟨note, hremark, rfl⟩ := Option.map_eq_some_iff.1 hplain
    -- A remark on a tag is not about a subfield.
    rw [plain?] at hremark
    split at hremark
    · obtain rfl := Option.some.inj hremark
      cases hnote
    · rw [if_pos h.kind, hnone, Option.map_none, Option.or_none] at hremark
      rw [hremark]
      rfl

/-! ### A remark that is shown -/

/-- A tag that is written takes up no more than the first four characters of a line. -/
theorem exists_writtenTag_isPrefix {n : Int} (hread : fmt.field? l n = some f)
    (hwritten : ¬fmt.isBareLeader f.tag) :
    ∃ k, fmt.writtenTag f.tag <+: l.drop k ∧ k + (fmt.writtenTag f.tag).length ≤ 4 := by
  have hlen : f.tag.length = 3 := by
    rcases (Format.isRead_of_field? hread).tag with htag | htag
    · rw [htag]
      rfl
    · exact htag.1
  cases fmt with
  | mrk =>
    have hstarts := (Format.writtenTag_isPrefix_of_field? (Or.inl rfl) hread).resolve_left hwritten
    exact ⟨0, hstarts, by simp [Format.writtenTag, hlen]⟩
  | line =>
    have hstarts := (Format.writtenTag_isPrefix_of_field? (Or.inr rfl) hread).resolve_left hwritten
    exact ⟨0, hstarts, by simp [Format.writtenTag, hlen]⟩
  | other =>
    -- The line is read as MRK, and the tag is looked for without its equals sign.
    have hmrk : Format.field? .mrk l n = some f := hread
    obtain ⟨rest, rfl⟩ := (Format.writtenTag_isPrefix_of_field? (Or.inl rfl) hmrk).resolve_left
      (by simp [Format.isBareLeader])
    exact ⟨1, ⟨rest, rfl⟩, by simp [Format.writtenTag, hlen]⟩

theorem tag?_eq_none (h : fmt.IsDataLine l f) (hc : 4 ≤ c) : tag? cat fmt l f c = none := by
  obtain ⟨n, hread⟩ := h.read
  simp only [tag?]
  split
  · rfl
  · next hnamed =>
    have hwritten : ¬fmt.isBareLeader f.tag := by
      simp only [Format.isBareLeader, Bool.and_eq_true, decide_eq_true_eq]
      rintro ⟨rfl, htag⟩
      exact hnamed ⟨by decide, htag⟩
    obtain ⟨k, hstarts, hk⟩ := exists_writtenTag_isPrefix hread hwritten
    split
    · rfl
    · next start hstart =>
      have hle := Text.find?_le hstart hstarts
      rw [if_neg (show ¬((start : Int) ≤ c ∧
        c < ((start + (fmt.writtenTag f.tag).length : Nat) : Int)) by omega), ite_self]

/-- A catalogue in which all subfields of a field are documented. -/
def documenting (f : Field) : Catalogue :=
  { bibliographic := [(String.ofList f.tag,
      { tag := .str (String.ofList f.tag), name := .str "", description := .str ""
        subfields := f.subfieldList.map fun s => (String.ofList s.code,
          { code := .str (String.ofList s.code), name := .str "", description := .str "" }) })] }

theorem isSome_subfield?_documenting (hs : s ∈ f.subfieldList) :
    ((documenting f).subfield? (String.ofList f.tag) (String.ofList s.code)).isSome := by
  rw [Catalogue.subfield?, Catalogue.tag?, documenting, Table.get?_cons, if_pos rfl, Option.some_or,
    Option.bind_some, Table.isSome_get?_iff, Table.names, List.map_map]
  exact List.mem_map_of_mem hs

/-- Every remark on a subfield is shown. -/
theorem at?_eq_plainSubfield? (h : fmt.IsDataLine l f) (hc : 4 < c)
    (hindicator : indicator? cat fmt l f c = none)
    (hnone : ∀ w ∈ f.subfieldList, ¬w.Has (fmt.dataAt l) c) :
    at? cat fmt l f c none =
      .ok ((plainSubfield? cat l f c).map fun note => ⟨note, 0, l.length⟩) := by
  have hbehind : ¬(0 ≤ c ∧ c ≤ fmt.tagEnd) := by
    cases fmt <;> simp only [Format.tagEnd] <;> omega
  rw [at?, tag?_eq_none h (by omega), Catalogue.isFixed_none]
  change part? cat fmt l f c = _
  rw [part?_eq h.kind, hindicator, (subfieldIn?_eq_none_iff h).2 hnone, plain?, if_neg hbehind]
  simp only [h.kind, hindicator, if_true, Option.map_none, Option.or_none, Option.none_or]

/-- What is reported on a subfield, whatever is documented, is a subfield under the cursor. The
    content is part of the report if the code is documented. -/
def ReportsUnderCursor (fmt : Format) (l : Text) (f : Field) : Prop :=
  ∀ cat c type found tag s d, at? cat fmt l f c type = .ok (some found) →
    found.note = .subfield tag s d →
      ∃ u ∈ f.subfieldList, u.code = s.code ∧ (d.isSome → u.content = s.content) ∧
        IsUnder (fmt.dataAt l) c u

/-- Where a subfield is shorter than another one with the same code, what would be left to it with
    the longer content is taken by other subfields or by the indicators that are found. -/
def LeavesNoGap (fmt : Format) (l : Text) (f : Field) : Prop :=
  ∀ s ∈ f.subfieldList, ∀ u ∈ f.subfieldList, s.code = u.code →
    ∀ k ≤ u.content.length, s.content.length < k →
      let c := (s.span (fmt.dataAt l)).start + 2 + k
      (∃ w ∈ f.subfieldList, w.Has (fmt.dataAt l) c) ∨
        ∃ places number, fmt.indicators? l = some places ∧
          c = places.firstAt + IndicatorNumber.offset number

theorem indicator?_eq_none_iff :
    indicator? cat fmt l f c = none ↔ ¬∃ places number, fmt.indicators? l = some places ∧
      c = (places.firstAt + IndicatorNumber.offset number : Nat) := by
  rw [Option.eq_none_iff_forall_ne_some]
  constructor
  · rintro hnone ⟨places, number, hplaces, hc⟩
    exact hnone _ (indicator?_eq_some_iff.2 ⟨places, number, hplaces, hc, rfl⟩)
  · intro hnone found hfound
    obtain ⟨places, number, hplaces, hc, -⟩ := indicator?_eq_some_iff.1 hfound
    exact hnone ⟨places, number, hplaces, hc⟩

/-- A remark on a subfield, once it is shown, reports one that is not under the cursor. -/
theorem not_reportsUnderCursor_of_remark (h : fmt.IsDataLine l f) (hc : 4 < c)
    (hindicator : indicator? (documenting f) fmt l f c = none)
    (hnone : ∀ w ∈ f.subfieldList, ¬w.Has (fmt.dataAt l) c)
    (hremark : (plainSubfield? (documenting f) l f c).isSome) : ¬ReportsUnderCursor fmt l f := by
  intro hreports
  obtain ⟨note, hnote⟩ := Option.isSome_iff_exists.1 hremark
  obtain ⟨u, hu, s, hs, -, hfrom, hto, rfl⟩ := exists_of_plainSubfield?_eq_some h hnote
  have hat := at?_eq_plainSubfield? h hc hindicator hnone
  rw [hnote] at hat
  obtain ⟨v, hv, -, hcontent, hunder⟩ := hreports _ _ _ _ _ _ _ hat rfl
  have hlen := congrArg List.length (hcontent (isSome_subfield?_documenting hu))
  exact not_isUnder_of_not_has h hs hfrom hto hnone hv hlen hunder

/-- A hover over a data line reports only subfields under the cursor iff no gap is left. -/
theorem reportsUnderCursor_iff (h : fmt.IsDataLine l f) :
    ReportsUnderCursor fmt l f ↔ LeavesNoGap fmt l f := by
  constructor
  · intro hreports s hs u hu hcode k hk hlt c
    by_contra hfree
    obtain ⟨hnone, hplaces⟩ := not_or.1 hfree
    have hbehind : (4 : Int) < c := by
      have htag := fmt.four_le_indicatorsAt l
      have hdata : fmt.dataAt l = fmt.indicatorsAt l + 2 := rfl
      have hstart : (s.span (fmt.dataAt l)).start = fmt.dataAt l + s.start.toNat := rfl
      omega
    have hindicator : indicator? (documenting f) fmt l f c = none := by
      rw [indicator?_eq_none_iff]
      rintro ⟨places, number, hfound, hc⟩
      exact hplaces ⟨places, number, hfound, Int.ofNat.inj hc⟩
    have hremark : (plainSubfield? (documenting f) l f c).isSome :=
      (isSome_plainSubfield?_iff h).2 ⟨u, hu, s, hs, hcode, by omega, by omega⟩
    exact not_reportsUnderCursor_of_remark h hbehind hindicator
      (fun w hw hhas => hnone ⟨w, hw, hhas⟩) hremark hreports
  · intro hgap cat c type found tag s d hfound hnote
    rcases exists_of_at?_subfield h hfound hnote with
      ⟨hs, hfrom, hto⟩ | ⟨hindicator, hnone, hremark⟩
    · have hstart := h.start_span hs
      have hstop := h.stop_span_le hs
      exact ⟨s, hs, rfl, fun _ => rfl, by omega, by omega⟩
    · -- A remark is made in a gap, and there is none.
      obtain ⟨s', hs', u, hu, hcode, k, hk, hlt, rfl⟩ := exists_gap_of_remark h hnone hremark
      rcases hgap s' hs' u hu hcode k hk hlt with ⟨w, hw, hhas⟩ | ⟨places, number, hplaces, hc⟩
      · exact absurd hhas (hnone w hw)
      · exact absurd ⟨places, number, hplaces, congrArg Int.ofNat hc⟩
          (indicator?_eq_none_iff.1 hindicator)

/-- Repeated codes do no harm where the shorter subfield touches one that is long enough. -/
theorem reportsUnderCursor_iff_touching :
    let l := "=650  10$aCats$xArt$xFiction $zUtah".toList
    let s : Subfield := { code := ['x'], content := "Art".toList, start := 6, stop := 11 }
    let u : Subfield := { code := ['x'], content := "Fiction".toList, start := 11, stop := 21 }
    let f : Field :=
      { tag := ['6', '5', '0'], indicator1 := some ['1'], indicator2 := some ['0']
        subfields := some [
          { code := ['a'], content := "Cats".toList, start := 0, stop := 6 }, s, u,
          { code := ['z'], content := "Utah".toList, start := 21, stop := 27 }]
        line := 1, stop := 35 }
    Format.IsDataLine .mrk l f ∧ ReportsUnderCursor .mrk l f := by
  intro l s u f
  have hline : Format.IsDataLine .mrk l f := ⟨⟨1, by decide⟩, rfl, by decide, by decide⟩
  have hdata : Format.dataAt .mrk l = 8 := by decide
  have hlonger : ∀ v ∈ f.subfieldList, ∀ w ∈ f.subfieldList, v.code = w.code →
      v.content.length < w.content.length → v = s ∧ w = u := by decide
  refine ⟨hline, (reportsUnderCursor_iff hline).2 ?_⟩
  intro v hv w hw hcode k hk hlt
  obtain ⟨rfl, rfl⟩ := hlonger v hv w hw hcode (by omega)
  have hs : s.content.length = 3 := rfl
  have hu : u.content.length = 7 := rfl
  refine Or.inl ⟨u, by decide, ?_⟩
  rw [hdata]
  change ((19 : Nat) : Int) ≤ (14 + 2 + k : Nat) ∧ ((14 + 2 + k : Nat) : Int) ≤ (28 : Nat)
  omega

/-- Behind a short subfield, a remark reports the content of a longer one with the same code that
    stands later in the line. -/
theorem remark_on_subfield_ahead :
    let l := "=245  10$aA$Xjunk$aLonger text".toList
    let s : Subfield := { code := ['a'], content := ['A'], start := 0, stop := 3 }
    let u : Subfield := { code := ['a'], content := "Longer text".toList, start := 9, stop := 22 }
    let f : Field :=
      { tag := ['2', '4', '5'], indicator1 := some ['1'], indicator2 := some ['0']
        subfields := some [s, u], line := 1, stop := 30 }
    Format.IsDataLine .mrk l f ∧
      at? (documenting f) .mrk l f 14 none =
        .ok (some ⟨subfieldNote (documenting f) f u, 0, 30⟩) ∧
      ¬ReportsUnderCursor .mrk l f := by
  intro l s u f
  have hat : at? (documenting f) .mrk l f 14 none =
      .ok (some ⟨subfieldNote (documenting f) f u, 0, 30⟩) := rfl
  refine ⟨⟨⟨1, by decide⟩, rfl, by decide, by decide⟩, hat, ?_⟩
  intro hreports
  obtain ⟨v, hv, -, hcontent, hfrom, -⟩ := hreports _ _ _ _ _ _ _ hat rfl
  have hlater : ∀ w ∈ f.subfieldList, w.content = u.content →
      ¬Format.dataAt .mrk l + w.start ≤ 14 := by decide
  exact hlater v hv (hcontent rfl) hfrom

end Locate

end MarcLens

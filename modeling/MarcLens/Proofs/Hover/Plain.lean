import MarcLens.Proofs.Hover.Remark
import Mathlib.Data.List.Nodup

/-!
# Notes with and without a place

There are two ways to tell what stands under the cursor in a data field. One walks over the line
once and gives the place of what it finds. The other tries every marker of the line for every
subfield and gives no place. Where no code is repeated, each marker belongs to one subfield, and
behind the tag both ways give the same text.

## Main definitions

- `Note.text?`: the text of a note, if there is a note

## Main statements

- `Locate.plainSubfield?_eq`: without repeated codes, trying all markers is walking over the line
- `Locate.plain?_eq_of_behind_tag`: what is tried behind the tag, in its order
-/

namespace MarcLens

/-- The text of a note, if there is a note. -/
def Note.text? (note : Option Note) : Except Fault (Option String) := note.mapM Note.markdown

/-- A search that asks the same question of all items finds the first one that passes. -/
theorem findSome?_eq_map_find? {α β : Type} {p : α → Bool} {f : α → Option β} {g : α → β}
    {items : List α} (hpos : ∀ a ∈ items, p a → f a = some (g a))
    (hneg : ∀ a ∈ items, ¬p a → f a = none) : items.findSome? f = (items.find? p).map g := by
  induction items with
  | nil => rfl
  | cons a rest ih =>
    have ih := ih (fun b hb => hpos b (List.mem_cons_of_mem a hb))
      (fun b hb => hneg b (List.mem_cons_of_mem a hb))
    by_cases ha : p a
    · rw [List.find?_cons_of_pos ha, List.findSome?_cons, hpos a List.mem_cons_self ha]
      rfl
    · rw [List.find?_cons_of_neg ha, List.findSome?_cons, hneg a List.mem_cons_self ha]
      exact ih

namespace Locate

open MarcLens.Subfield

variable {cat : Catalogue} {fmt : Format} {l : Text} {f : Field} {s : Subfield} {c : Int}

/-- From some marker with its code, a subfield whose code is not repeated reaches the cursor iff it
    has the cursor. -/
theorem isSome_find?_occurrences_iff (h : fmt.IsDataLine l f)
    (hcodes : (f.subfieldList.map Subfield.code).Nodup) (hs : s ∈ f.subfieldList) :
    ((Text.occurrences ('$' :: s.code) l).find? fun (start : Nat) =>
        start ≤ c && c ≤ start + ('$' :: s.code).length + s.content.length).isSome ↔
      s.Has (fmt.dataAt l) c := by
  obtain ⟨n, hread⟩ := h.read
  obtain ⟨code, hcode, -⟩ := (Format.isRead_of_field? hread).codes s hs
  have hmarker : ('$' :: s.code).length = 2 := by rw [hcode]; rfl
  have hstop := stop_span (fmt.dataAt l) s
  simp only [List.find?_isSome, mem_occurrences_iff h hs, Bool.and_eq_true, decide_eq_true_eq,
    hmarker]
  constructor
  · rintro ⟨start, ⟨u, hu, hsame, rfl⟩, hfrom, hto⟩
    -- The marker is that of a subfield with the same code, so of this one.
    obtain rfl := List.inj_on_of_nodup_map hcodes hu hs hsame
    exact ⟨hfrom, by omega⟩
  · rintro ⟨hfrom, hto⟩
    exact ⟨_, ⟨s, hs, rfl, rfl⟩, hfrom, by omega⟩

/-- Without repeated codes, trying all markers finds what a walk over the line finds. -/
theorem plainSubfield?_eq (h : fmt.IsDataLine l f)
    (hcodes : (f.subfieldList.map Subfield.code).Nodup) (cat : Catalogue) (c : Int) :
    plainSubfield? cat l f c = (subfieldIn? cat l f c f.subfieldList).map Located.note := by
  rw [subfieldIn?_eq h, Option.map_map, plainSubfield?]
  apply findSome?_eq_map_find?
  · intro s hs hhas
    simp only [Bool.and_eq_true, decide_eq_true_eq] at hhas
    obtain ⟨start, hstart⟩ :=
      Option.isSome_iff_exists.1 ((isSome_find?_occurrences_iff h hcodes hs).2 hhas)
    exact Option.map_eq_some_iff.2 ⟨start, hstart, rfl⟩
  · intro s hs hhas
    simp only [Bool.and_eq_true, decide_eq_true_eq] at hhas
    rw [Option.map_eq_none_iff, ← Option.not_isSome_iff_eq_none]
    exact fun hsome => hhas ((isSome_find?_occurrences_iff h hcodes hs).1 hsome)

/-- Behind the tag of a data field, subfields are tried first, and then the indicators. -/
theorem plain?_eq_of_behind_tag (hkind : f.kind = .data) (hc : fmt.tagEnd < c) :
    plain? cat fmt l f c =
      (plainSubfield? cat l f c).or ((indicator? cat fmt l f c).map Located.note) := by
  rw [plain?, if_neg (by omega : ¬(0 ≤ c ∧ c ≤ fmt.tagEnd))]
  exact if_pos hkind

/-- Behind the tag of a data field without repeated codes, a note without a place has the text of
    the subfield that the walk finds there, or else that of the indicator that is found, or else
    there is none. -/
theorem text?_remark?_eq (h : fmt.IsDataLine l f)
    (hcodes : (f.subfieldList.map Subfield.code).Nodup) (hc : fmt.tagEnd < c) (cat : Catalogue) :
    (remark? cat fmt l f c >>= Note.text?) =
      subfield? cat l f c >>= fun found =>
        Note.text? ((found.or (indicator? cat fmt l f c)).map Located.note) := by
  rw [remark?_eq_ok_plain?, subfield?_eq h, plain?_eq_of_behind_tag h.kind hc,
    plainSubfield?_eq h hcodes, ← Option.map_or]
  rfl

/-- The two subfields touch, and the place where they do is told of the first one both ways. -/
theorem text?_remark?_eq_touching :
    let l := "=245  10$aTitle$bsub".toList
    let f : Field :=
      { tag := ['2', '4', '5'], indicator1 := some ['1'], indicator2 := some ['0']
        subfields := some [
          { code := ['a'], content := "Title".toList, start := 0, stop := 7 },
          { code := ['b'], content := "sub".toList, start := 7, stop := 12 }]
        line := 1, stop := 20 }
    Format.IsDataLine .mrk l f ∧ (f.subfieldList.map Subfield.code).Nodup ∧
      Format.tagEnd .mrk < 15 ∧
      ∀ cat, (remark? cat .mrk l f 15 >>= Note.text?) =
        subfield? cat l f 15 >>= fun found =>
          Note.text? ((found.or (indicator? cat .mrk l f 15)).map Located.note) := by
  intro l f
  have hline : Format.IsDataLine .mrk l f := ⟨⟨1, by decide⟩, rfl, by decide, by decide⟩
  have hcodes : (f.subfieldList.map Subfield.code).Nodup := by decide
  exact ⟨hline, hcodes, by decide, text?_remark?_eq hline hcodes (by decide)⟩

end Locate

end MarcLens

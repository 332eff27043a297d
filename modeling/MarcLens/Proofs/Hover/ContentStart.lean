import MarcLens.Proofs.ContentLine

/-!
# Where hovers look for the content of fixed fields

A hover counts the characters of a leader or control field from the place at which the content seems
to start: behind the tag and all spaces that follow it. The reader takes blanks of any kind behind
the tag, in line mode a single one, and in MRK it leaves one of them as content if nothing else
follows. In line mode it also takes the blanks in front of a leader, which the hover counts. The two
agree if the content begins with no space and has nothing but spaces in front of it. Otherwise they
agree only where the characters are the same by chance, as in a content of tabs behind a tab.

## Main definitions

- `Format.FindsContent`: the content stands in the line where the hover looks for it
- `Format.MarksStart`: the blanks in front of a content show where it starts

## Main statements

- `Text.take_dropWhile_of_spaces`, `Text.take_dropWhile_of_blank`: when a content behind blanks is
  what follows the spaces
- `Format.ReadsContent.findsContent_iff`: where the hover finds the content
-/

namespace MarcLens

namespace Text

variable {gap content tail : Text}

theorem clampBound_natCast (n i : Nat) : clampBound n i = min n i := by
  rw [clampBound, if_neg (Int.not_lt.2 (Int.natCast_nonneg i)), Int.toNat_natCast]

/-- Bounds that are not negative are counted from the start. -/
theorem slice_natCast (t : Text) (a b : Nat) : slice t a b = (t.take b).drop a := by
  have htake : t.take (min t.length b) = t.take b := by
    rw [List.take_eq_take_iff]
    omega
  rw [slice, clampBound_natCast, clampBound_natCast, htake]
  rcases Nat.le_total a t.length with hle | hle
  · rw [Nat.min_eq_right hle]
  · have hshort := List.length_take_le' b t
    rw [Nat.min_eq_left hle, List.drop_of_length_le hshort,
      List.drop_of_length_le (Nat.le_trans hshort hle)]

/-- A text is the same one character later iff all its characters are the one in front of it. -/
theorem take_cons_eq_self_iff {c : Char} :
    ((c :: content) ++ tail).take content.length = content ↔ ∀ d ∈ content, d = c := by
  induction content generalizing c with
  | nil => simp
  | cons d ds ih =>
    rw [List.length_cons, List.cons_append, List.take_succ_cons, List.cons.injEq, ih,
      List.forall_mem_cons]
    constructor
    · rintro ⟨rfl, hall⟩
      exact ⟨rfl, hall⟩
    · rintro ⟨rfl, hall⟩
      exact ⟨rfl, hall⟩

/-- What follows the spaces of a text starts with no space. -/
theorem head?_dropWhile_ne_space (t : Text) : (t.dropWhile (· = ' ')).head? ≠ some ' ' := by
  intro hhead
  have hnot := List.head?_dropWhile_not (· = ' ') t
  rw [hhead] at hnot
  cases hnot

/-- Behind spaces only, a content is what follows the spaces iff it starts with none. -/
theorem take_dropWhile_of_spaces (hne : content ≠ []) (hspaces : gap.all (· = ' ')) :
    ((gap ++ (content ++ tail)).dropWhile (· = ' ')).take content.length = content ↔
      content.head? ≠ some ' ' := by
  rw [List.dropWhile_append_of_pos (List.all_eq_true.1 hspaces)]
  obtain ⟨d, ds, rfl⟩ := List.exists_cons_of_ne_nil hne
  constructor
  · intro heq hhead
    have hfirst := head?_dropWhile_ne_space ((d :: ds) ++ tail)
    rw [← heq, List.head?_take, if_neg (by simp)] at hhead
    exact hfirst hhead
  · intro hhead
    have hd : ¬(d = ' ') := fun h => hhead (congrArg some h)
    rw [List.cons_append, List.dropWhile_cons_of_neg (by simpa using hd), ← List.cons_append,
      List.take_left]

/-- Behind a blank that is no space, a content of this kind is what follows the spaces only if all
    its characters are this blank. -/
theorem take_dropWhile_of_blank {c : Char} (hvoid : gap.isVoid) (hne : content ≠ [])
    (hblank : content.startsBlank → content.length = 1 ∨ gap.length = 1)
    (hc : (gap.dropWhile (· = ' ')).head? = some c) :
    ((gap ++ (content ++ tail)).dropWhile (· = ' ')).take content.length = content ↔
      ∀ d ∈ content, d = c := by
  obtain ⟨g, hg⟩ := List.head?_eq_some_iff.1 hc
  have hmem : c ∈ gap.dropWhile (· = ' ') := hg ▸ List.mem_cons_self
  have hcblank : isBlank c := isVoid_iff.1 hvoid c ((List.dropWhile_sublist _).subset hmem)
  obtain ⟨d, ds, rfl⟩ := List.exists_cons_of_ne_nil hne
  rw [List.dropWhile_append, hg, List.isEmpty_cons, if_neg Bool.false_ne_true]
  by_cases hd : d = c
  · subst hd
    rcases hblank hcblank with hlen | hlen
    · -- The content is a single character.
      obtain rfl := List.length_eq_zero_iff.1 (Nat.succ.inj hlen)
      simp
    · -- There is nothing between the blank and the content.
      obtain rfl : g = [] := by
        have hle := (List.dropWhile_sublist (p := (· = ' ')) (l := gap)).length_le
        rw [hg, hlen, List.length_cons] at hle
        exact List.length_eq_zero_iff.1 (by omega)
      exact take_cons_eq_self_iff
  · refine iff_of_false ?_ fun hall => hd (hall d List.mem_cons_self)
    intro heq
    rw [List.length_cons, List.cons_append, List.take_succ_cons, List.cons.injEq] at heq
    exact hd heq.1.symm

end Text

namespace Format

variable {fmt : Format} {l gap content tail : Text} {n : Int} {f : Field}

/-- The content of a field stands in its line at the place where it is looked for. -/
def FindsContent (fmt : Format) (l : Text) (f : Field) : Prop :=
  ∃ (start : Nat) (content : Text), fmt.contentStart? l f.tag = some start ∧
    f.content = some content ∧ Text.slice l start (start + content.length) = content

/-- The blanks in front of a content show where it starts: they are spaces, and the content starts
    with something else. Or else the content repeats the first of them that is no space. A leader
    without a tag has to have no blanks in front of it. -/
def MarksStart (fmt : Format) (f : Field) (gap content : Text) : Prop :=
  if fmt.isBareLeader f.tag then gap = []
  else
    (gap.all (· = ' ') ∧ content.head? ≠ some ' ') ∨
      ∃ c, (gap.dropWhile (· = ' ')).head? = some c ∧ ∀ d ∈ content, d = c

theorem ReadsContent.findsContent_iff_take (h : fmt.ReadsContent l f gap content tail)
    {start : Nat} (hstart : fmt.contentStart? l f.tag = some start) :
    fmt.FindsContent l f ↔ (l.drop start).take content.length = content := by
  have hslice : Text.slice l start (start + content.length) =
      (l.drop start).take content.length := by
    rw [← Int.natCast_add, Text.slice_natCast, List.drop_take, Nat.add_sub_cancel_left]
  constructor
  · rintro ⟨start', content', hstart', hcontent', hfound⟩
    obtain rfl := Option.some.inj (hstart.symm.trans hstart')
    obtain rfl := Option.some.inj (h.content_eq.symm.trans hcontent')
    rw [← hslice]
    exact hfound
  · intro htake
    exact ⟨start, content, hstart, h.content_eq, hslice.trans htake⟩

/-- Without a tag, the content is found iff nothing stands in front of it. -/
theorem ReadsContent.findsContent_of_isBareLeader (h : fmt.ReadsContent l f gap content tail)
    (hbare : fmt.isBareLeader f.tag) : fmt.FindsContent l f ↔ gap = [] := by
  have hopening : fmt.opening f.tag = [] := by
    obtain ⟨rfl, htag⟩ : fmt = .line ∧ f.tag = ['L', 'D', 'R'] := by
      simpa [isBareLeader] using hbare
    exact if_pos htag
  have hline : l = gap ++ (content ++ tail) := by
    rw [h.parts, hopening, List.nil_append]
  rw [h.findsContent_iff_take (if_pos hbare), List.drop_zero, hline]
  constructor
  · intro htake
    by_contra hne
    -- The line would start with a blank, and so would the content.
    obtain ⟨b, bs, rfl⟩ := List.exists_cons_of_ne_nil hne
    have hb : isBlank b := Text.isVoid_iff.1 h.isVoid_gap b List.mem_cons_self
    have hblank : content.startsBlank := by
      have hlen : content.length ≠ 0 := fun hzero =>
        h.content_ne_nil (List.length_eq_zero_iff.1 hzero)
      rw [Text.startsBlank, ← htake, List.head?_take, if_neg hlen]
      exact hb
    exact (h.startsBlank hblank).1 hbare
  · rintro rfl
    exact List.take_left

/-- The content is found iff the blanks in front of it show where it starts. -/
theorem ReadsContent.findsContent_iff (h : fmt.ReadsContent l f gap content tail)
    (hread : f.IsRead) : fmt.FindsContent l f ↔ fmt.MarksStart f gap content := by
  rw [MarksStart]
  split
  · next hbare => exact h.findsContent_of_isBareLeader hbare
  · next hbare =>
    have hblank := fun hstart => (h.startsBlank hstart).2
    have hstart := h.contentStart?_eq hread hbare
    rw [h.findsContent_iff_take hstart, h.drop_contentStart? hread hbare hstart]
    cases hfirst : (gap.dropWhile (· = ' ')).head? with
    | none =>
      have hspaces : gap.all (· = ' ') := by
        rw [List.head?_eq_none_iff, List.dropWhile_eq_nil_iff] at hfirst
        exact List.all_eq_true.2 hfirst
      rw [Text.take_dropWhile_of_spaces h.content_ne_nil hspaces]
      simp [hspaces]
    | some c =>
      have hspaces : ¬gap.all (· = ' ') := by
        intro hall
        rw [List.dropWhile_eq_nil_iff.2 (List.all_eq_true.1 hall)] at hfirst
        cases hfirst
      rw [Text.take_dropWhile_of_blank h.isVoid_gap h.content_ne_nil hblank hfirst]
      simp [hspaces]

/-- Wherever a leader or control field is read, a place for its content is found. The content
    stands there iff the blanks in front of it show where it starts. -/
theorem isSome_contentStart?_and_findsContent_iff (hread : fmt.field? l n = some f)
    (hkind : f.kind ≠ .data) :
    (fmt.contentStart? l f.tag).isSome ∧
      (fmt.FindsContent l f ↔ ∃ gap content tail, fmt.ReadsContent l f gap content tail ∧
        fmt.MarksStart f gap content) := by
  have hf := isRead_of_field? hread
  obtain ⟨gap, content, tail, h⟩ := exists_readsContent hread hkind
  refine ⟨?_, ?_, ?_⟩
  · by_cases hbare : fmt.isBareLeader f.tag
    · rw [contentStart?, if_pos hbare]
      rfl
    · rw [h.contentStart?_eq hf hbare]
      rfl
  · exact fun hfinds => ⟨gap, content, tail, h, (h.findsContent_iff hf).1 hfinds⟩
  · rintro ⟨gap, content, tail, h, hmarks⟩
    exact (h.findsContent_iff hf).2 hmarks

/-- The content of a control field behind three spaces is found. -/
theorem findsContent_iff_spaces :
    let l := "=001   abc".toList
    let f : Field :=
      { tag := ['0', '0', '1'], kind := .control, content := some ['a', 'b', 'c'], line := 1
        stop := 10 }
    Format.field? .mrk l 1 = some f ∧ f.kind ≠ .data ∧ FindsContent .mrk l f := by
  intro l f
  have hread : Format.field? .mrk l 1 = some f := by decide
  have hkind : f.kind ≠ .data := by decide
  have hparts : ReadsContent .mrk l f [' ', ' ', ' '] ['a', 'b', 'c'] [] :=
    ⟨rfl, rfl, by decide, by decide, fun _ => by decide, by decide⟩
  have hmarks : MarksStart .mrk f [' ', ' ', ' '] ['a', 'b', 'c'] := by
    rw [MarksStart, if_neg (by decide)]
    exact Or.inl ⟨by decide, by decide⟩
  exact ⟨hread, hkind, (isSome_contentStart?_and_findsContent_iff hread hkind).2.2
    ⟨_, _, _, hparts, hmarks⟩⟩

/-- Another character stands at the place that is found. -/
theorem not_findsContent_of_slice_ne {start : Nat}
    (hstart : fmt.contentStart? l f.tag = some start) (hcontent : f.content = some content)
    (hne : Text.slice l start (start + content.length) ≠ content) : ¬fmt.FindsContent l f := by
  rintro ⟨start', content', hstart', hcontent', hslice⟩
  obtain rfl := Option.some.inj (hstart.symm.trans hstart')
  obtain rfl := Option.some.inj (hcontent.symm.trans hcontent')
  exact hne hslice

/-- A tab behind the tag is counted as content, and in line mode a space at the start of the content
    is not. -/
theorem not_findsContent_tab_and_space :
    let f : Field :=
      { tag := ['0', '0', '1'], kind := .control, content := some ['a', 'b', 'c'], line := 1
        stop := 8 }
    let g : Field :=
      { tag := ['0', '0', '1'], kind := .control, content := some [' ', 'a', 'b', 'c'], line := 1
        stop := 8 }
    (Format.field? .mrk "=001\tabc".toList 1 = some f ∧ ¬FindsContent .mrk "=001\tabc".toList f) ∧
      (Format.field? .line "001  abc".toList 1 = some g ∧
        ¬FindsContent .line "001  abc".toList g) := by
  intro f g
  have htab : Format.contentStart? .mrk "=001\tabc".toList f.tag = some 4 := by decide
  have hspace : Format.contentStart? .line "001  abc".toList g.tag = some 5 := by decide
  refine ⟨⟨by decide, ?_⟩, by decide, ?_⟩
  · exact not_findsContent_of_slice_ne htab rfl (by decide)
  · exact not_findsContent_of_slice_ne hspace rfl (by decide)

end Format

end MarcLens

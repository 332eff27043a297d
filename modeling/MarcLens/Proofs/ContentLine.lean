import MarcLens.Proofs.DataLine
import MarcLens.Proofs.Shape

/-!
# Lines of leaders and control fields

Where the content of a leader or a control field stands in the line that it was read from: behind
the tag and the blanks that are taken, or, for a leader without a tag, behind the blanks at the
start. This holds of every text that is read, also of one with line feeds among its blanks or at its
end.

## Main definitions

- `Format.opening`: the tag with which a line starts
- `Format.ReadsContent`: a line that is read as a leader or a control field, taken apart

## Main statements

- `Format.exists_readsContent`: every line that is read as such a field can be taken apart
- `Format.ReadsContent.contentStart?_eq`: where the content is looked for in such a line
-/

namespace MarcLens

namespace Text

variable {t content : Text}

theorem contentUpToEnd_eq_some_iff :
    contentUpToEnd t = some content ↔
      content ≠ [] ∧ '\n' ∉ content ∧ ∃ tail, t = content ++ tail ∧ isLineEnd tail := by
  rw [contentUpToEnd, Option.filter_eq_some_iff, upToEnd_eq_some_iff, and_comm]
  simp

/-- The content behind the blanks that are taken. Another blank at its start would be taken as well,
    if anything were left behind it. -/
theorem exists_of_afterBlanks_contentUpToEnd (h : afterBlanks contentUpToEnd t = some content) :
    ∃ gap tail, t = gap ++ (content ++ tail) ∧ gap ≠ [] ∧ gap.isVoid ∧ content ≠ [] ∧
      (content.startsBlank → content.length = 1) := by
  rw [afterBlanks_eq_gapTaken] at h
  obtain ⟨hpos, h⟩ := Option.ite_none_right_eq_some.1 h
  obtain ⟨hne, hnewline, tail, hdrop, hend⟩ := contentUpToEnd_eq_some_iff.1 h
  have hvoid := isVoid_take_gapTaken contentUpToEnd t
  have hlen : (t.take (gapTaken contentUpToEnd t)).length = gapTaken contentUpToEnd t :=
    List.length_take_of_le (gapTaken_le_length contentUpToEnd t)
  have hparts : t = t.take (gapTaken contentUpToEnd t) ++ (content ++ tail) := by
    rw [← hdrop, List.take_append_drop]
  refine ⟨_, tail, hparts, List.ne_nil_of_length_pos (by omega), hvoid, hne, ?_⟩
  intro hblank
  by_contra hlong
  obtain ⟨b, more, rfl⟩ := List.exists_cons_of_ne_nil hne
  have hmore : more ≠ [] := by
    rintro rfl
    exact hlong rfl
  -- With `b` taken as well, what is left would still be accepted.
  have haccept : (contentUpToEnd (t.drop (gapTaken contentUpToEnd t + 1))).isSome := by
    rw [Option.isSome_iff_exists, ← List.drop_drop, hdrop]
    refine ⟨more, contentUpToEnd_eq_some_iff.2 ⟨hmore, ?_, tail, rfl, hend⟩⟩
    exact fun hmem => hnewline (List.mem_cons_of_mem b hmem)
  have hle : gapTaken contentUpToEnd t + 1 ≤ t.leadingBlanks := by
    have hgap : isVoid (t.take (gapTaken contentUpToEnd t) ++ [b]) := by
      simpa [isVoid, startsBlank] using And.intro hvoid hblank
    have hcount := length_le_leadingBlanks_append hgap (more ++ tail)
    rw [List.append_assoc, List.singleton_append, ← List.cons_append, ← hparts,
      List.length_append, hlen] at hcount
    exact hcount
  exact Nat.findGreatest_is_greatest (Nat.lt_succ_self _) hle haccept

/-- A text is what trimming leaves, with blanks around it. -/
theorem exists_eq_append_trim (t : Text) :
    ∃ gap tail, t = gap ++ (trim t ++ tail) ∧ gap.isVoid ∧ ¬(trim t).startsBlank := by
  obtain ⟨tail, htail⟩ := trimRight_isPrefix (trimLeft t)
  refine ⟨t.takeWhile isBlank, tail, ?_, ?_, ?_⟩
  · rw [trim, htail]
    exact List.takeWhile_append_dropWhile.symm
  · exact isVoid_iff.2 fun c hc => List.mem_takeWhile_imp hc
  · rw [← trimLeft_trimRight]
    exact not_startsBlank_trimLeft _

end Text

namespace Mrk

variable {l : Text} {n : Int} {f : Field}

/-- The line of a leader or control field: a tag, and the content behind blanks. -/
theorem exists_eq_of_content (hread : field? l n = some f) (hkind : f.kind ≠ .data) :
    ∃ rest content, l = '=' :: f.tag ++ rest ∧ f.content = some content ∧
      Text.afterBlanks Text.contentUpToEnd rest = some content := by
  unfold field? at hread
  split at hread
  · next a b c rest =>
    obtain ⟨g, hg, rfl⟩ := Option.map_eq_some_iff.1 hread
    have htag := tag_eq_of_taggedField? hg
    have hcontent : ∃ kind, contentField? kind [a, b, c] rest = some g := by
      rw [taggedField?] at hg
      split at hg
      · exact ⟨_, hg⟩
      · obtain ⟨-, hg⟩ := Option.ite_none_right_eq_some.1 hg
        split at hg
        · exact ⟨_, hg⟩
        · obtain ⟨parts, -, rfl⟩ := Option.map_eq_some_iff.1 hg
          exact absurd rfl hkind
    obtain ⟨kind, hcontent⟩ := hcontent
    obtain ⟨content, hblanks, rfl⟩ := Option.map_eq_some_iff.1 hcontent
    exact ⟨rest, content, rfl, rfl, hblanks⟩
  · cases hread

end Mrk

namespace LineMode

variable {l : Text} {n : Int} {f : Field}

theorem kind_of_dataField? (h : dataField? l = some f) : f.kind = .data := by
  unfold dataField? at h
  split at h
  · obtain ⟨-, h⟩ := Option.ite_none_right_eq_some.1 h
    obtain ⟨data, -, rfl⟩ := Option.map_eq_some_iff.1 h
    rfl
  · cases h

/-- A control field has its content behind its tag and one blank. -/
theorem exists_eq_of_controlField? (h : controlField? l = some f) :
    ∃ gap content tail, l = f.tag ++ gap :: (content ++ tail) ∧ isControlTag f.tag ∧ isBlank gap ∧
      f.content = some content ∧ content ≠ [] := by
  unfold controlField? at h
  split at h
  · next a b c gap rest =>
    obtain ⟨hcolumns, h⟩ := Option.ite_none_right_eq_some.1 h
    obtain ⟨htag, hgap⟩ := Bool.and_eq_true_iff.1 hcolumns
    obtain ⟨content, hcontent, rfl⟩ := Option.map_eq_some_iff.1 h
    obtain ⟨hne, -, tail, rfl, -⟩ := Text.contentUpToEnd_eq_some_iff.1 hcontent
    exact ⟨gap, content, tail, rfl, htag, hgap, rfl, hne⟩
  · cases h

end LineMode

namespace Format

variable {fmt : Format} {l gap content tail : Text} {n : Int} {f : Field}

/-- The tag as it is read at the start of a line. A leader in line mode has none. -/
def opening : Format → Text → Text
  | .line, tag => if tag = ['L', 'D', 'R'] then [] else tag
  | _, tag => '=' :: tag

/-- A line is read as a leader or control field with some content, which stands behind the tag and
    the blanks `gap`. What the reading leaves out at the end is `tail`. A content that starts with a
    blank itself is a single character or stands behind a single blank. -/
structure ReadsContent (fmt : Format) (l : Text) (f : Field) (gap content tail : Text) :
    Prop where
  parts : l = fmt.opening f.tag ++ (gap ++ (content ++ tail))
  content_eq : f.content = some content
  content_ne_nil : content ≠ []
  isVoid_gap : gap.isVoid
  gap_ne_nil : ¬fmt.isBareLeader f.tag → gap ≠ []
  startsBlank : content.startsBlank →
    ¬fmt.isBareLeader f.tag ∧ (content.length = 1 ∨ gap.length = 1)

theorem exists_readsContent_mrk (hfmt : fmt ≠ .line) (hread : Mrk.field? l n = some f)
    (hkind : f.kind ≠ .data) : ∃ gap content tail, ReadsContent fmt l f gap content tail := by
  obtain ⟨rest, content, rfl, hcontent, hblanks⟩ := Mrk.exists_eq_of_content hread hkind
  obtain ⟨gap, tail, rfl, hgap, hvoid, hne, hsingle⟩ :=
    Text.exists_of_afterBlanks_contentUpToEnd hblanks
  have hopening : fmt.opening f.tag = '=' :: f.tag := by
    cases fmt <;> first | rfl | exact absurd rfl hfmt
  have hbare : ¬fmt.isBareLeader f.tag := by simp [isBareLeader, hfmt]
  refine ⟨gap, content, tail, ?_, hcontent, hne, hvoid, fun _ => hgap, ?_⟩
  · rw [hopening]
  · exact fun hblank => ⟨hbare, Or.inl (hsingle hblank)⟩

theorem exists_readsContent_line (hread : LineMode.field? l n = some f) (hkind : f.kind ≠ .data) :
    ∃ gap content tail, ReadsContent .line l f gap content tail := by
  obtain ⟨g, hg, rfl⟩ := Option.map_eq_some_iff.1 hread
  rw [LineMode.reading?] at hg
  split at hg
  · next hleader =>
    obtain rfl := Option.some.inj hg
    obtain ⟨gap, tail, hparts, hvoid, hstart⟩ := Text.exists_eq_append_trim l
    refine ⟨gap, Text.trim l, tail, hparts, rfl, ?_, hvoid, ?_, ?_⟩
    · intro hnil
      rw [hnil] at hleader
      cases hleader
    · exact fun hbare => absurd rfl hbare
    · exact fun hblank => absurd hblank hstart
  · rcases Option.or_eq_some_iff.1 hg with hcontrol | ⟨-, hdata⟩
    · obtain ⟨gap, content, tail, rfl, htag, hgap, hcontent, hne⟩ :=
        LineMode.exists_eq_of_controlField? hcontrol
      have hleader : g.tag ≠ ['L', 'D', 'R'] := by
        intro heq
        rw [heq] at htag
        cases htag
      have hopening : opening .line g.tag = g.tag := if_neg hleader
      refine ⟨[gap], content, tail, ?_, hcontent, hne, ?_, ?_, ?_⟩
      · change _ = opening .line g.tag ++ _
        rw [hopening]
        rfl
      · simpa [Text.isVoid] using hgap
      · exact fun _ => List.cons_ne_nil gap []
      · intro _
        refine ⟨?_, Or.inr rfl⟩
        simpa [isBareLeader] using hleader
    · exact absurd (LineMode.kind_of_dataField? hdata) hkind

/-- Every line that is read as a leader or a control field can be taken apart. -/
theorem exists_readsContent (hread : fmt.field? l n = some f) (hkind : f.kind ≠ .data) :
    ∃ gap content tail, ReadsContent fmt l f gap content tail := by
  cases fmt with
  | line => exact exists_readsContent_line hread hkind
  | mrk => exact exists_readsContent_mrk (by decide) hread hkind
  | other => exact exists_readsContent_mrk (by decide) hread hkind

/-! ### Where the content is looked for -/

/-- A tag that is read is found at the end of what its line starts with. -/
theorem exists_find?_writtenTag (hread : f.IsRead) (hbare : ¬fmt.isBareLeader f.tag)
    (hstarts : fmt.opening f.tag <+: l) :
    ∃ i, Text.find? (fmt.writtenTag f.tag) l = some i ∧
      i + (fmt.writtenTag f.tag).length = (fmt.opening f.tag).length := by
  cases fmt with
  | mrk => exact ⟨0, Text.find?_of_isPrefix hstarts, Nat.zero_add _⟩
  | line =>
    have hleader : f.tag ≠ ['L', 'D', 'R'] := by simpa [isBareLeader] using hbare
    have hopening : opening .line f.tag = f.tag := if_neg hleader
    rw [hopening] at hstarts ⊢
    exact ⟨0, Text.find?_of_isPrefix hstarts, Nat.zero_add _⟩
  | other =>
    -- The equals sign is not part of the tag that is looked for.
    obtain ⟨c, more, htag, hc⟩ := hread.exists_tag_eq_cons
    have hequals : c ≠ '=' := by
      rintro rfl
      rcases hc with hc | hc
      · cases hc
      · exact absurd hc (by decide)
    obtain ⟨rest, rfl⟩ := hstarts
    refine ⟨1, Text.find?_eq_some_iff.2 ⟨List.prefix_append f.tag rest, ?_⟩, Nat.add_comm _ _⟩
    intro j hj hprefix
    obtain rfl : j = 0 := by omega
    have hprefix : f.tag <+: '=' :: (f.tag ++ rest) := hprefix
    rw [htag] at hprefix
    exact hequals (List.cons_prefix_cons.1 hprefix).1

theorem ReadsContent.drop_opening (h : fmt.ReadsContent l f gap content tail) :
    l.drop (fmt.opening f.tag).length = gap ++ (content ++ tail) := by
  nth_rewrite 1 [h.parts]
  exact List.drop_left

/-- The content is looked for behind the tag and all spaces that follow it. -/
theorem ReadsContent.contentStart?_eq (h : fmt.ReadsContent l f gap content tail)
    (hread : f.IsRead) (hbare : ¬fmt.isBareLeader f.tag) :
    fmt.contentStart? l f.tag = some ((fmt.opening f.tag).length +
      ((gap ++ (content ++ tail)).takeWhile (· = ' ')).length) := by
  obtain ⟨i, hfind, hlen⟩ := exists_find?_writtenTag hread hbare ⟨_, h.parts.symm⟩
  rw [contentStart?, if_neg hbare]
  dsimp only
  rw [hfind, Option.map_some, hlen, h.drop_opening]

/-- The line from the place on at which the content is looked for. -/
theorem ReadsContent.drop_contentStart? (h : fmt.ReadsContent l f gap content tail)
    (hread : f.IsRead) (hbare : ¬fmt.isBareLeader f.tag) {start : Nat}
    (hstart : fmt.contentStart? l f.tag = some start) :
    l.drop start = (gap ++ (content ++ tail)).dropWhile (· = ' ') := by
  obtain rfl := Option.some.inj ((h.contentStart?_eq hread hbare).symm.trans hstart)
  rw [← List.drop_drop, h.drop_opening, Text.drop_length_takeWhile]

end Format

end MarcLens

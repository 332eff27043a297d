import MarcLens.Proofs.Hover.Cases
import MarcLens.Proofs.Hover.ContentStart

/-!
# The values that hovers over positions show

A hover over a position of a leader or control field highlights characters of the line and shows a
value. The characters are counted in the line as it is. The value is cut out of what trimming leaves
of the content. In the shipped documentation the positions of a field all have a last character, or
none of them has, and in the first case they start with the first two characters. So the two are the
same iff trimming takes no character that such a position covers: a blank at the start of the
content shifts every value, and blanks at the end are missing from the last ones, although blanks
are codes that have meanings.

## Main definitions

- `Position.IsToldBy`: a text shows a value at a position and what it means
- `Locate.ShowsHighlighted`: hovers over a line show the characters that they highlight
- `Locate.KeepsCodes`: trimming takes no character from positions with a last character
- `Catalogue.CountsColumns`: documentation whose positions are ordered like the shipped ones

## Main statements

- `Locate.positionValue_eq`, `Locate.slice_positionStop`: what is shown and what is highlighted
- `Locate.keepsCodes_of_showsHighlighted`, `Locate.showsHighlighted_of_keepsCodes`: the two agree
  iff trimming keeps all codes
-/

namespace MarcLens

namespace Text

variable {t : Text} {a b i : Nat}

/-- Bounds behind the end of a text can be moved to its end. -/
theorem slice_min (t : Text) {a b : Int} (ha : 0 ≤ a) (hb : 0 ≤ b) :
    slice t (min a t.length) (min b t.length) = slice t a b := by
  have hclamp : ∀ k : Int, 0 ≤ k →
      clampBound t.length (min k t.length) = clampBound t.length k := by
    intro k hk
    rw [clampBound, clampBound, if_neg (by omega), if_neg (by omega)]
    omega
  rw [slice, slice, hclamp a ha, hclamp b hb]

/-! ### What trimming does to a part of a text -/

/-- With a blank in front, trimming changes the first characters. -/
theorem take_trim_ne_of_startsBlank (h : t.startsBlank) (b : Nat) :
    (trim t).take (b + 1) ≠ t.take (b + 1) := by
  intro heq
  obtain ⟨-, -, -, -, hstart⟩ := exists_eq_append_trim t
  apply hstart
  have hhead := congrArg List.head? heq
  rw [List.head?_take, List.head?_take, if_neg (Nat.succ_ne_zero b),
    if_neg (Nat.succ_ne_zero b)] at hhead
  rw [startsBlank, hhead]
  exact h

/-- Where trimming takes a character at the end, less is left. -/
theorem drop_take_trim_ne (ha : a ≤ i) (hb : i ≤ b) (htrim : (trim t).length ≤ i)
    (hi : i < t.length) : ((trim t).take (b + 1)).drop a ≠ (t.take (b + 1)).drop a := by
  intro heq
  have hlen := congrArg List.length heq
  simp only [List.length_drop, List.length_take] at hlen
  omega

/-- Where trimming takes nothing, the same is left. -/
theorem take_trim_eq (hstart : ¬t.startsBlank)
    (h : b < (trim t).length ∨ t.length ≤ (trim t).length) :
    (trim t).take (b + 1) = t.take (b + 1) := by
  have htrim := List.prefix_iff_eq_take.1 (trim_isPrefix hstart)
  rcases h with hb | hlen
  · rw [htrim, List.take_take, Nat.min_eq_left hb]
  · rw [htrim, List.take_of_length_le hlen]

end Text

/-! ### Positions in the shipped documentation -/

/-- All positions of a table are open, or none of them is and the first one covers the first two
    characters. -/
def Position.areColumns (positions : Table Position) : Bool :=
  (positions.all fun entry => entry.2.isOpen) ||
    (positions.all fun entry => !entry.2.isOpen) &&
      positions.head?.any fun entry => entry.2.spans 0 && entry.2.spans 1

namespace Catalogue

/-- The positions of every fixed field are columns, or they are open. -/
def hasColumns (c : Catalogue) : Bool :=
  c.fixedFields.all fun fields => fields.2.all fun positions => Position.areColumns positions.2

/-- Documentation in which positions have integers as bounds and are ordered by columns. -/
structure CountsColumns (cat : Catalogue) : Prop where
  isTextual : cat.isTextual
  hasIntegerBounds : cat.hasIntegerBounds
  startsInside : cat.startsInside
  hasColumns : cat.hasColumns

theorem countsColumns_shipped : shipped.CountsColumns :=
  ⟨by decide +kernel, by decide +kernel, startsInside_shipped, by decide +kernel⟩

variable {cat : Catalogue} {tag : String} {t : RecordType} {p : Position} {i : Nat}

/-- A position with a last character that is looked up has bounds that are columns. -/
theorem CountsColumns.exists_columns (h : cat.CountsColumns)
    (hp : cat.position? tag i t = .ok (some p)) (hopen : ¬p.isOpen) :
    ∃ a b : Nat, p.start.index? = some (a : Int) ∧ p.stop.index? = some (b : Int) ∧ a ≤ i ∧
      i ≤ b := by
  have hbounds := of_position?_eq_some h.hasIntegerBounds hp
  have hinside := of_position?_eq_some h.startsInside hp
  rw [Position.hasIntegerBounds, Bool.and_eq_true] at hbounds
  obtain ⟨m, hm⟩ := Option.isSome_iff_exists.1 hbounds.1
  obtain ⟨n, hn⟩ := Option.isSome_iff_exists.1 hbounds.2
  obtain ⟨-, hcovers⟩ := Position.exists_of_first?_eq_some hp
  obtain ⟨hstarted, hreached⟩ := Position.covers_eq_ok_true_iff.1 hcovers
  have hreached := hreached.resolve_left hopen
  have hzero := (Position.startsInside_iff.1 hinside).1
  rw [Json.atLeast?_of_index? hm] at hzero
  rw [Json.atMost?_of_index? hm] at hstarted
  rw [Json.atLeast?_of_index? hn] at hreached
  have hzero : 0 ≤ m := by simpa using hzero
  have hstarted : m ≤ i := by simpa using hstarted
  have hreached : (i : Int) ≤ n := by simpa using hreached
  refine ⟨m.toNat, n.toNat, ?_, ?_, ?_, ?_⟩
  · rw [hm, Int.toNat_of_nonneg hzero]
  · rw [hn, Int.toNat_of_nonneg (by omega)]
  · omega
  · omega

/-- The table of a position with a last character has no open positions. -/
theorem CountsColumns.exists_table (h : cat.CountsColumns)
    (hp : cat.position? tag i t = .ok (some p)) (hopen : ¬p.isOpen) :
    ∃ (positions : Table Position) (first : String × Position),
      (∃ name, (name, p) ∈ positions) ∧ positions.head? = some first ∧ first.2.spans 0 ∧
      first.2.spans 1 ∧ (∀ entry ∈ positions, ¬entry.2.isOpen) ∧
      ∀ c, cat.position? tag c t =
        .ok ((List.find? (fun entry => entry.2.spans c) positions).map Prod.snd) := by
  obtain ⟨hmem, -⟩ := Position.exists_of_first?_eq_some hp
  cases hfield : cat.fixedField? tag t with
  | none =>
    rw [hfield] at hmem
    obtain ⟨name, hmem⟩ := hmem
    cases hmem
  | some positions =>
    rw [hfield, Option.getD_some] at hmem
    have hbounds := forall_mem_fixedField? h.hasIntegerBounds hfield
    have hcolumns : Position.areColumns positions := by
      obtain ⟨fields, hfields, hpositions⟩ := Option.bind_eq_some_iff.1 hfield
      have hall := h.hasColumns
      simp only [Catalogue.hasColumns, List.all_eq_true] at hall
      exact hall _ (Table.mem_of_get? hfields) _ (Table.mem_of_get? hpositions)
    simp only [Position.areColumns, Bool.or_eq_true, Bool.and_eq_true, List.all_eq_true] at hcolumns
    rcases hcolumns with hall | ⟨hnone, hfirst⟩
    · obtain ⟨name, hmem⟩ := hmem
      exact absurd (hall _ hmem) hopen
    · obtain ⟨first, hhead, hspans⟩ := (Option.any_eq_true _ _).1 hfirst
      obtain ⟨hspans0, hspans1⟩ := Bool.and_eq_true_iff.1 hspans
      refine ⟨positions, first, hmem, hhead, hspans0, hspans1, ?_, ?_⟩
      · intro entry hentry
        simpa using hnone entry hentry
      · intro c
        rw [position?, hfield]
        exact Position.first?_eq_ok_find? hbounds c

/-- Where a position with a last character covers some other character too, one is looked up. -/
theorem CountsColumns.exists_position?_of_le (h : cat.CountsColumns)
    (hp : cat.position? tag i t = .ok (some p)) (hopen : ¬p.isOpen) {b j : Nat}
    (hstop : p.stop.index? = some (b : Int)) (hij : i ≤ j) (hj : j ≤ b) :
    ∃ q, cat.position? tag j t = .ok (some q) ∧ ¬q.isOpen := by
  obtain ⟨positions, -, ⟨name, hmem⟩, -, -, -, hnone, hfind⟩ := h.exists_table hp hopen
  obtain ⟨a, b', hstart, hstop', ha, -⟩ := h.exists_columns hp hopen
  have hspans : p.spans j := by
    rw [Position.spans, hstart, hstop]
    have hle : (a : Int) ≤ j := by omega
    have hle' : (j : Int) ≤ b := by omega
    simp [hle, hle']
  have hfound : (List.find? (fun entry => entry.2.spans j) positions).isSome :=
    List.find?_isSome.2 ⟨_, hmem, hspans⟩
  obtain ⟨entry, hentry⟩ := Option.isSome_iff_exists.1 hfound
  refine ⟨entry.2, ?_, hnone entry (List.mem_of_find?_eq_some hentry)⟩
  rw [hfind, hentry]
  rfl

/-- The first two characters belong to a position that starts with the first one. -/
theorem CountsColumns.exists_first_position? (h : cat.CountsColumns)
    (hp : cat.position? tag i t = .ok (some p)) (hopen : ¬p.isOpen) {k : Nat} (hk : k ≤ 1) :
    ∃ q b, cat.position? tag k t = .ok (some q) ∧ q.start.index? = some (0 : Nat) ∧
      q.stop.index? = some (b : Nat) := by
  obtain ⟨positions, first, -, hhead, hspans0, hspans1, hnone, hfind⟩ := h.exists_table hp hopen
  have hfirst : ∀ k : Nat, k ≤ 1 → cat.position? tag k t = .ok (some first.2) := by
    intro k hk
    have hspans : first.2.spans k := by
      obtain rfl | rfl : k = 0 ∨ k = 1 := by omega
      · exact hspans0
      · exact hspans1
    obtain ⟨rest, rfl⟩ := List.head?_eq_some_iff.1 hhead
    rw [hfind, List.find?_cons, hspans]
    rfl
  have hfirstOpen := hnone first (List.mem_of_head? hhead)
  obtain ⟨a, b, hstart, hstop, ha, -⟩ := h.exists_columns (hfirst 0 (by omega)) hfirstOpen
  obtain rfl : a = 0 := by omega
  exact ⟨first.2, b, hfirst k hk, hstart, hstop⟩

end Catalogue

/-! ### What is shown and what is highlighted -/

/-- A text tells the value at a position: behind the bounds, and as the current one with its
    meaning, if the position has a meaning for it. -/
def Position.IsToldBy (tag : Text) (p : Position) (value : Text) (text : String) : Prop :=
  ∃ more, text = Note.heading (String.ofList tag) p.name.shown ++ "Position: " ++ Note.bounds p ++
      "\nValue: `" ++ String.ofList value ++ "`\n\n" ++ p.description.shown ++ "\n\n" ++ more ∧
    ∀ meaning, p.values.filed? (String.ofList value) = .ok (some meaning) →
      ∃ others, more = "**Current:** `" ++ String.ofList value ++ "`" ++ (" = " ++ meaning.shown) ++
        "\n\n**Other values:**\n" ++ others

theorem Json.exists_obj_of_filed? {j meaning : Json} {name : String}
    (h : j.filed? name = .ok (some meaning)) :
    ∃ members, j = .obj members ∧ Table.get? members name = some meaning := by
  cases j with
  | obj members => exact ⟨members, rfl, Except.ok.inj h⟩
  | arr items =>
    rw [filed?] at h
    split at h <;> cases h
  | str s =>
    rw [filed?] at h
    split at h <;> cases h
  | _ => cases h

theorem Note.exists_isToldBy {p : Position} (h : p.isTextual) (tag value : Text) :
    ∃ text, (Note.position tag p value).markdown = .ok text ∧ p.IsToldBy tag value text := by
  obtain ⟨more, hmore, -⟩ :=
    yields_positionValues (String.ofList value) (Position.not_holds_or_isTableOf h)
  refine ⟨_, ?_, more, rfl, ?_⟩
  · rw [markdown, hmore]
    rfl
  · intro meaning hfiled
    obtain ⟨members, hvalues, hget⟩ := Json.exists_obj_of_filed? hfiled
    have hholds : (Json.obj members).holds := by
      cases members with
      | nil => cases hget
      | cons entry rest => rfl
    rw [positionValues, hvalues, hholds] at hmore
    rw [hvalues] at hfiled
    simp only [Bool.not_true, Bool.false_eq_true, if_false, hfiled] at hmore
    exact ⟨_, (Except.ok.inj hmore).symm⟩

namespace Locate

variable {cat : Catalogue} {fmt : Format} {l : Text} {f : Field} {type : Option RecordType}
  {t : RecordType} {p : Position} {start a b : Nat} {c : Int} {value : Text}

theorem not_isOpen_of_stop (hstop : p.stop.index? = some (b : Int)) : ¬p.isOpen := by
  rw [Position.isOpen, Json.isInt_of_index? hstop]
  simp

theorem bound_of_index? {j : Json} {n : Int} (h : j.index? = some n) : bound j = .ok n := by
  rw [bound, h]

/-- The value at columns of the content. -/
theorem positionValue_eq (hstart : p.start.index? = some (a : Int))
    (hstop : p.stop.index? = some (b : Int)) (content : Text) :
    positionValue p content = .ok ((content.take (b + 1)).drop a) := by
  rw [positionValue, Json.atLeast?_of_index? hstart, if_neg (not_isOpen_of_stop hstop)]
  by_cases hbehind : content.length ≤ a
  · have hnil : (content.take (b + 1)).drop a = [] := by
      apply List.drop_of_length_le
      rw [List.length_take]
      omega
    rw [if_pos (by simpa using hbehind), hnil]
    rfl
  · rw [if_neg (by simpa using hbehind), bound_of_index? hstart, bound_of_index? hstop]
    show Except.ok (Text.slice content a ((b + 1 : Nat) : Int)) = _
    rw [Text.slice_natCast]

/-- The characters that are highlighted for columns of the content. -/
theorem slice_positionStop (hstart : p.start.index? = some (a : Int))
    (hstop : p.stop.index? = some (b : Int)) :
    Text.slice l (start + p.start.capped (l.length - start)) (positionStop l start p) =
      ((l.drop start).take (b + 1)).drop a := by
  have hfrom : (start : Int) + p.start.capped (l.length - start) =
      min ((start + a : Nat) : Int) l.length := by
    rw [Json.capped_of_index? hstart]
    omega
  have hto : positionStop l start p = min ((start + (b + 1) : Nat) : Int) l.length := by
    rw [positionStop, if_neg (not_isOpen_of_stop hstop), Json.capped_of_index? hstop]
    omega
  calc
    Text.slice l (start + p.start.capped (l.length - start)) (positionStop l start p)
    _ = Text.slice l (start + a : Nat) (start + (b + 1) : Nat) := by
      rw [hfrom, hto, Text.slice_min l (Int.natCast_nonneg _) (Int.natCast_nonneg _)]
    _ = ((l.take (start + (b + 1))).drop start).drop a := by
      rw [Text.slice_natCast, List.drop_drop]
    _ = ((l.drop start).take (b + 1)).drop a := by
      rw [List.drop_take, Nat.add_sub_cancel_left]

/-- The answer on a position at the cursor. -/
theorem position?_eq_some (hstart : contentStart? fmt l f c = some start)
    (htype : assumedType f type = some t)
    (hp : cat.position? (String.ofList f.tag) (c - start) t = .ok (some p))
    (hvalue : positionValue p (Text.trim (l.drop start)) = .ok value) :
    position? cat fmt l f c type = .ok (some ⟨.position f.tag p value,
      start + p.start.capped (l.length - start), positionStop l start p⟩) := by
  rw [position?, hstart, htype]
  dsimp only
  rw [positionFrom, hp]
  show (some <$> (positionValue p (Text.trim (l.drop start)) >>= fun value => _)) = _
  rw [hvalue]
  rfl

/-! ### Lines that keep their codes -/

/-- Every hover over a position with a last character shows the characters of the line that it
    highlights, and if the position has a meaning for them, then this meaning. -/
def ShowsHighlighted (cat : Catalogue) (fmt : Format) (l : Text) (f : Field)
    (type : Option RecordType) : Prop :=
  ∀ (c : Int) (found : Located) (tag : Text) (p : Position) (value : Text), 0 ≤ c → c < l.length →
    position? cat fmt l f c type = .ok (some found) → found.note = .position tag p value →
    ¬p.isOpen →
    value = Text.slice l found.start found.stop ∧
      ∃ text, found.note.markdown = .ok text ∧ p.IsToldBy tag value text

/-- No character that a position with a last character covers is moved or taken by trimming: there
    is no blank in front, and blanks at the end stand behind all such positions. -/
def KeepsCodes (cat : Catalogue) (fmt : Format) (l : Text) (f : Field)
    (type : Option RecordType) : Prop :=
  ∀ (start : Nat) (t : RecordType), fmt.contentStart? l f.tag = some start →
    assumedType f type = some t →
    ∀ (i : Nat) (p : Position), start + i < l.length →
      cat.position? (String.ofList f.tag) i t = .ok (some p) → ¬p.isOpen →
      ¬Text.startsBlank (l.drop start) ∧ i < (Text.trim (l.drop start)).length

/-- What trimming takes starts behind a position that is kept in part: its first character would be
    covered by this position, and so by one that is not kept. -/
theorem KeepsCodes.lt_length_trim_or (hkeeps : KeepsCodes cat fmt l f type)
    (hcat : cat.CountsColumns) (hplace : fmt.contentStart? l f.tag = some start)
    (htype : assumedType f type = some t) {i : Nat} (hi : start + i < l.length)
    (hp : cat.position? (String.ofList f.tag) i t = .ok (some p)) (hopen : ¬p.isOpen)
    (hlast : p.stop.index? = some (b : Int)) :
    b < (Text.trim (l.drop start)).length ∨
      (l.drop start).length ≤ (Text.trim (l.drop start)).length := by
  by_contra hcut
  obtain ⟨hshort, hlonger⟩ := not_or.1 hcut
  rw [List.length_drop] at hlonger
  have hkept := (hkeeps start t hplace htype i p hi hp hopen).2
  obtain ⟨q, hq, hqopen⟩ := hcat.exists_position?_of_le hp hopen hlast (Nat.le_of_lt hkept)
    (Nat.le_of_not_lt hshort)
  have hkept' := (hkeeps start t hplace htype _ q (by omega) hq hqopen).2
  omega

/-- Where trimming keeps all codes, hovers show the characters that they highlight. -/
theorem showsHighlighted_of_keepsCodes (hcat : cat.CountsColumns)
    (hkeeps : KeepsCodes cat fmt l f type) : ShowsHighlighted cat fmt l f type := by
  intro c found tag p value hzero hc hfound hnote hopen
  obtain ⟨start, t, hstart, htype, hposition⟩ := exists_of_position?_eq_some hfound
  obtain ⟨hplace, hle, -⟩ := contentStart?_eq_some_iff.1 hstart
  rcases positionFrom_cases hposition with ⟨-, rfl⟩ | ⟨q, shown, hp, hvalue, rfl⟩
  · cases hnote
  · obtain ⟨rfl, rfl, rfl⟩ : f.tag = tag ∧ q = p ∧ shown = value := by
      simpa using hnote
    obtain ⟨i, hcolumn⟩ : ∃ i : Nat, c - start = i := ⟨(c - start).toNat, by omega⟩
    rw [hcolumn] at hp
    obtain ⟨a, b, hfirst, hlast, -, -⟩ := hcat.exists_columns hp hopen
    have hi : start + i < l.length := by omega
    obtain ⟨hfront, -⟩ := hkeeps start t hplace htype i q hi hp hopen
    have htrim := hkeeps.lt_length_trim_or hcat hplace htype hi hp hopen hlast
    refine ⟨?_, Note.exists_isToldBy ?_ _ _⟩
    · rw [positionValue_eq hfirst hlast] at hvalue
      rw [slice_positionStop hfirst hlast, ← Except.ok.inj hvalue, Text.take_trim_eq hfront htrim]
    · have htext := hcat.isTextual
      rw [Catalogue.isTextual, Bool.and_eq_true] at htext
      exact Catalogue.of_position?_eq_some htext.2 hp

/-- A hover that shows other characters than it highlights. -/
theorem not_showsHighlighted_of_ne (hzero : 0 ≤ c) (hc : c < l.length)
    (hstart : contentStart? fmt l f c = some start) (htype : assumedType f type = some t)
    (hp : cat.position? (String.ofList f.tag) (c - start) t = .ok (some p))
    (hfirst : p.start.index? = some (a : Int)) (hlast : p.stop.index? = some (b : Int))
    (hne : ((Text.trim (l.drop start)).take (b + 1)).drop a ≠
      ((l.drop start).take (b + 1)).drop a) :
    ¬ShowsHighlighted cat fmt l f type := by
  intro hshows
  have hfound := position?_eq_some hstart htype hp (positionValue_eq hfirst hlast _)
  have hvalue := (hshows c _ _ _ _ hzero hc hfound rfl (not_isOpen_of_stop hlast)).1
  rw [slice_positionStop hfirst hlast] at hvalue
  exact hne hvalue

/-! ### Characters that can be hovered over -/

theorem tagEnd_le_length_opening (hread : f.IsRead) (hbare : ¬fmt.isBareLeader f.tag) :
    fmt.tagEnd ≤ (fmt.opening f.tag).length := by
  have htag : f.tag.length = 3 := by
    rcases hread.tag with htag | ⟨htag, -⟩
    · rw [htag]
      rfl
    · exact htag
  cases fmt with
  | mrk => simp [Format.tagEnd, Format.opening, htag]
  | other => simp [Format.tagEnd, Format.opening, htag]
  | line =>
    have hleader : f.tag ≠ ['L', 'D', 'R'] := by simpa [Format.isBareLeader] using hbare
    simp [Format.tagEnd, Format.opening, hleader, htag]

section Cursor

variable {gap content tail : Text} (h : fmt.ReadsContent l f gap content tail) (hread : f.IsRead)

include h hread

/-- The first or the second character of a content can be hovered over. The first one may be
    counted as part of the tag. -/
theorem exists_contentStart?_eq_some (hplace : fmt.contentStart? l f.tag = some start)
    (hlt : start < l.length) :
    ∃ k : Nat, k ≤ 1 ∧ start + k < l.length ∧
      contentStart? fmt l f (start + k : Nat) = some start := by
  by_cases hbehind : fmt.tagEnd < start ∨ fmt.isBareLeader f.tag
  · exact ⟨0, by omega, hlt, contentStart?_eq_some_iff.2 ⟨hplace, by omega, by simpa using hbehind⟩⟩
  · obtain ⟨htag, hbare⟩ := not_or.1 hbehind
    have hopening := tagEnd_le_length_opening hread hbare
    have hgap := List.length_pos_of_ne_nil (h.gap_ne_nil hbare)
    have hcontent := List.length_pos_of_ne_nil h.content_ne_nil
    have hlength := congrArg List.length h.parts
    simp only [List.length_append] at hlength
    have hsame := Option.some.inj (hplace.symm.trans (h.contentStart?_eq hread hbare))
    refine ⟨1, by omega, by omega, contentStart?_eq_some_iff.2 ⟨hplace, by omega, Or.inl ?_⟩⟩
    omega

/-- All characters of a content can be hovered over that does not seem to start with a blank. -/
theorem contentStart?_eq_some_of_not_startsBlank
    (hplace : fmt.contentStart? l f.tag = some start)
    (hblank : ¬Text.startsBlank (l.drop start)) (i : Nat) :
    contentStart? fmt l f (start + i : Nat) = some start := by
  refine contentStart?_eq_some_iff.2 ⟨hplace, by omega, ?_⟩
  by_cases hbare : fmt.isBareLeader f.tag
  · exact Or.inr hbare
  · left
    have hopening := tagEnd_le_length_opening hread hbare
    obtain ⟨g, gs, rfl⟩ := List.exists_cons_of_ne_nil (h.gap_ne_nil hbare)
    have hg : isBlank g := Text.isVoid_iff.1 h.isVoid_gap g List.mem_cons_self
    rw [h.drop_contentStart? hread hbare hplace, List.cons_append] at hblank
    have hsame := Option.some.inj (hplace.symm.trans (h.contentStart?_eq hread hbare))
    rw [List.cons_append] at hsame
    by_cases hspace : g = ' '
    · rw [List.takeWhile_cons_of_pos (by simpa using hspace), List.length_cons] at hsame
      omega
    · rw [List.dropWhile_cons_of_neg (by simpa using hspace)] at hblank
      exact absurd hg hblank

/-- Where hovers show the characters that they highlight, trimming keeps all codes. -/
theorem keepsCodes_of_showsHighlighted (hcat : cat.CountsColumns)
    (hshows : ShowsHighlighted cat fmt l f type) : KeepsCodes cat fmt l f type := by
  intro start t hplace htype i p hi hp hopen
  have hfront : ¬Text.startsBlank (l.drop start) := by
    intro hblank
    obtain ⟨k, hk, hlt, hcursor⟩ := exists_contentStart?_eq_some h hread hplace (by omega)
    obtain ⟨q, b, hq, hfirst, hlast⟩ := hcat.exists_first_position? hp hopen hk
    have hcolumn : ((start + k : Nat) : Int) - start = k := by omega
    refine not_showsHighlighted_of_ne (by omega) (by omega) hcursor htype (p := q) ?_ hfirst hlast
      ?_ hshows
    · rw [hcolumn]
      exact hq
    · exact Text.take_trim_ne_of_startsBlank hblank b
  refine ⟨hfront, ?_⟩
  by_contra hcut
  obtain ⟨a, b, hfirst, hlast, ha, hb⟩ := hcat.exists_columns hp hopen
  have hcursor := contentStart?_eq_some_of_not_startsBlank h hread hplace hfront i
  have hcolumn : ((start + i : Nat) : Int) - start = i := by omega
  refine not_showsHighlighted_of_ne (by omega) (by omega) hcursor htype (p := p) ?_ hfirst hlast ?_
    hshows
  · rw [hcolumn]
    exact hp
  · refine Text.drop_take_trim_ne ha hb (Nat.le_of_not_lt hcut) ?_
    rw [List.length_drop]
    omega

end Cursor

/-! ### The shipped documentation -/

/-- With the shipped documentation, hovers over a leader or control field show the characters that
    they highlight iff trimming keeps all codes. -/
theorem showsHighlighted_shipped_iff {n : Int} (hread : fmt.field? l n = some f)
    (hkind : f.kind ≠ .data) (type : Option RecordType) :
    ShowsHighlighted .shipped fmt l f type ↔ KeepsCodes .shipped fmt l f type := by
  obtain ⟨gap, content, tail, h⟩ := Format.exists_readsContent hread hkind
  have hf := Format.isRead_of_field? hread
  constructor
  · exact keepsCodes_of_showsHighlighted h hf Catalogue.countsColumns_shipped
  · exact showsHighlighted_of_keepsCodes Catalogue.countsColumns_shipped

/-- A field 008 of 40 characters without blanks at its ends. -/
theorem showsHighlighted_shipped_iff_full :
    let l := "=008  860211s1988    nyu           000 0 eng d".toList
    let f : Field :=
      { tag := ['0', '0', '8'], kind := .control
        content := some "860211s1988    nyu           000 0 eng d".toList, line := 1, stop := 46 }
    Format.field? .mrk l 1 = some f ∧ f.kind ≠ .data ∧
      ShowsHighlighted .shipped .mrk l f (some .bibliographic) := by
  intro l f
  have hread : Format.field? .mrk l 1 = some f := by decide +kernel
  have hkind : f.kind ≠ .data := by decide
  refine ⟨hread, hkind, (showsHighlighted_shipped_iff hread hkind _).2 ?_⟩
  intro start t hplace htype i p hi hp hopen
  have hsix : Format.contentStart? .mrk l f.tag = some 6 := by decide +kernel
  obtain rfl := Option.some.inj (hsix.symm.trans hplace)
  have hlength : (Text.trim (l.drop 6)).length = 40 := by decide +kernel
  have hline : l.length = 46 := by decide +kernel
  exact ⟨by decide +kernel, by omega⟩

/-- The code at the last of 40 characters is a blank, which means a national bibliographic agency.
    The hover shows an empty value. -/
theorem not_showsHighlighted_of_blank_code :
    let l := "=008  860211s1988    nyu           000 0 eng  ".toList
    let f : Field :=
      { tag := ['0', '0', '8'], kind := .control
        content := some "860211s1988    nyu           000 0 eng  ".toList, line := 1, stop := 46 }
    Format.field? .mrk l 1 = some f ∧
      ¬ShowsHighlighted .shipped .mrk l f (some .bibliographic) := by
  intro l f
  have hread : Format.field? .mrk l 1 = some f := by decide +kernel
  have hcursor : contentStart? .mrk l f 45 = some 6 := by decide +kernel
  obtain ⟨p, hp, hfirst, hlast⟩ : ∃ p, Catalogue.shipped.position? (String.ofList f.tag) (45 - 6)
      .bibliographic = .ok (some p) ∧ p.start.index? = some (39 : Nat) ∧
        p.stop.index? = some (39 : Nat) := ⟨_, rfl, rfl, rfl⟩
  exact ⟨hread, not_showsHighlighted_of_ne (by decide) (by decide +kernel) hcursor rfl hp hfirst
    hlast (by decide +kernel)⟩

end Locate

end MarcLens

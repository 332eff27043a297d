import MarcLens.Proofs.Acceptance
import MarcLens.Proofs.Hover.Answer

/-!
# The type of record by which hovers are worded

A hover over a fixed field depends on the type of record. The leader of the record tells it, but a
hover takes it from the first line of the document that tells a type, whichever record that line
belongs to, and whether or not it is read as the leader that it seems to be.

## Main definitions

- `Hover.worded?`: the text and the range that a hover works with
- `RecordType.Tells`: a line tells a type
- `Hover.FollowsLeaders`: every hover over a record is worded by the leader of that record
- `Format.IsPlainLeader`: a leader that is written as its format wants it

## Main statements

- `Hover.at?_eq_worded?`: a hover shows the text and the range that it works with
- `RecordType.ofDocument?_eq_some_iff`: the first line that tells a type tells that of the document
- `Hover.forall_worded?_eq_iff`: two types are told apart by some hover over every field
- `Hover.followsLeaders_iff_at?`: what it means for the answer at a place that hovers follow leaders
- `Hover.followsLeaders_of_isPlainLeader`: hovers follow a leader that is plainly written and stands
  alone
-/

namespace MarcLens

/-! ### Lines that tell a type -/

theorem not_isBlank_of_isDigitLike {c : Char} (h : isDigitLike c) : ¬isBlank c := by
  rw [isDigitLike, Bool.or_eq_true] at h
  rcases h with h | h
  · exact not_isBlank_of_isDecimal h
  · have hapart : ∀ d ∈ looseDigitRanges, ∀ r ∈ blankRanges, r.2 < d.1 ∨ d.2 < r.1 := by decide
    obtain ⟨d, hd, hle⟩ : ∃ d ∈ looseDigitRanges, d.1 ≤ c.toNat ∧ c.toNat ≤ d.2 := by
      simpa using h
    rw [isBlank_iff]
    rintro ⟨r, hr, hblank⟩
    have := hapart d hd r hr
    omega

namespace RecordType

/-- A line tells a type. In MRK it starts with the tag of a leader, and the characters from column
    6 on are taken for its content. Otherwise it starts with a digit and is taken for a leader as a
    whole. -/
def Tells (fmt : Format) (l : Text) (type : RecordType) : Prop :=
  match fmt with
  | .mrk => ∃ a b rest, l = '=' :: 'L' :: 'D' :: 'R' :: a :: b :: rest ∧ ¬Text.isVoid rest ∧
      type = ofLeader (Text.trim rest)
  | _ => ∃ c rest, l = c :: rest ∧ isDigitLike c ∧ 7 ≤ l.length ∧ type = ofLeader l

variable {fmt : Format} {l : Text} {type : RecordType}

theorem ofLine?_mrk_eq_some_iff : ofLine? .mrk l = some type ↔ Tells .mrk l type := by
  simp only [ofLine?, Option.ite_none_right_eq_some, Bool.and_eq_true, List.isPrefixOf_iff_prefix,
    Bool.not_eq_true', List.isEmpty_eq_false_iff, ne_eq, Text.trim_eq_nil_iff, Option.some.injEq]
  constructor
  · rintro ⟨⟨⟨rest, rfl⟩, hvoid⟩, htype⟩
    -- With fewer than two characters behind the tag nothing is left from column 6 on.
    match rest with
    | [] => exact absurd rfl hvoid
    | [_] => exact absurd rfl hvoid
    | a :: b :: rest => exact ⟨a, b, rest, rfl, hvoid, htype.symm⟩
  · rintro ⟨a, b, rest, rfl, hvoid, rfl⟩
    exact ⟨⟨⟨a :: b :: rest, rfl⟩, hvoid⟩, rfl⟩

theorem ofLine?_line_eq_some_iff : ofLine? .line l = some type ↔ Tells .line l type := by
  simp only [ofLine?, Option.ite_none_right_eq_some, Bool.and_eq_true, decide_eq_true_eq,
    Option.some.injEq]
  constructor
  · rintro ⟨⟨hdigit, hlen⟩, rfl⟩
    cases l with
    | nil => simp at hdigit
    | cons c rest => exact ⟨c, rest, rfl, hdigit, hlen, rfl⟩
  · rintro ⟨c, rest, rfl, hdigit, hlen, rfl⟩
    exact ⟨⟨hdigit, hlen⟩, rfl⟩

theorem ofLine?_eq_some_iff (hfmt : fmt = .mrk ∨ fmt = .line) :
    ofLine? fmt l = some type ↔ Tells fmt l type := by
  rcases hfmt with rfl | rfl
  · exact ofLine?_mrk_eq_some_iff
  · exact ofLine?_line_eq_some_iff

/-- A void line tells nothing. -/
theorem Tells.not_isVoid (hfmt : fmt = .mrk ∨ fmt = .line) (h : Tells fmt l type) : ¬l.isVoid := by
  rw [Text.isVoid_iff]
  intro hblank
  rcases hfmt with rfl | rfl
  · obtain ⟨a, b, rest, rfl, -⟩ := h
    exact absurd (hblank '=' (by simp)) (by decide)
  · obtain ⟨c, rest, rfl, hc, -⟩ := h
    exact not_isBlank_of_isDigitLike hc (hblank c (by simp))

/-- The first line that tells a type tells that of the document. -/
theorem ofDocument?_eq_some_iff (hfmt : fmt = .mrk ∨ fmt = .line) (document : Text) :
    ofDocument? fmt document = some type ↔
      ∃ before l after, document.lines = before ++ l :: after ∧ Tells fmt l type ∧
        ∀ m ∈ before, ∀ t, ¬Tells fmt m t := by
  have hvoid : ∀ ls : List Text,
      (ls.filter fun l => !Text.isVoid l).findSome? (ofLine? fmt) = ls.findSome? (ofLine? fmt) := by
    intro ls
    induction ls with
    | nil => rfl
    | cons l ls ih =>
      by_cases hl : l.isVoid
      · have hnone : ofLine? fmt l = none := by
          rw [Option.eq_none_iff_forall_ne_some]
          intro t ht
          exact ((ofLine?_eq_some_iff hfmt).1 ht).not_isVoid hfmt hl
        rw [List.filter_cons_of_neg (by simpa using hl), ih, List.findSome?_cons, hnone]
      · rw [List.filter_cons_of_pos (by simpa using hl), List.findSome?_cons, List.findSome?_cons,
          ih]
  rw [ofDocument?, hvoid, List.findSome?_eq_some_iff]
  simp only [ofLine?_eq_some_iff hfmt, Option.eq_none_iff_forall_ne_some, ne_eq]

theorem key_injective {s t : RecordType} (h : s.key = t.key) : s = t := by
  cases s <;> cases t <;> first | rfl | exact absurd h (by decide)

end RecordType

/-! ### Leaders that tell their own type -/

/-- A leader that is written as its format wants it: in MRK with two blanks behind its tag, in line
    mode without blanks in front of it. -/
def Format.IsPlainLeader (fmt : Format) (l content : Text) : Prop :=
  match fmt with
  | .line => LineMode.isLeader content ∧ ¬l.startsBlank ∧ content = Text.trim l
  | _ => ∃ a b rest, l = '=' :: 'L' :: 'D' :: 'R' :: a :: b :: rest ∧ isBlank a ∧ isBlank b ∧
      ¬Text.isVoid rest ∧ content = Text.trim rest

/-- A line is read as a leader. -/
def Format.IsLeader (fmt : Format) (l : Text) : Prop :=
  ∃ n f, fmt.field? (fmt.prepare l) n = some f ∧ f.kind = .leader

/-- In MRK the content of a leader is what follows its tag, without the blanks around it. -/
theorem Mrk.field?_trim_leader {gap : Char} {rest : Text} (hgap : isBlank gap)
    (hnewline : '\n' ∉ gap :: rest) (hvoid : ¬Text.isVoid rest) (n : Int) :
    ∃ f, field? (Text.trim ('=' :: 'L' :: 'D' :: 'R' :: gap :: rest)) n = some f ∧
      f.kind = .leader ∧ f.content = some (Text.trim rest) := by
  have htrim : Text.trim ('=' :: 'L' :: 'D' :: 'R' :: gap :: rest) =
      '=' :: 'L' :: 'D' :: 'R' :: gap :: Text.trimRight rest :=
    Text.trim_cons_append (c := '=') (by decide) ['L', 'D', 'R', gap] hvoid
  have hright : Text.trimRight (gap :: rest) = gap :: Text.trimRight rest :=
    Text.trimRight_append (s := [gap]) (Or.inr hvoid)
  have hend : ¬Text.endsBlank (gap :: Text.trimRight rest) := by
    rw [← hright]
    exact Text.not_endsBlank_trimRight _
  have hrest : '\n' ∉ gap :: Text.trimRight rest := by
    rw [← hright]
    exact fun hmem => hnewline ((Text.trimRight_isPrefix _).subset hmem)
  have hcontent : Text.trimLeft (gap :: Text.trimRight rest) = Text.trim rest := by
    rw [← hright, Text.trimLeft_trimRight]
    exact Text.trim_append_of_isVoid (show Text.isVoid [gap] by simpa [Text.isVoid] using hgap) rest
  rw [htrim]
  change ∃ f, Option.map _ (contentField? .leader ['L', 'D', 'R'] (gap :: Text.trimRight rest)) =
    some f ∧ _
  rw [contentField?, Text.afterBlanks_contentUpToEnd hrest hgap hend, hcontent]
  exact ⟨_, rfl, rfl, rfl⟩

namespace Format.IsPlainLeader

variable {fmt : Format} {l content : Text}

/-- A leader that is plainly written is read as a leader with its content. -/
theorem exists_field? (hfmt : fmt = .mrk ∨ fmt = .line) (h : fmt.IsPlainLeader l content)
    (hnewline : '\n' ∉ l) (n : Int) :
    ∃ f, fmt.field? (fmt.prepare l) n = some f ∧ f.kind = .leader ∧ f.content = some content := by
  rcases hfmt with rfl | rfl
  · obtain ⟨a, b, rest, rfl, ha, hb, hvoid, rfl⟩ := h
    have hvoid' : ¬Text.isVoid (b :: rest) := by
      rw [Text.isVoid_iff] at hvoid ⊢
      exact fun hall => hvoid fun c hc => hall c (by simp [hc])
    have htrim : Text.trim (b :: rest) = Text.trim rest :=
      Text.trim_append_of_isVoid (show Text.isVoid [b] by simpa [Text.isVoid] using hb) rest
    rw [← htrim]
    exact Mrk.field?_trim_leader ha (fun hmem => hnewline (by simp_all)) hvoid' n
  · obtain ⟨hleader, -, rfl⟩ := h
    change ∃ f, (LineMode.reading? l).map _ = some f ∧ _
    rw [LineMode.reading?, if_pos hleader]
    exact ⟨_, rfl, rfl, rfl⟩

/-- A leader that is plainly written tells its own type. -/
theorem tells (hfmt : fmt = .mrk ∨ fmt = .line) (h : fmt.IsPlainLeader l content) :
    RecordType.Tells fmt l (RecordType.ofLeader content) := by
  rcases hfmt with rfl | rfl
  · obtain ⟨a, b, rest, rfl, -, -, hvoid, rfl⟩ := h
    exact ⟨a, b, rest, rfl, hvoid, rfl⟩
  · obtain ⟨hleader, hstart, rfl⟩ := h
    simp only [LineMode.isLeader, Bool.and_eq_true, decide_eq_true_eq] at hleader
    obtain ⟨⟨hlen, hdigits⟩, -⟩ := hleader
    obtain ⟨pad, hpad⟩ := Text.trim_isPrefix hstart
    cases htrim : Text.trim l with
    | nil => simp [htrim] at hlen
    | cons c rest =>
      rw [htrim] at hlen hdigits hpad
      rw [← hpad]
      refine ⟨c, rest ++ pad, rfl, ?_, ?_, ?_⟩
      · rw [List.take_succ_cons, List.all_cons, Bool.and_eq_true] at hdigits
        rw [isDigitLike, Bool.or_eq_true]
        exact Or.inl hdigits.1
      · rw [List.length_append]
        omega
      · rw [RecordType.ofLeader, RecordType.ofLeader, List.getElem?_append_left (by omega)]

end Format.IsPlainLeader

/-! ### Hovers that tell types apart -/

namespace Hover

/-- The text and the range that a hover over a character works with, for records of a given type. -/
def worded? (cat : Catalogue) (fmt : Format) (l : Text) (f : Field) (line character : Int)
    (type : Option RecordType) : Except Fault (Option (String × Range)) := do
  match ← Locate.at? cat fmt l f character type with
  | none => return none
  | some found => return some (← found.note.markdown, found.range line)

theorem exists_of_worded?_eq {cat : Catalogue} {fmt : Format} {l : Text} {f : Field}
    {line character : Int} {type : Option RecordType} {text : String} {range : Range}
    (h : worded? cat fmt l f line character type = .ok (some (text, range))) :
    ∃ found, Locate.at? cat fmt l f character type = .ok (some found) ∧
      found.note.markdown = .ok text := by
  rw [worded?] at h
  cases hat : Locate.at? cat fmt l f character type with
  | error fault =>
    rw [hat] at h
    cases h
  | ok found =>
    rw [hat] at h
    cases found with
    | none => cases h
    | some located =>
      refine ⟨located, rfl, ?_⟩
      change (located.note.markdown >>= _) = _ at h
      cases hmarkdown : located.note.markdown with
      | error fault =>
        rw [hmarkdown] at h
        cases h
      | ok words =>
        rw [hmarkdown] at h
        cases h
        rfl

/-- A hover shows the text that it works with, and the range unless that is as long as the line. -/
def ofWorded (l : Text) (found : String × Range) : Hover :=
  ⟨found.1,
    if found.2.stop.character - found.2.start.character < l.length then some found.2 else none⟩

theorem onLine?_eq_worded? {document l : Text} {line : Int} {f : Field}
    (hlooks : (Format.detect document).looksLikeField l)
    (hf : (Format.detect document).field? l (line + 1) = some f) (cat : Catalogue)
    (character : Int) :
    onLine? cat document l line character =
      (worded? cat (Format.detect document) l f line character
        (RecordType.ofDocument? (Format.detect document) document)).map
          (Option.map (ofWorded l)) := by
  simp only [onLine?, if_pos hlooks, hf, worded?]
  cases Locate.at? cat (Format.detect document) l f character
    (RecordType.ofDocument? (Format.detect document) document) with
  | error fault => rfl
  | ok found =>
    cases found with
    | none => rfl
    | some located =>
      change (ofLocated l line located >>= _) = Except.map _ (located.note.markdown >>= _)
      rw [ofLocated]
      cases located.note.markdown <;> rfl

/-- A hover over a line that can be read shows the text and the range that it works with, for the
    type that the document tells. -/
theorem at?_eq_worded? {document l : Text} {i : Nat} {f : Field}
    (hline : document.lines[i]? = some l)
    (hf : (Format.detect document).field? l (i + 1) = some f) (cat : Catalogue) (c : Int) :
    at? cat document ⟨i, c⟩ =
      (worded? cat (Format.detect document) l f i c
        (RecordType.ofDocument? (Format.detect document) document)).map
          (Option.map (ofWorded l)) := by
  have hlooks := Format.looksLikeField_of_field? (Format.detect_eq_mrk_or_line document) hf
  rw [← onLine?_eq_worded? hlooks hf, at?,
    Document.line?_of_nonneg document (Int.natCast_nonneg i), Int.toNat_natCast, hline]
  rfl

end Hover

namespace Locate

variable {fmt : Format} {l : Text} {f : Field} {type : RecordType} {told : Option RecordType}
  {start : Nat} {line c : Int}

/-- A catalogue in which one field is fixed, for one type of record only. -/
def oneFixed (type : RecordType) (tag : Text) : Catalogue :=
  { fixedFields := [(type.key, [(String.ofList tag, [])])] }

theorem isFixed_oneFixed_iff {tag : Text} :
    (oneFixed type tag).isFixed (String.ofList tag) told ↔ told = some type := by
  cases told with
  | none => simp [Catalogue.isFixed]
  | some t =>
    by_cases ht : t = type
    · subst ht
      simp [Catalogue.isFixed, Catalogue.fixedField?, oneFixed, Table.get?_cons]
    · have hkey : t.key ≠ type.key := fun h => ht (RecordType.key_injective h)
      simp [Catalogue.isFixed, Catalogue.fixedField?, oneFixed, Table.get?_cons, hkey, ht]

theorem tag?_oneFixed (tag : Text) (fmt : Format) (l : Text) (f : Field) (c : Int) :
    tag? (oneFixed type tag) fmt l f c = none := by
  rw [tag?]
  dsimp only
  split
  · rfl
  · split
    · rfl
    · split
      · rfl
      · split <;> rfl

/-- Every field that is read has a place for its content. -/
theorem exists_contentStart? {n : Int} (hfmt : fmt = .mrk ∨ fmt = .line)
    (h : fmt.field? l n = some f) : ∃ start c, contentStart? fmt l f c = some start := by
  obtain ⟨start, hstart⟩ : ∃ start, fmt.contentStart? l f.tag = some start := by
    rw [Format.contentStart?]
    split
    · exact ⟨0, rfl⟩
    · next hbare =>
      have hstarts := (Format.writtenTag_isPrefix_of_field? hfmt h).resolve_left hbare
      simp [Text.find?_of_isPrefix hstarts]
  refine ⟨start, max start (fmt.tagEnd + 1), ?_⟩
  have hbehind : ¬max (start : Int) (fmt.tagEnd + 1) ≤ fmt.tagEnd := by omega
  simp [contentStart?, hbehind, hstart]

/-- The characters of the one field are counted for records of its type. -/
theorem worded?_oneFixed_self (h : contentStart? fmt l f c = some start) :
    Hover.worded? (oneFixed type f.tag) fmt l f line c (some type) =
      .ok (some ("**" ++ String.ofList f.tag ++ " position " ++ (c - start).repr ++
        "** - Character position in fixed field", .onLine line c (c + 1))) := by
  have hpositions : (oneFixed type f.tag).fixedField? (String.ofList f.tag) type = some [] := by
    simp [Catalogue.fixedField?, oneFixed, Table.get?_cons]
  have hposition : position? (oneFixed type f.tag) fmt l f c (some type) =
      .ok (some ⟨.character f.tag (c - start), c, c + 1⟩) := by
    simp only [position?, h, assumedType, Option.some_or, positionFrom, Catalogue.position?,
      hpositions]
    rfl
  simp only [Hover.worded?, at?, tag?_oneFixed, isFixed_oneFixed_iff.2, if_true, hposition]
  rfl

/-- A note on an indicator, or on a subfield that is not documented. -/
def IsOnPart : Note → Prop
  | .indicator .. => True
  | .subfield _ _ none => True
  | _ => False

theorem isOnPart_indicator? {cat : Catalogue} {found : Located}
    (h : indicator? cat fmt l f c = some found) : IsOnPart found.note := by
  unfold indicator? at h
  split at h
  · simp at h
  · split at h
    · obtain rfl := Option.some.inj h
      trivial
    · obtain ⟨-, h⟩ := Option.ite_none_right_eq_some.1 h
      obtain rfl := Option.some.inj h
      trivial

theorem isOnPart_plain?_oneFixed {tag : Text} {note : Note}
    (h : plain? (oneFixed type tag) fmt l f c = some note) : IsOnPart note := by
  have htag : (if 0 ≤ c ∧ c ≤ fmt.tagEnd then (oneFixed type tag).tag? (String.ofList f.tag)
      else none) = none := by split <;> rfl
  rw [plain?, htag] at h
  obtain ⟨-, h⟩ := Option.ite_none_right_eq_some.1 h
  rcases Option.or_eq_some_iff.1 h with h | ⟨-, h⟩
  · obtain ⟨s, -, h⟩ := List.exists_of_findSome?_eq_some h
    obtain ⟨start, -, rfl⟩ := Option.map_eq_some_iff.1 h
    trivial
  · obtain ⟨located, hlocated, rfl⟩ := Option.map_eq_some_iff.1 h
    exact isOnPart_indicator? hlocated

theorem isOnPart_part?_oneFixed {tag : Text} {found : Located}
    (h : part? (oneFixed type tag) fmt l f c = .ok (some found)) : IsOnPart found.note := by
  rw [part?] at h
  split at h
  · next located hinside =>
    obtain rfl : located = found := Option.some.inj (Except.ok.inj h)
    rcases Option.or_eq_some_iff.1 hinside with h | ⟨-, h⟩
    · exact isOnPart_indicator? (Option.ite_none_right_eq_some.1 h).2
    · obtain ⟨span, -, rfl⟩ := Option.map_eq_some_iff.1 (Option.ite_none_right_eq_some.1 h).2
      trivial
  · rw [remark?_eq_ok_plain?] at h
    obtain ⟨note, hnote, rfl⟩ := Option.map_eq_some_iff.1 (Except.ok.inj h)
    exact isOnPart_plain?_oneFixed hnote

/-- Behind two stars, a text on an indicator or a subfield goes on in its own way. -/
theorem exists_toList_eq_of_isOnPart {note : Note} {text : String} (h : IsOnPart note)
    (htext : note.markdown = .ok text) :
    ∃ c rest, text.toList = '*' :: '*' :: c :: rest ∧ (c = 'I' ∨ c = '$') := by
  match note, h with
  | .indicator number value documented, _ =>
    rw [Note.markdown] at htext
    cases hmeaning : Note.indicatorMeaning number (String.ofList value) documented with
    | error fault =>
      rw [hmeaning] at htext
      cases htext
    | ok meaning =>
      rw [hmeaning] at htext
      obtain rfl := Except.ok.inj htext
      exact ⟨'I', _, by simp [String.toList_append]; rfl, Or.inl rfl⟩
  | .subfield label s none, _ =>
    obtain rfl := Except.ok.inj htext
    exact ⟨'$', _, by simp [String.toList_append]; rfl, Or.inr rfl⟩

/-- For records of another type nothing is said about the characters of the one field. -/
theorem worded?_oneFixed_ne {n : Int} (hf : fmt.field? l n = some f) (htold : told ≠ some type)
    {label : String} {range : Range} :
    Hover.worded? (oneFixed type f.tag) fmt l f line c told ≠
      .ok (some ("**" ++ String.ofList f.tag ++ label, range)) := by
  intro h
  have hfixed : ¬(oneFixed type f.tag).isFixed (String.ofList f.tag) told :=
    fun hfixed => htold (isFixed_oneFixed_iff.1 hfixed)
  have hat : at? (oneFixed type f.tag) fmt l f c told = part? (oneFixed type f.tag) fmt l f c := by
    simp only [at?, tag?_oneFixed, if_neg hfixed]
    rfl
  obtain ⟨found, hfound, htext⟩ := Hover.exists_of_worded?_eq h
  rw [hat] at hfound
  obtain ⟨d, rest, hrest, hd⟩ := exists_toList_eq_of_isOnPart (isOnPart_part?_oneFixed hfound) htext
  -- The text would have to go on with the tag, whose first character is a digit or the letter L.
  obtain ⟨e, tag, htag, he⟩ := (Format.isRead_of_field? hf).exists_tag_eq_cons
  have hde : d = e := by
    rw [htag] at hrest
    simp only [String.toList_append, String.toList_ofList, List.append_assoc] at hrest
    change '*' :: '*' :: e :: _ = '*' :: '*' :: d :: rest at hrest
    simp only [List.cons.injEq, true_and] at hrest
    exact hrest.1.symm
  subst hde
  rcases hd with rfl | rfl
  · exact absurd he (by decide)
  · exact absurd he (by decide)

end Locate

namespace Hover

/-- Two types of records are told apart by some hover over every field that can be read, in
    whichever way its text and range are shown, as long as the text can be seen. -/
theorem forall_map_worded?_eq_iff {α : Type} (shown : String × Range → α)
    (hshown : ∀ found found', shown found = shown found' → found.1 = found'.1) (line : Int)
    {fmt : Format} {l : Text} {n : Int} {f : Field} {told : Option RecordType} {type : RecordType}
    (hfmt : fmt = .mrk ∨ fmt = .line) (hf : fmt.field? l n = some f) :
    (∀ cat c, (worded? cat fmt l f line c told).map (Option.map shown) =
        (worded? cat fmt l f line c (some type)).map (Option.map shown)) ↔
      told = some type := by
  constructor
  · intro h
    obtain ⟨start, c, hstart⟩ := Locate.exists_contentStart? hfmt hf
    by_contra htold
    have hsame := h (Locate.oneFixed type f.tag) c
    rw [Locate.worded?_oneFixed_self hstart, String.append_assoc, String.append_assoc] at hsame
    cases hworded : worded? (Locate.oneFixed type f.tag) fmt l f line c told with
    | error fault =>
      rw [hworded] at hsame
      cases hsame
    | ok found =>
      rw [hworded] at hsame
      obtain ⟨⟨text, range⟩, rfl, htext⟩ := Option.map_eq_some_iff.1 (Except.ok.inj hsame)
      obtain rfl := hshown _ _ htext
      exact Locate.worded?_oneFixed_ne hf htold hworded
  · rintro rfl cat c
    rfl

theorem forall_worded?_eq_iff {fmt : Format} {l : Text} {n line : Int} {f : Field}
    {told : Option RecordType} {type : RecordType} (hfmt : fmt = .mrk ∨ fmt = .line)
    (hf : fmt.field? l n = some f) :
    (∀ cat c, worded? cat fmt l f line c told = worded? cat fmt l f line c (some type)) ↔
      told = some type := by
  constructor
  · intro h
    apply (forall_map_worded?_eq_iff Prod.fst (fun _ _ => id) line hfmt hf).1
    intro cat c
    rw [h cat c]
  · rintro rfl cat c
    rfl

end Hover

/-! ### Records and their leaders -/

/-- The type that the leader of a record tells. -/
def Record.type? (r : Record) : Option RecordType :=
  r.leader.bind fun leader => leader.content.map RecordType.ofLeader

/-- A record has a field from the line with the given number, counted from 0, and a field can be
    read from that line as it stands. -/
structure Document.IsOnLine (document : Text) (r : Record) (i : Nat) (l : Text) (f : Field) :
    Prop where
  line : document.lines[i]? = some l
  mem : ∃ g ∈ r.toList, g.line = i + 1
  read : (Format.detect document).field? l (i + 1) = some f

/-- The leader of a record stands on a line of the document. -/
theorem Document.exists_line_of_mem_leader {fmt : Format} {document : Text} {r : Record} {f : Field}
    (hr : r ∈ records fmt document) (hf : f ∈ r.leader) :
    ∃ l ∈ document.lines, ∃ n, fmt.field? (fmt.prepare l) n = some f ∧ f.kind = .leader := by
  have hkind := ((Record.wellGrouped_group _).proper r hr).leader f hf
  have hmem : f ∈ fields fmt document := by
    rw [← Record.flatMap_toList_group (fields fmt document), List.mem_flatMap]
    exact ⟨r, hr, by simp [Record.toList, Option.mem_def.1 hf]⟩
  rw [fields_eq_filterMap, List.mem_filterMap] at hmem
  obtain ⟨⟨l, i⟩, hline, hread⟩ := hmem
  exact ⟨l, List.fst_mem_of_mem_zipIdx (List.mem_of_mem_filter hline), i, hread, hkind⟩

namespace Hover

/-- Every hover over a line of a record with a leader works with the text and the range that the
    type of that leader gives. -/
def FollowsLeaders (document : Text) : Prop :=
  let fmt := Format.detect document
  ∀ r ∈ Document.records fmt document, ∀ type ∈ r.type?, ∀ i l f,
    Document.IsOnLine document r i l f → ∀ cat c,
      worded? cat fmt l f i c (RecordType.ofDocument? fmt document) =
        worded? cat fmt l f i c (some type)

theorem followsLeaders_iff_ofDocument? (document : Text) :
    FollowsLeaders document ↔
      ∀ r ∈ Document.records (Format.detect document) document, ∀ type ∈ r.type?,
        (∃ i l f, Document.IsOnLine document r i l f) →
          RecordType.ofDocument? (Format.detect document) document = some type := by
  have hfmt := Format.detect_eq_mrk_or_line document
  constructor
  · rintro h r hr type htype ⟨i, l, f, hline⟩
    exact (forall_worded?_eq_iff hfmt hline.read).1 (h r hr type htype i l f hline)
  · intro h r hr type htype i l f hline
    exact (forall_worded?_eq_iff hfmt hline.read).2 (h r hr type htype ⟨i, l, f, hline⟩)

/-- Hovers follow the leaders of a document iff the answer at every place of a record with a leader
    shows the text and the range that the type of that leader gives. -/
theorem followsLeaders_iff_at? (document : Text) :
    FollowsLeaders document ↔
      ∀ r ∈ Document.records (Format.detect document) document, ∀ type ∈ r.type?, ∀ i l f,
        Document.IsOnLine document r i l f → ∀ cat c,
          at? cat document ⟨i, c⟩ =
            (worded? cat (Format.detect document) l f i c (some type)).map
              (Option.map (ofWorded l)) := by
  have hfmt := Format.detect_eq_mrk_or_line document
  have htext : ∀ l found found', ofWorded l found = ofWorded l found' → found.1 = found'.1 :=
    fun _ _ _ h => congrArg Hover.text h
  rw [followsLeaders_iff_ofDocument?]
  constructor
  · intro h r hr type htype i l f hline cat c
    rw [at?_eq_worded? hline.line hline.read, h r hr type htype ⟨i, l, f, hline⟩]
  · rintro h r hr type htype ⟨i, l, f, hline⟩
    apply (forall_map_worded?_eq_iff (ofWorded l) (htext l) i hfmt hline.read).1
    intro cat c
    rw [← at?_eq_worded? hline.line hline.read]
    exact h r hr type htype i l f hline cat c

/-- Hovers follow a leader that is plainly written, that no other line forestalls and that is the
    only one of its document. -/
theorem followsLeaders_of_isPlainLeader {document l content : Text} {before after : List Text}
    (hlines : document.lines = before ++ l :: after)
    (hplain : (Format.detect document).IsPlainLeader l content)
    (hbefore : ∀ m ∈ before, ∀ t, ¬RecordType.Tells (Format.detect document) m t)
    (hother : ∀ m ∈ before ++ after, ¬(Format.detect document).IsLeader m) :
    FollowsLeaders document := by
  have hfmt := Format.detect_eq_mrk_or_line document
  rw [followsLeaders_iff_ofDocument?]
  intro r hr type htype _
  obtain ⟨leader, hleader, htype⟩ := Option.bind_eq_some_iff.1 htype
  obtain ⟨m, hm, n, hread, hkind⟩ := Document.exists_line_of_mem_leader hr hleader
  have hml : m = l := by
    rw [hlines] at hm
    by_contra hne
    exact hother m (by simp_all) ⟨n, leader, hread, hkind⟩
  subst hml
  obtain ⟨f, hf, -, hcontent⟩ := hplain.exists_field? hfmt (Text.newline_notMem_of_mem_lines hm) n
  obtain rfl : leader = f := Option.some.inj (hread.symm.trans hf)
  rw [hcontent] at htype
  obtain rfl := Option.some.inj htype
  exact (RecordType.ofDocument?_eq_some_iff hfmt document).2
    ⟨before, m, after, hlines, hplain.tells hfmt, hbefore⟩

/-- Hovers follow the leaders of a document iff the first line of it that tells a type tells the
    type of every leader whose record has a line that can be read as it stands. -/
theorem followsLeaders_iff (document : Text) :
    FollowsLeaders document ↔
      ∀ r ∈ Document.records (Format.detect document) document, ∀ type ∈ r.type?,
        (∃ i l f, Document.IsOnLine document r i l f) →
          ∃ before l after, document.lines = before ++ l :: after ∧
            RecordType.Tells (Format.detect document) l type ∧
            ∀ m ∈ before, ∀ t, ¬RecordType.Tells (Format.detect document) m t := by
  have hfmt := Format.detect_eq_mrk_or_line document
  rw [followsLeaders_iff_ofDocument?]
  simp only [RecordType.ofDocument?_eq_some_iff hfmt]

/-- A single space behind the tag of a leader moves the characters by one, so that an authority
    record is not taken for one. -/
theorem not_followsLeaders_of_single_space :
    ¬FollowsLeaders "=LDR 00000nz  a2200000n  4500\n=008  860211in|acannaab".toList := by
  rw [followsLeaders_iff_ofDocument?]
  intro h
  let document := "=LDR 00000nz  a2200000n  4500\n=008  860211in|acannaab".toList
  let leader : Field :=
    { tag := ['L', 'D', 'R'], kind := .leader, content := some "00000nz  a2200000n  4500".toList
      line := 1, stop := 29 }
  let field : Field :=
    { tag := ['0', '0', '8'], kind := .control, content := some "860211in|acannaab".toList
      line := 2, stop := 23 }
  have hrecords : Document.records (Format.detect document) document =
      [{ leader := some leader, fields := [field] }] := by decide
  have hline : Document.IsOnLine document { leader := some leader, fields := [field] } 1
      "=008  860211in|acannaab".toList field :=
    ⟨by decide, ⟨field, by simp [Record.toList], rfl⟩, by decide⟩
  have htold := h { leader := some leader, fields := [field] } (by rw [hrecords]; simp) .authority
    (by decide) ⟨1, _, field, hline⟩
  exact absurd htold (by decide)

end Hover

end MarcLens

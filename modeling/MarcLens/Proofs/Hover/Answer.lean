import MarcLens.Catalogue.Shipped
import MarcLens.Hover.Basic
import MarcLens.Proofs.Hover.Wording
import MarcLens.Proofs.Shape

/-!
# Hovers without faults

Every place of a document gets an answer, a hover or none, when the documentation is of the expected
kinds. Three faults lie on the way that no documentation can excuse, and none of them is met: the
lines of a document are asked for from the first one on, the tags that are read spell numbers, and
no field is fixed without a type of record.

## Main definitions

- `Catalogue.isTextual`: names, descriptions and tables are what they should be
- `Catalogue.hasIntegerBounds`: the bounds of positions are integers

## Main statements

- `Field.IsRead.yields_documentationPage`: a tag that was read has a page or none, but no fault
- `Locate.yields_at?`: what stands under a character is found, and can be worded
- `Hover.yields_at?`: every place from the first line on gets an answer
-/

namespace MarcLens

/-! ### Tags that spell numbers -/

/-- Decimal digits spell a number, whichever scripts they are from. -/
theorem Text.isSome_decimalNumber? {t : Text} (h : t.all isDecimal) :
    (decimalNumber? t).isSome := by
  have hfold : ∀ n : Nat, (t.foldl (fun (n : Option Nat) c => do
      return 10 * (← n) + (← decimalValue? c)) (some n)).isSome := by
    induction t with
    | nil => exact fun _ => rfl
    | cons c t ih =>
      intro n
      rw [List.all_cons, Bool.and_eq_true] at h
      obtain ⟨d, hd⟩ := Option.isSome_iff_exists.1 h.1
      rw [List.foldl_cons, hd]
      exact ih h.2 (10 * n + d)
  exact hfold 0

/-- The tag of a field that was read is that of a leader, or spells a number. -/
theorem Field.IsRead.yields_documentationPage {f : Field} (h : f.IsRead) :
    Yields (documentationPage f.tag) fun _ => True := by
  rcases h.tag with htag | ⟨-, htag⟩
  · rw [htag]
    exact .ok trivial
  · obtain ⟨n, hn⟩ := Option.isSome_iff_exists.1 (Text.isSome_decimalNumber? htag)
    rw [documentationPage, hn]
    split
    · dsimp only
      split <;> exact .ok trivial
    · exact .ok trivial

/-! ### Documentation of the expected kinds -/

/-- A value stands for an integer. -/
def Json.isIndex (j : Json) : Bool := j.index?.isSome

def Position.hasIntegerBounds (p : Position) : Bool := p.start.isIndex && p.stop.isIndex

namespace Catalogue

/-- All names and descriptions are texts, and all indicators and values are tables of texts. -/
def isTextual (c : Catalogue) : Bool :=
  (c.bibliographic.all fun entry => entry.2.isTextual) &&
    (c.holdings.all fun entry => entry.2.isTextual) &&
    c.fixedFields.all fun fields => fields.2.all fun positions =>
      positions.2.all fun entry => entry.2.isTextual

/-- All positions of fixed fields have integers as their bounds. -/
def hasIntegerBounds (c : Catalogue) : Bool :=
  c.fixedFields.all fun fields => fields.2.all fun positions =>
    positions.2.all fun entry => entry.2.hasIntegerBounds

variable {cat : Catalogue} {tag : String} {type : RecordType}

theorem isTextual_of_tag? (h : cat.isTextual) {d : TagDefinition} (hd : cat.tag? tag = some d) :
    d.isTextual := by
  simp only [isTextual, Bool.and_eq_true, List.all_eq_true] at h
  rcases Option.or_eq_some_iff.1 hd with hd | ⟨-, hd⟩
  · exact h.1.1 _ (Table.mem_of_get? hd)
  · exact h.1.2 _ (Table.mem_of_get? hd)

/-- What holds of all positions holds of those of one field. -/
theorem forall_mem_fixedField? {p : Position → Bool}
    (h : cat.fixedFields.all fun fields => fields.2.all fun positions =>
      positions.2.all fun entry => p entry.2)
    {positions : Table Position} (hfield : cat.fixedField? tag type = some positions) :
    ∀ entry ∈ positions, p entry.2 := by
  obtain ⟨fields, hfields, hpositions⟩ := Option.bind_eq_some_iff.1 hfield
  simp only [List.all_eq_true] at h
  exact h _ (Table.mem_of_get? hfields) _ (Table.mem_of_get? hpositions)

/-- Without a type of record no field is fixed. -/
theorem isFixed_none (cat : Catalogue) (tag : String) : cat.isFixed tag none = false := rfl

end Catalogue

namespace Position

variable {p : Position}

theorem yields_covers (h : p.hasIntegerBounds) (c : Int) : Yields (p.covers c) fun _ => True := by
  rw [hasIntegerBounds, Bool.and_eq_true] at h
  have hstart : ∃ reached, p.start.atMost? c = some reached := by
    cases hj : p.start <;> simp_all [Json.atMost?, Json.index?, Json.isIndex]
  have hstop : ∃ reached, p.stop.atLeast? c = some reached := by
    cases hj : p.stop <;> simp_all [Json.atLeast?, Json.index?, Json.isIndex]
  obtain ⟨started, hstarted⟩ := hstart
  obtain ⟨reached, hreached⟩ := hstop
  rw [covers, hstarted, hreached]
  cases started with
  | false => exact .ok trivial
  | true =>
    dsimp only
    split <;> exact .ok trivial

/-- The first position that covers a character is one of the table. -/
theorem yields_first? {positions : Table Position}
    (h : ∀ entry ∈ positions, entry.2.hasIntegerBounds) (c : Int) :
    Yields (first? c positions) fun found => ∀ p ∈ found, ∃ name, (name, p) ∈ positions := by
  induction positions with
  | nil => exact .ok (by simp)
  | cons entry rest ih =>
    obtain ⟨name, p⟩ := entry
    rw [first?]
    refine (yields_covers (h (name, p) (by simp)) c).bind fun covered _ => ?_
    cases covered with
    | true => exact .ok (by simp)
    | false =>
      refine (ih fun entry hentry => h entry (by simp [hentry])).mono ?_
      rintro found hfound p hp
      obtain ⟨name, hmem⟩ := hfound p hp
      exact ⟨name, List.mem_cons_of_mem _ hmem⟩

end Position

/-! ### What stands under a character -/

namespace Locate

variable {cat : Catalogue} {f : Field} {p : Position}

theorem yields_bound {j : Json} (h : j.isIndex) : Yields (bound j) fun _ => True := by
  obtain ⟨n, hn⟩ := Option.isSome_iff_exists.1 h
  rw [bound, hn]
  exact .ok trivial

theorem yields_positionValue (h : p.hasIntegerBounds) (content : Text) :
    Yields (positionValue p content) fun _ => True := by
  rw [Position.hasIntegerBounds, Bool.and_eq_true] at h
  rw [positionValue]
  split
  · exact .ok trivial
  · split
    · exact (yields_bound h.1).bind fun _ _ => .ok trivial
    · refine (yields_bound h.1).bind fun start _ => ?_
      exact (yields_bound h.2).bind fun stop _ => .ok trivial

theorem yields_positionFrom (htext : cat.isTextual) (hbounds : cat.hasIntegerBounds) (l : Text)
    (c : Int) (start : Nat) (type : RecordType) :
    Yields (positionFrom cat l f c start type) fun found => found.note.CanBeWorded := by
  cases hfield : cat.fixedField? (String.ofList f.tag) type with
  | none =>
    have hnone : cat.position? (String.ofList f.tag) (c - start) type = .ok none := by
      rw [Catalogue.position?, hfield]
      rfl
    rw [positionFrom, hnone]
    exact .ok trivial
  | some positions =>
    simp only [Catalogue.isTextual, Bool.and_eq_true] at htext
    have hpositions := Catalogue.forall_mem_fixedField? hbounds hfield
    have hvalues := Catalogue.forall_mem_fixedField? htext.2 hfield
    have hfirst := Position.yields_first? hpositions (c - start)
    rw [positionFrom, Catalogue.position?, hfield]
    refine hfirst.bind fun found hfound => ?_
    cases found with
    | none => exact .ok trivial
    | some p =>
      obtain ⟨name, hmem⟩ := hfound p rfl
      refine (yields_positionValue (hpositions _ hmem) _).bind fun value _ => ?_
      exact .ok (Position.not_holds_or_isTableOf (hvalues _ hmem))

theorem yields_position? (htext : cat.isTextual) (hbounds : cat.hasIntegerBounds) (fmt : Format)
    (l : Text) (c : Int) (type : Option RecordType) :
    Yields (position? cat fmt l f c type) fun found => ∀ x ∈ found, x.note.CanBeWorded := by
  rw [position?]
  split
  · next start type _ _ =>
    obtain ⟨located, hok, hworded⟩ := yields_positionFrom (f := f) htext hbounds l c start type
    rw [hok]
    exact .ok (by simpa using hworded)
  · exact .ok (by simp)

theorem canBeWorded_tag? (htext : cat.isTextual) {fmt : Format} {l : Text} {c : Int}
    {found : Located} (h : tag? cat fmt l f c = some found) : found.note.CanBeWorded := by
  unfold tag? at h
  dsimp only at h
  split at h
  · simp at h
  · split at h
    · simp at h
    · split at h
      · simp at h
      · obtain ⟨-, h⟩ := Option.ite_none_right_eq_some.1 h
        obtain ⟨d, hd, rfl⟩ := Option.map_eq_some_iff.1 h
        have hd := Catalogue.isTextual_of_tag? htext hd
        simp only [TagDefinition.isTextual, Bool.and_eq_true] at hd
        exact hd.1.1.2

theorem canBeWorded_indicatorNote (htext : cat.isTextual) (number : IndicatorNumber) :
    (indicatorNote cat f number).CanBeWorded := by
  rw [indicatorNote]
  cases htag : cat.tag? (String.ofList f.tag) with
  | none => exact rfl
  | some d =>
    have hd := Catalogue.isTextual_of_tag? htext htag
    simp only [TagDefinition.isTextual, Bool.and_eq_true] at hd
    exact hd.1.2

theorem canBeWorded_indicator? (htext : cat.isTextual) {fmt : Format} {l : Text} {c : Int}
    {found : Located} (h : indicator? cat fmt l f c = some found) : found.note.CanBeWorded := by
  unfold indicator? at h
  split at h
  · simp at h
  · split at h
    · obtain rfl := Option.some.inj h
      exact canBeWorded_indicatorNote htext .first
    · obtain ⟨-, h⟩ := Option.ite_none_right_eq_some.1 h
      obtain rfl := Option.some.inj h
      exact canBeWorded_indicatorNote htext .second

theorem canBeWorded_subfieldIn? {l : Text} {c : Int} {subfields : List Subfield} {found : Located}
    (h : subfieldIn? cat l f c subfields = some found) : found.note.CanBeWorded := by
  obtain ⟨span, -, rfl⟩ := Option.map_eq_some_iff.1 h
  exact trivial

theorem canBeWorded_plainSubfield? {l : Text} {c : Int} {note : Note}
    (h : plainSubfield? cat l f c = some note) : note.CanBeWorded := by
  obtain ⟨s, -, h⟩ := List.exists_of_findSome?_eq_some h
  obtain ⟨start, -, rfl⟩ := Option.map_eq_some_iff.1 h
  exact trivial

theorem canBeWorded_plain? (htext : cat.isTextual) (hread : f.IsRead) {fmt : Format} {l : Text}
    {c : Int} {note : Note} (h : plain? cat fmt l f c = some note) : note.CanBeWorded := by
  unfold plain? at h
  split at h
  · next d hd =>
    obtain rfl := Option.some.inj h
    obtain ⟨-, hd⟩ := Option.ite_none_right_eq_some.1 hd
    have hd := Catalogue.isTextual_of_tag? htext hd
    simp only [TagDefinition.isTextual, Bool.and_eq_true] at hd
    exact ⟨hd.1.2, hread.yields_documentationPage⟩
  · obtain ⟨-, h⟩ := Option.ite_none_right_eq_some.1 h
    rcases Option.or_eq_some_iff.1 h with h | ⟨-, h⟩
    · exact canBeWorded_plainSubfield? h
    · obtain ⟨located, hlocated, rfl⟩ := Option.map_eq_some_iff.1 h
      exact canBeWorded_indicator? htext hlocated

/-- A remark is never about a position, which would need a type of record. -/
theorem remark?_eq_ok_plain? (cat : Catalogue) (fmt : Format) (l : Text) (f : Field) (c : Int) :
    remark? cat fmt l f c = .ok (plain? cat fmt l f c) := by
  rw [remark?, Catalogue.isFixed_none]
  rfl

theorem yields_part? (htext : cat.isTextual) (hread : f.IsRead) (fmt : Format) (l : Text)
    (c : Int) : Yields (part? cat fmt l f c) fun found => ∀ x ∈ found, x.note.CanBeWorded := by
  rw [part?]
  split
  · next located hinside =>
    refine .ok ?_
    rintro x ⟨⟩
    rcases Option.or_eq_some_iff.1 hinside with h | ⟨-, h⟩
    · exact canBeWorded_indicator? htext (Option.ite_none_right_eq_some.1 h).2
    · exact canBeWorded_subfieldIn? (Option.ite_none_right_eq_some.1 h).2
  · rw [remark?_eq_ok_plain?]
    refine .ok ?_
    intro x hx
    obtain ⟨note, hnote, rfl⟩ := Option.map_eq_some_iff.1 hx
    exact canBeWorded_plain? htext hread hnote

/-- Under every character of a line that was read something or nothing stands, and what stands there
    can be worded. -/
theorem yields_at? (htext : cat.isTextual) (hbounds : cat.hasIntegerBounds) (hread : f.IsRead)
    (fmt : Format) (l : Text) (c : Int) (type : Option RecordType) :
    Yields (at? cat fmt l f c type) fun found => ∀ x ∈ found, x.note.CanBeWorded := by
  rw [at?]
  split
  · next located htag =>
    refine .ok ?_
    rintro x ⟨⟩
    exact canBeWorded_tag? htext htag
  · split
    · refine (yields_position? htext hbounds fmt l c type).bind fun position hposition => ?_
      cases position with
      | some located => exact .ok hposition
      | none => exact yields_part? htext hread fmt l c
    · exact yields_part? htext hread fmt l c

end Locate

/-- A number that is not negative counts from the first line. -/
theorem Document.line?_of_nonneg (document : Text) {number : Int} (h : 0 ≤ number) :
    line? document number = .ok document.lines[number.toNat]? := by
  rw [line?]
  split
  · next hlen =>
    rw [List.getElem?_eq_none (by omega)]
  · dsimp only
    rw [if_neg (Int.not_lt.2 h), if_neg (Int.not_lt.2 h)]

namespace Hover

variable {cat : Catalogue}

theorem yields_onLine? (htext : cat.isTextual) (hbounds : cat.hasIntegerBounds)
    (document l : Text) (line character : Int) :
    Yields (onLine? cat document l line character) fun _ => True := by
  rw [onLine?]
  split
  · exact .ok trivial
  · next f hf =>
    have hread : f.IsRead := Format.isRead_of_field? (Option.ite_none_right_eq_some.1 hf).2
    refine (Locate.yields_at? htext hbounds hread _ l character _).bind fun found hfound => ?_
    cases found with
    | none => exact .ok trivial
    | some located =>
      have hworded : Yields (ofLocated l line located) fun _ => True :=
        (Note.yields_markdown (hfound located rfl)).bind fun _ _ => .ok trivial
      exact hworded.bind fun _ _ => .ok trivial

theorem yields_at? (htext : cat.isTextual) (hbounds : cat.hasIntegerBounds) (document : Text)
    {place : Place} (hline : 0 ≤ place.line) :
    Yields (at? cat document place) fun _ => True := by
  rw [at?, Document.line?_of_nonneg document hline]
  cases hl : document.lines[place.line.toNat]? with
  | none => exact .ok trivial
  | some l => exact yields_onLine? htext hbounds document l _ _

end Hover

end MarcLens

import MarcLens.Hover.Note
import Mathlib.Data.List.Basic

/-!
# Notes that can be worded

Documentation is whatever the data files hold, and a note about it is a fault where a text or a
table is needed and something else is found. With documentation of the expected kinds every note
has a wording.

## Main definitions

- `Yields`: a request is answered, and the answer has a property
- `TagDefinition.isTextual`, `Position.isTextual`: texts and tables are what they should be
- `Note.CanBeWorded`: what a note needs for its wording

## Main statements

- `Note.yields_markdown`: a note that has what it needs is worded
-/

namespace MarcLens

/-- A request is answered, and the answer has a property. -/
def Yields {α : Type} (x : Except Fault α) (P : α → Prop) : Prop := ∃ a, x = .ok a ∧ P a

namespace Yields

variable {α β : Type} {x : Except Fault α} {f : α → Except Fault β} {P R : α → Prop} {Q : β → Prop}

theorem ok {a : α} (h : P a) : Yields (.ok a) P := ⟨a, rfl, h⟩

/-- Requests that are answered one after the other are answered together. -/
theorem bind (hx : Yields x P) (hf : ∀ a, P a → Yields (f a) Q) : Yields (x >>= f) Q := by
  obtain ⟨a, rfl, ha⟩ := hx
  exact hf a ha

theorem mono (hx : Yields x P) (h : ∀ a, P a → R a) : Yields x R := by
  obtain ⟨a, hok, ha⟩ := hx
  exact ⟨a, hok, h a ha⟩

theorem mapM {l : List α} (h : ∀ a ∈ l, Yields (f a) fun _ => True) :
    Yields (l.mapM f) fun _ => True := by
  induction l with
  | nil => exact ok trivial
  | cons a l ih =>
    rw [List.mapM_cons]
    refine (h a (by simp)).bind fun b _ => ?_
    exact (ih fun a ha => h a (by simp [ha])).bind fun bs _ => ok trivial

end Yields

namespace Json

def isString : Json → Bool
  | str _ => true
  | _ => false

/-- A value is an object, and all its members are of some kind. -/
def isTableOf (p : Json → Bool) : Json → Bool
  | obj members => members.all fun m => p m.2
  | _ => false

variable {j : Json} {p : Json → Bool}

theorem exists_str_of_isString (h : j.isString) : ∃ s, j = .str s := by
  cases j <;> simp_all [isString]

theorem exists_obj_of_isTableOf (h : j.isTableOf p) :
    ∃ members, j = .obj members ∧ ∀ m ∈ members, p m.2 := by
  cases j with
  | obj members => exact ⟨members, rfl, List.all_eq_true.1 h⟩
  | _ => simp [isTableOf] at h

theorem yields_entries (h : j.isTableOf p) : Yields j.entries fun t => ∀ m ∈ t, p m.2 := by
  obtain ⟨members, rfl, hmembers⟩ := exists_obj_of_isTableOf h
  exact .ok hmembers

theorem yields_filed? (h : j.isTableOf p) (name : String) :
    Yields (j.filed? name) fun found => ∀ k ∈ found, p k := by
  obtain ⟨members, rfl, hmembers⟩ := exists_obj_of_isTableOf h
  refine .ok ?_
  intro k hk
  exact hmembers _ (Table.mem_of_get? hk)

theorem yields_meaning (h : j.isTableOf p) (value : String) :
    Yields (j.meaning value) fun _ => True := by
  obtain ⟨members, rfl, -⟩ := exists_obj_of_isTableOf h
  exact .ok trivial

end Json

def SubfieldDefinition.isTextual (d : SubfieldDefinition) : Bool :=
  d.name.isString && d.description.isString

/-- Name and description are texts, and the indicators are filed by number and then by value. -/
def TagDefinition.isTextual (d : TagDefinition) : Bool :=
  d.name.isString && d.description.isString &&
    d.indicators.isTableOf (Json.isTableOf Json.isString) &&
    d.subfields.all fun entry => entry.2.isTextual

/-- Name and description are texts, and so are the meanings of the values, if there are any. -/
def Position.isTextual (p : Position) : Bool :=
  p.name.isString && p.description.isString &&
    match p.values with
    | .null => true
    | values => values.isTableOf Json.isString

theorem Position.not_holds_or_isTableOf {p : Position} (h : p.isTextual) :
    p.values.holds = false ∨ p.values.isTableOf Json.isString := by
  rw [isTextual, Bool.and_eq_true] at h
  cases hvalues : p.values with
  | null => exact Or.inl rfl
  | _ => exact Or.inr (by simpa [hvalues] using h.2)

namespace Note

/-- What a note needs: a description that ends it has to be a text, and what it looks up has to be
    a table. A sheet needs a tag for which a page can be told. -/
def CanBeWorded : Note → Prop
  | .tag _ d => d.description.isString
  | .sheet label d _ =>
    d.indicators.isTableOf (Json.isTableOf Json.isString) ∧
      Yields (documentationPage label) fun _ => True
  | .indicator _ _ documented => documented.isTableOf (Json.isTableOf Json.isString)
  | .position _ p _ => p.values.holds = false ∨ p.values.isTableOf Json.isString
  | .subfield .. => True
  | .character .. => True

variable {indicators documented values : Json}

theorem yields_indicatorLines (h : indicators.isTableOf (Json.isTableOf Json.isString)) :
    Yields (indicatorLines indicators) fun _ => True := by
  rw [indicatorLines]
  split
  · exact .ok trivial
  · refine (Json.yields_entries h).bind fun entries hentries => ?_
    refine Yields.bind (Yields.mapM ?_) fun parts _ => .ok trivial
    rintro ⟨number, values⟩ hmem
    exact (Json.yields_entries (hentries _ hmem)).bind fun t _ => .ok trivial

theorem yields_indicatorMeaning (number : IndicatorNumber) (value : String)
    (h : documented.isTableOf (Json.isTableOf Json.isString)) :
    Yields (indicatorMeaning number value documented) fun _ => True := by
  rw [indicatorMeaning]
  split
  · exact .ok trivial
  · refine (Json.yields_filed? h _).bind fun found hfound => ?_
    cases found with
    | none => exact .ok trivial
    | some values =>
      exact (Json.yields_meaning (hfound values rfl) value).bind fun _ _ => .ok trivial

theorem yields_positionValues (value : String)
    (h : values.holds = false ∨ values.isTableOf Json.isString) :
    Yields (positionValues values value) fun _ => True := by
  rw [positionValues]
  split
  · exact .ok trivial
  · next hholds =>
    have htable : values.isTableOf Json.isString := h.resolve_left (by simpa using hholds)
    refine (Json.yields_filed? htable value).bind fun found _ => ?_
    exact (Json.yields_entries htable).bind fun entries _ => .ok trivial

/-- A note that has what it needs is worded. -/
theorem yields_markdown {note : Note} (h : note.CanBeWorded) :
    Yields note.markdown fun _ => True := by
  cases note with
  | tag label d =>
    obtain ⟨s, hs⟩ := Json.exists_str_of_isString h
    rw [markdown, hs]
    exact .ok trivial
  | sheet label d withIndicators =>
    obtain ⟨hindicators, hpage⟩ := h
    cases withIndicators with
    | false => exact hpage.bind fun page _ => .ok trivial
    | true =>
      refine (yields_indicatorLines hindicators).bind fun lines _ => ?_
      exact hpage.bind fun page _ => .ok trivial
  | indicator number value documented =>
    exact (yields_indicatorMeaning number _ h).bind fun _ _ => .ok trivial
  | subfield label s definition =>
    cases definition <;> exact .ok trivial
  | position label p value =>
    exact (yields_positionValues _ h).bind fun _ _ => .ok trivial
  | character label c => exact .ok trivial

end Note

end MarcLens

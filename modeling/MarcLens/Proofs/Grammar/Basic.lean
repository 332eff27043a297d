import MarcLens.Field.Basic

/-!
# Grammars of lines

A grammar says which lines spell a field of a given kind, and which field that is. What is common to
the grammars of both formats follows from one law: a line is read as the field that it spells, and
as nothing else. Both formats try one reader for each kind in turn; where the order of these makes
no difference, that follows from another law: whichever reader succeeds, it gives the result.

## Main definitions

- `ReadsAsSpelled`: reading keeps to a grammar

## Main statements

- `ReadsAsSpelled.kind_iff`: the lines that are read as fields of a kind
- `ReadsAsSpelled.eq_none_iff`: the lines that are refused
- `FieldKind.findSome?_eq_of_perm`: readers whose order makes no difference
-/

namespace MarcLens

/-- Readers of which any that succeeds gives the result can be tried in any order. -/
theorem FieldKind.findSome?_eq_of_perm {read : FieldKind → Option Field} {result : Option Field}
    (hread : ∀ f, result = some f ↔ ∃ kind, read kind = some f) {order : List FieldKind}
    (horder : order.Perm [.leader, .control, .data]) : order.findSome? read = result := by
  have hmem : ∀ kind, kind ∈ order := by
    intro kind
    rw [horder.mem_iff]
    cases kind <;> decide
  cases hfound : order.findSome? read with
  | none =>
    rw [List.findSome?_eq_none_iff] at hfound
    symm
    rw [Option.eq_none_iff_forall_ne_some]
    intro f hf
    obtain ⟨kind, hkind⟩ := (hread f).1 hf
    rw [hfound kind (hmem kind)] at hkind
    cases hkind
  | some f =>
    obtain ⟨kind, -, hkind⟩ := List.exists_of_findSome?_eq_some hfound
    exact ((hread f).2 ⟨kind, hkind⟩).symm

/-- A reading of lines that keeps to a grammar, for lines without line feeds. What a line spells
    does not depend on where it stands, so that its number and its length are added. -/
structure ReadsAsSpelled (read : Text → Int → Option Field) (Spells : FieldKind → Text → Prop)
    (spelled : FieldKind → Text → Field) : Prop where
  kind_spelled : ∀ kind l, (spelled kind l).kind = kind
  eq_some_iff : ∀ {l : Text} {number : Int} {f : Field}, '\n' ∉ l →
    (read l number = some f ↔
      ∃ kind, Spells kind l ∧ f = { spelled kind l with line := number, stop := l.length })

namespace ReadsAsSpelled

variable {read : Text → Int → Option Field} {Spells : FieldKind → Text → Prop}
  {spelled : FieldKind → Text → Field} {l : Text} {number : Int}

/-- The lines that are read as fields of a kind. -/
theorem kind_iff (h : ReadsAsSpelled read Spells spelled) (hnewline : '\n' ∉ l) (kind : FieldKind)
    (f : Field) :
    read l number = some f ∧ f.kind = kind ↔
      Spells kind l ∧ f = { spelled kind l with line := number, stop := l.length } := by
  rw [h.eq_some_iff hnewline]
  constructor
  · rintro ⟨⟨kind', hspells, rfl⟩, hkind⟩
    obtain rfl : kind' = kind := (h.kind_spelled kind' l).symm.trans hkind
    exact ⟨hspells, rfl⟩
  · rintro ⟨hspells, rfl⟩
    exact ⟨⟨kind, hspells, rfl⟩, h.kind_spelled kind l⟩

/-- The lines that are refused. -/
theorem eq_none_iff (h : ReadsAsSpelled read Spells spelled) (hnewline : '\n' ∉ l) :
    read l number = none ↔ ∀ kind, ¬Spells kind l := by
  simp only [Option.eq_none_iff_forall_ne_some, ne_eq, h.eq_some_iff hnewline]
  constructor
  · intro hnone kind hspells
    exact hnone _ ⟨kind, hspells, rfl⟩
  · rintro hnone f ⟨kind, hspells, -⟩
    exact hnone kind hspells

end ReadsAsSpelled

end MarcLens

import MarcLens.Catalogue.Basic

/-!
# Answers of catalogues

Two catalogues answer all requests alike as soon as they define the same tags in the same way and
document the same positions. In what order they hold the tags does not matter.

## Main definitions

- `Catalogue.AnswersAlike`: two catalogues answer all requests alike

## Main statements

- `Catalogue.allTags_congr`: catalogues that define the same tags list them alike
- `Catalogue.AnswersAlike.of_lookups`: what decides that two catalogues answer alike
-/

namespace MarcLens

theorem nodup_eraseDups (names : List String) : names.eraseDups.Nodup := by
  -- Dropping the copies of the first name leaves a list that is no longer than the rest.
  induction hlength : names.length using Nat.strongRecOn generalizing names with
  | ind n ih =>
    cases names with
    | nil => exact List.nodup_nil
    | cons name rest =>
      rw [List.eraseDups_cons, List.nodup_cons]
      have hshorter := List.length_filter_le (fun other => !other == name) rest
      rw [List.length_cons] at hlength
      refine ⟨by simp [List.mem_eraseDups], ih _ ?_ _ rfl⟩
      omega

/-- Names in ascending order, each once, depend only on which names there are. -/
theorem mergeSort_eraseDups_congr {names names' : List String}
    (h : ∀ name, name ∈ names ↔ name ∈ names') :
    names.eraseDups.mergeSort (fun a b => a ≤ b) =
      names'.eraseDups.mergeSort fun a b => a ≤ b := by
  have hperm : names.eraseDups.Perm names'.eraseDups := by
    rw [List.perm_ext_iff_of_nodup (nodup_eraseDups _) (nodup_eraseDups _)]
    intro name
    rw [List.mem_eraseDups, List.mem_eraseDups, h]
  have hsorted : ∀ l : List String, (l.mergeSort fun a b => a ≤ b).Pairwise fun a b => a ≤ b := by
    intro l
    have htrans : ∀ a b c : String, decide (a ≤ b) → decide (b ≤ c) → decide (a ≤ c) := by
      intro a b c hab hbc
      exact decide_eq_true (String.le_trans (of_decide_eq_true hab) (of_decide_eq_true hbc))
    have htotal : ∀ a b : String, decide (a ≤ b) || decide (b ≤ a) := by
      intro a b
      simpa using String.le_total a b
    exact (List.pairwise_mergeSort htrans htotal l).imp of_decide_eq_true
  refine List.Perm.eq_of_pairwise ?_ (hsorted _) (hsorted _) ?_
  · intro a b _ _ hab hba
    exact String.le_antisymm hab hba
  · exact (List.mergeSort_perm _ _).trans (hperm.trans (List.mergeSort_perm _ _).symm)

namespace Catalogue

/-- Two catalogues give the same answers to all requests, whether or not they were loaded in
    full. -/
structure AnswersAlike (c c' : Catalogue) : Prop where
  tag : ∀ tag, c.tag? tag = c'.tag? tag
  subfield : ∀ tag code, c.subfield? tag code = c'.subfield? tag code
  codes : ∀ tag, c.subfieldCodes tag = c'.subfieldCodes tag
  tags : c.allTags = c'.allTags
  fixed : ∀ tag type, c.isFixed tag type = c'.isFixed tag type
  position : ∀ tag character type, c.position? tag character type = c'.position? tag character type

variable {c c' : Catalogue}

theorem isSome_tag?_iff (c : Catalogue) (tag : String) :
    (c.tag? tag).isSome ↔ tag ∈ c.bibliographic.names ++ c.holdings.names := by
  rw [tag?, Option.isSome_or, Bool.or_eq_true, Table.isSome_get?_iff, Table.isSome_get?_iff,
    List.mem_append]

theorem allTags_congr (h : ∀ tag, c.tag? tag = c'.tag? tag) : c.allTags = c'.allTags := by
  refine mergeSort_eraseDups_congr ?_
  intro tag
  rw [← isSome_tag?_iff, ← isSome_tag?_iff, h]

/-- Answers are taken from the definitions of tags and from the positions of fixed fields. -/
theorem AnswersAlike.of_lookups (htag : ∀ tag, c.tag? tag = c'.tag? tag)
    (hfixed : ∀ tag type, c.fixedField? tag type = c'.fixedField? tag type) :
    AnswersAlike c c' where
  tag := htag
  subfield tag code := by rw [subfield?, subfield?, htag]
  codes tag := by rw [subfieldCodes, subfieldCodes, htag]
  tags := allTags_congr htag
  fixed tag type := by
    have hfun : c.fixedField? tag = c'.fixedField? tag := funext (hfixed tag)
    rw [isFixed, isFixed, hfun]
  position tag character type := by rw [position?, position?, hfixed]

end Catalogue

end MarcLens

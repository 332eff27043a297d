import MarcLens.Json.Parser

/-!
# Names of members in values that are read

However a text repeats the name of a member, the object that is read from it has each name once.
This holds for objects at any depth, since the members of a value that was read were read
themselves.

## Main definitions

- `Json.IsRead`: a value that was read from some text

## Main statements

- `Json.IsRead.nodup_names`, `Json.IsRead.of_mem`: an object that was read, and its members
-/

namespace MarcLens.Json

/-- A value that was read from some text. -/
def IsRead (j : Json) : Prop := ∃ fuel depth t rest, value fuel depth t = some (j, rest)

theorem isRead_of_parse? {t : Text} {j : Json} (h : parse? t = some j) : IsRead j := by
  unfold parse? at h
  split at h
  · next j' rest hvalue =>
    obtain ⟨-, h⟩ := Option.ite_none_right_eq_some.1 h
    obtain rfl := Option.some.inj h
    exact ⟨_, _, _, _, hvalue⟩
  · simp at h

theorem scalar?_ne_obj {t rest : Text} {ms : List (String × Json)} :
    scalar? t ≠ some (.obj ms, rest) := by
  have hunsigned : ∀ negative u, unsigned? negative u ≠ some (.obj ms, rest) := by
    intro negative u h
    simp only [unsigned?] at h
    split at h
    · simp at h
    · split at h
      · split at h <;> simp at h
      · simp at h
  intro h
  unfold scalar? at h
  split at h
  · simp at h
  · simp at h
  · simp at h
  · simp at h
  · simp at h
  · simp at h
  · simp at h
  · exact hunsigned _ _ h
  · exact hunsigned _ _ h

/-- Every member of an object is read for itself. -/
theorem exists_read_of_mem_members {read : Text → Option (Json × Text)} {fuel : Nat} {t rest : Text}
    {ms : List (String × Json)} (h : members read fuel t = some (ms, rest)) :
    ∀ m ∈ ms, ∃ u v, read u = some (m.2, v) := by
  fun_induction members read fuel t generalizing ms rest with
  | case1 => cases h
  | case2 => cases h
  | case3 n t name u _ v _ j w hread v' hend =>
    obtain ⟨rfl, rfl⟩ := Prod.mk.inj (Option.some.inj h)
    rintro m hm
    rw [List.mem_singleton.1 hm]
    exact ⟨_, _, hread⟩
  | case4 n t name u _ v _ j w hread v' hcomma ih =>
    obtain ⟨⟨others, w'⟩, hothers, heq⟩ := Option.map_eq_some_iff.1 h
    obtain ⟨rfl, rfl⟩ := Prod.mk.inj heq
    rintro m hm
    rcases List.mem_cons.1 hm with rfl | hm
    · exact ⟨_, _, hread⟩
    · exact ih hothers m hm
  | case5 => cases h
  | case6 => cases h
  | case7 => cases h

/-- An object that was read is filled member by member. -/
theorem exists_members_of_value {fuel depth : Nat} {t rest : Text} {ms : List (String × Json)}
    (h : value fuel depth t = some (.obj ms, rest)) :
    ∃ given, ms = Table.ofList given ∧ ∀ m ∈ given, IsRead m.2 := by
  rw [value.eq_def] at h
  split at h
  · cases h
  · cases h
  · split at h
    · cases h
    · obtain ⟨items, -, heq⟩ := Option.map_eq_some_iff.1 h
      cases heq
  · split at h
    · cases h
      exact ⟨[], rfl, by simp⟩
    · obtain ⟨⟨given, u⟩, hgiven, heq⟩ := Option.map_eq_some_iff.1 h
      cases heq
      refine ⟨given, rfl, ?_⟩
      intro m hm
      obtain ⟨u, v, hread⟩ := exists_read_of_mem_members hgiven m hm
      exact ⟨_, _, u, v, hread⟩
  · exact absurd h scalar?_ne_obj

variable {ms : List (String × Json)}

/-- An object that was read has each name once. -/
theorem IsRead.nodup_names (h : IsRead (.obj ms)) : (Table.names ms).Nodup := by
  obtain ⟨fuel, depth, t, rest, h⟩ := h
  obtain ⟨given, rfl, -⟩ := exists_members_of_value h
  exact Table.nodup_names_ofList given

theorem IsRead.of_mem (h : IsRead (.obj ms)) : ∀ m ∈ ms, IsRead m.2 := by
  obtain ⟨fuel, depth, t, rest, h⟩ := h
  obtain ⟨given, rfl, hgiven⟩ := exists_members_of_value h
  intro m hm
  exact hgiven m (Table.mem_of_mem_ofList hm)

end MarcLens.Json

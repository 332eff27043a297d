import MarcLens.Harvest.Gather

/-!
# What is gathered

Every tag is looked up for itself: what is gathered for it depends neither on the other tags nor on
what became of them.

## Main definitions

- `Harvest.addition?`: what looking up a tag adds to what is gathered

## Main statements

- `Harvest.tags_gather`: the tags that are gathered, in order
- `Harvest.get?_tags_gather_iff`: what is gathered for a tag
-/

namespace MarcLens.Harvest

/-- What a look-up tells about a tag. -/
def Finding.info? : Finding → Option TagInfo
  | .found info => some info
  | _ => none

theorem Finding.info?_eq_some_iff {finding : Finding} {info : TagInfo} :
    finding.info? = some info ↔ finding = .found info := by
  cases finding <;> simp [info?]

/-- What looking up a tag adds to what is gathered. The leader adds nothing. -/
def addition? (lookup : Lookup) (tag : String) : Option (String × TagInfo) :=
  if tag = "LDR" then none else (lookup tag).info?.map fun info => (tag, info)

theorem addition?_eq_some_iff {lookup : Lookup} {tag : String} {entry : String × TagInfo} :
    addition? lookup tag = some entry ↔
      tag ≠ "LDR" ∧ lookup tag = .found entry.2 ∧ tag = entry.1 := by
  obtain ⟨name, info⟩ := entry
  simp only [addition?, Option.ite_none_left_eq_some, Option.map_eq_some_iff,
    Finding.info?_eq_some_iff, Prod.mk.injEq]
  constructor
  · rintro ⟨hleader, _, hfound, rfl, rfl⟩
    exact ⟨hleader, hfound, rfl⟩
  · rintro ⟨hleader, hfound, rfl⟩
    exact ⟨hleader, info, hfound, rfl, rfl⟩

variable {lookup : Lookup} {category : String}

/-- One look-up adds one entry at most. -/
theorem Gathered.tags_visit (g : Gathered) (total : Nat) (entry : String × Nat) :
    (g.visit lookup category total entry).tags =
      (addition? lookup entry.1).toList.foldl (fun t e => t.put e.1 e.2) g.tags := by
  simp only [visit, addition?]
  split
  · rfl
  · cases lookup entry.1 <;> rfl

theorem Gathered.tags_foldl_visit (g : Gathered) (total n : Nat) (tags : List String) :
    ((tags.zipIdx n).foldl (visit lookup category total) g).tags =
      (tags.filterMap (addition? lookup)).foldl (fun t e => t.put e.1 e.2) g.tags := by
  induction tags generalizing g n with
  | nil => rfl
  | cons tag tags ih =>
    rw [List.zipIdx_cons, List.foldl_cons, ih, tags_visit]
    cases h : addition? lookup tag with
    | none => rw [List.filterMap_cons_none h]; rfl
    | some e => rw [List.filterMap_cons_some h]; rfl

/-- The tags that are gathered, in the order in which they were first found. -/
theorem tags_gather (lookup : Lookup) (tags : List String) (category : String) :
    (gather lookup tags category).tags = .ofList (tags.filterMap (addition? lookup)) :=
  Gathered.tags_foldl_visit _ tags.length 0 tags

theorem nodup_names_tags_gather (tags : List String) :
    (gather lookup tags category).tags.names.Nodup := by
  rw [tags_gather]
  exact Table.nodup_names_ofList _

theorem lookup_of_mem_tags_gather {tags : List String} {entry : String × TagInfo}
    (h : entry ∈ (gather lookup tags category).tags) :
    entry.1 ∈ tags ∧ entry.1 ≠ "LDR" ∧ lookup entry.1 = .found entry.2 := by
  rw [tags_gather] at h
  obtain ⟨tag, htag, hentry⟩ := List.mem_filterMap.1 (Table.mem_of_mem_ofList h)
  obtain ⟨hleader, hfound, rfl⟩ := addition?_eq_some_iff.1 hentry
  exact ⟨htag, hleader, hfound⟩

/-- What is gathered for a tag is what looking it up tells. -/
theorem get?_tags_gather_iff {tags : List String} {tag : String} {info : TagInfo} :
    (gather lookup tags category).tags.get? tag = some info ↔
      tag ∈ tags ∧ tag ≠ "LDR" ∧ lookup tag = .found info := by
  constructor
  · intro h
    exact lookup_of_mem_tags_gather (Table.mem_of_get? h)
  · rintro ⟨htag, hleader, hfound⟩
    have hmem : (tag, info) ∈ tags.filterMap (addition? lookup) :=
      List.mem_filterMap.2 ⟨tag, htag, addition?_eq_some_iff.2 ⟨hleader, hfound, rfl⟩⟩
    have hsome : ((gather lookup tags category).tags.get? tag).isSome := by
      rw [tags_gather, Table.isSome_get?_iff]
      exact Table.mem_names_ofList (Table.mem_names_of_mem hmem)
    -- A tag that occurs twice gets the same answer both times.
    obtain ⟨other, hother⟩ := Option.isSome_iff_exists.1 hsome
    have hsame := (lookup_of_mem_tags_gather (Table.mem_of_get? hother)).2.2
    rw [hfound] at hsame
    rw [hother, Finding.found.inj hsame]

end MarcLens.Harvest

import MarcLens.Harvest.Files
import MarcLens.Proofs.Catalogue.Coding
import MarcLens.Proofs.Harvest.Gathering
import MarcLens.Proofs.Json.RoundTrip

/-!
# Loading what was harvested

A catalogue that is loaded from the files of a harvest holds what the source told, provided that it
can be written as JSON and read back.

## Main definitions

- `Harvest.IsWritable`: all that a source tells can be written and read back

## Main statements

- `Harvest.ofDirectory_run`: the catalogue that is loaded from the files of a harvest
- `Harvest.run_loads_back`: its definitions are those of the source
-/

namespace MarcLens

namespace Harvest

open Json (IsTree maxNesting)

/-- All that a source tells can be written as JSON and read back: what it tells about the tags to
    harvest, all fixed fields, and field 008 type by type. In a file each of them stands two levels
    deep. -/
structure IsWritable (lookup : Lookup) (fixed : FixedFields) (byType : Option (Table FixedFields)) :
    Prop where
  tags : ∀ tag ∈ bibliographicTags ++ holdingsTags, ∀ info, lookup tag = .found info →
    IsTree (maxNesting - 2) info.toJson
  fixed : IsTree (maxNesting - 2) (FixedFields.toJson fixed)
  byType : ∀ tables ∈ byType, ∀ types ∈ tables.get? "008",
    IsTree (maxNesting - 2) (FixedFields.toJson types)

/-! ### Files -/

/-- A member of a file is read back if it is a tree. -/
theorem fileMember?_fileText {name : String} {member : Json} (hname : name ≠ "metadata")
    (h : IsTree (maxNesting - 1) member) (generated : String) :
    Catalogue.fileMember? (fileText generated name member) name = some member := by
  have hmetadata : IsTree (maxNesting - 1) (metadata generated) := by
    refine .obj (by simp [Table.names]) ?_
    simp only [List.forall_mem_cons]
    exact ⟨.str _, .str _, .str _, .str _, by simp⟩
  have hfile : IsTree maxNesting (.obj [("metadata", metadata generated), (name, member)]) := by
    refine .obj (by simp [Table.names, hname.symm]) ?_
    simpa using ⟨hmetadata, h⟩
  simp [Catalogue.fileMember?, fileText, Json.parse?_pretty hfile, Json.table?, Table.get?_cons,
    hname]

/-- A table is a tree if it has each name once and its values are trees. -/
theorem isTree_obj_mapValues {α : Type} {n : Nat} {toJson : α → Json} {t : Table α}
    (hnames : t.names.Nodup) (h : ∀ entry ∈ t, IsTree n (toJson entry.2)) :
    IsTree (n + 1) (.obj (t.mapValues toJson)) := by
  refine .obj (by rwa [Table.names_mapValues]) ?_
  intro m hm
  obtain ⟨entry, hentry, rfl⟩ := List.mem_map.1 hm
  exact h entry hentry

theorem tagsOfFile?_tagFile {tags : Table TagInfo} (hnames : tags.names.Nodup)
    (h : ∀ entry ∈ tags, IsTree (maxNesting - 2) entry.2.toJson) (generated : String) :
    Catalogue.tagsOfFile? "tags" (tagFile generated tags) =
      some (tags.mapValues fun info => info.definition.filled) := by
  have hmember : Catalogue.fileMember? (tagFile generated tags) "tags" =
      some (.obj (tags.mapValues TagInfo.toJson)) :=
    fileMember?_fileText (by decide) (isTree_obj_mapValues hnames h) generated
  simp only [Catalogue.tagsOfFile?, hmember, Option.bind_eq_bind, Option.bind_some, entries?,
    Json.table?]
  refine Table.mapValues?_mapValues ?_ tags
  intro info
  exact TagDefinition.ofJson?_toJson info.definition info.repeatable

theorem fileMember?_fixedFile {fields : Table FixedFields} (hnames : fields.names.Nodup)
    (h : ∀ entry ∈ fields, IsTree (maxNesting - 2) (FixedFields.toJson entry.2))
    (generated : String) :
    (Catalogue.fileMember? (fixedFile generated fields) "fields").bind Json.table? =
      some (fields.mapValues FixedFields.toJson) := by
  have hmember : Catalogue.fileMember? (fixedFile generated fields) "fields" =
      some (.obj (fields.mapValues FixedFields.toJson)) :=
    fileMember?_fileText (by decide) (isTree_obj_mapValues hnames h) generated
  rw [hmember]
  rfl

/-- All types are filed, one after the other. -/
theorem addTypes_mapValues_toJson (filed fields : Table FixedFields) :
    Catalogue.addTypes filed (fields.mapValues FixedFields.toJson) =
      ((fields.mapValues FixedFields.filled).foldl (fun t e => t.put e.1 e.2) filed, false) := by
  induction fields generalizing filed with
  | nil => rfl
  | cons entry fields ih =>
    have hread := FixedFields.ofJson?_toJson entry.2
    change Catalogue.addTypes filed ((entry.1, FixedFields.toJson entry.2) :: _) = _
    simp only [Catalogue.addTypes, hread]
    exact ih _

theorem addTypes_nil_mapValues_toJson {fields : Table FixedFields} (hnames : fields.names.Nodup) :
    Catalogue.addTypes [] (fields.mapValues FixedFields.toJson) =
      (fields.mapValues FixedFields.filled, false) := by
  rw [addTypes_mapValues_toJson]
  exact congrArg (·, false) (Table.ofList_of_nodup (by rwa [Table.names_mapValues]))

/-! ### Fixed fields by type -/

theorem isTree_toJson_iff {n : Nat} {fields : FixedFields} :
    IsTree (n + 1) (FixedFields.toJson fields) ↔ fields.names.Nodup ∧
      ∀ entry ∈ fields, IsTree n (.obj (entry.2.mapValues Position.toJson)) := by
  constructor
  · intro h
    cases h with
    | obj hnames hms =>
      rw [Table.names_mapValues] at hnames
      exact ⟨hnames, fun entry hentry => hms (entry.1, _) (List.mem_map_of_mem hentry)⟩
  · rintro ⟨hnames, h⟩
    exact isTree_obj_mapValues hnames h

theorem nodup_names_fieldsByType (fixed : FixedFields) (byType : Option (Table FixedFields)) :
    (fieldsByType fixed byType).1.names.Nodup := by
  unfold fieldsByType
  split
  · simp [Table.names]
  · exact Table.nodup_names_ofList _

theorem IsWritable.isTree_fieldsByType {lookup : Lookup} {fixed : FixedFields}
    {byType : Option (Table FixedFields)} (h : IsWritable lookup fixed byType) :
    ∀ entry ∈ (fieldsByType fixed byType).1,
      IsTree (maxNesting - 2) (FixedFields.toJson entry.2) := by
  have htold : IsTree (maxNesting - 2)
      (FixedFields.toJson ((byType.bind (·.get? "008")).getD [])) := by
    cases htypes : byType.bind (·.get? "008") with
    | none => exact isTree_toJson_iff.2 ⟨List.nodup_nil, by simp⟩
    | some types =>
      obtain ⟨tables, htables, hget⟩ := Option.bind_eq_some_iff.1 htypes
      exact h.byType tables htables types hget
  obtain ⟨hnames, hfixed⟩ := isTree_toJson_iff.1 h.fixed
  unfold fieldsByType
  split
  · simp [h.fixed]
  · -- Every type has its own field 008 in front of all other fields.
    intro entry hentry
    obtain ⟨⟨type, positions⟩, hmem, rfl⟩ := List.mem_map.1 (Table.mem_of_mem_ofList hentry)
    refine isTree_toJson_iff.2 ⟨?_, ?_⟩
    · simp only [Table.names, List.map_cons, List.nodup_cons]
      refine ⟨by simp, ?_⟩
      exact (List.filter_sublist.map Prod.fst).nodup hnames
    · simp only [List.forall_mem_cons, List.mem_filter]
      exact ⟨(isTree_toJson_iff.1 htold).2 _ hmem, fun e he => hfixed e he.1⟩

/-! ### Loading -/

variable {lookup : Lookup} {fixed : FixedFields} {byType : Option (Table FixedFields)}

/-- What is told about tags, as it is loaded. -/
def definitions (lookup : Lookup) (tags : List String) (category : String) : Table TagDefinition :=
  (gather lookup tags category).tags.mapValues fun info => info.definition.filled

theorem get?_definitions_iff {tags : List String} {category tag : String} {d : TagDefinition} :
    (definitions lookup tags category).get? tag = some d ↔
      tag ∈ tags ∧ tag ≠ "LDR" ∧ ∃ info, lookup tag = .found info ∧ d = info.definition.filled := by
  simp only [definitions, Table.get?_mapValues, Option.map_eq_some_iff, get?_tags_gather_iff]
  constructor
  · rintro ⟨info, ⟨htag, hleader, hfound⟩, rfl⟩
    exact ⟨htag, hleader, info, hfound, rfl⟩
  · rintro ⟨htag, hleader, info, hfound, rfl⟩
    exact ⟨info, ⟨htag, hleader, hfound⟩, rfl⟩

theorem IsWritable.tagsOfFile?_gather (h : IsWritable lookup fixed byType) {tags : List String}
    (htags : tags ⊆ bibliographicTags ++ holdingsTags) (category generated : String) :
    Catalogue.tagsOfFile? "tags" (tagFile generated (gather lookup tags category).tags) =
      some (definitions lookup tags category) := by
  refine tagsOfFile?_tagFile (nodup_names_tags_gather tags) ?_ generated
  intro entry hentry
  obtain ⟨htag, -, hfound⟩ := lookup_of_mem_tags_gather hentry
  exact h.tags entry.1 (htags htag) entry.2 hfound

/-- The catalogue that is loaded from the files of a harvest. -/
theorem ofDirectory_run (h : IsWritable lookup fixed byType) (generated home : String) :
    (Catalogue.ofDirectory (run lookup fixed byType generated home).files).1 =
      { bibliographic := definitions lookup bibliographicTags "bibliographic"
        holdings := definitions lookup holdingsTags "holdings"
        fixedFields := (fieldsByType fixed byType).1.mapValues FixedFields.filled
        loaded := true } := by
  have hfields := nodup_names_fieldsByType fixed byType
  have hbibliographic :=
    h.tagsOfFile?_gather (List.subset_append_left _ _) "bibliographic" generated
  have hholdings := h.tagsOfFile?_gather (List.subset_append_right _ _) "holdings" generated
  have hfixed := fileMember?_fixedFile hfields h.isTree_fieldsByType generated
  -- With all files readable no stage fails, and the samples have no file.
  simp [Catalogue.ofDirectory, Catalogue.load, Catalogue.loadStages, Loading.next,
    Catalogue.loadBibliographic, Catalogue.loadHoldings, Catalogue.loadFixedFields,
    Catalogue.loadSamples, run, Table.get?_cons, hbibliographic, hholdings, hfixed,
    addTypes_nil_mapValues_toJson hfields]

/-- The catalogue that is loaded from the files of a harvest is complete. It defines a tag iff the
    tag is one of those to harvest and looking it up succeeded, and it defines it as the source
    does. -/
theorem run_loads_back (h : IsWritable lookup fixed byType) (generated home : String) :
    let loaded := (Catalogue.ofDirectory (run lookup fixed byType generated home).files).1
    loaded.loaded = true ∧ ∀ tag d, loaded.tag? tag = some d ↔
      (tag ∈ bibliographicTags ∨ tag ∈ holdingsTags) ∧
        ∃ info, lookup tag = .found info ∧ d = info.definition.filled := by
  rw [ofDirectory_run h]
  refine ⟨rfl, ?_⟩
  intro tag d
  have hleader : tag ∈ bibliographicTags ∨ tag ∈ holdingsTags → tag ≠ "LDR" := by
    rintro htag rfl
    exact absurd htag (by decide)
  rw [Catalogue.tag?, Option.or_eq_some_iff, get?_definitions_iff, get?_definitions_iff]
  constructor
  · rintro (⟨htag, -, hfound⟩ | ⟨-, htag, -, hfound⟩)
    · exact ⟨Or.inl htag, hfound⟩
    · exact ⟨Or.inr htag, hfound⟩
  · rintro ⟨htag, hfound⟩
    by_cases hbibliographic : tag ∈ bibliographicTags
    · exact Or.inl ⟨hbibliographic, hleader htag, hfound⟩
    · -- No definition for bibliographic records comes before that for holdings.
      refine Or.inr ⟨?_, htag.resolve_left hbibliographic, hleader htag, hfound⟩
      rw [Option.eq_none_iff_forall_ne_some]
      intro other hother
      exact hbibliographic (get?_definitions_iff.1 hother).1

/-! ### A source with a failure -/

def sampleTitle : TagInfo :=
  { definition :=
      { tag := .str "245", name := .str "Title Statement", description := .str "Title of a \"work\""
        indicators := .obj [("1", .obj [("0", .str "No added entry"), ("1", .str "Added entry")])]
        subfields :=
          [("a", { code := .str "a", name := .str "Title", description := .str "Title proper" })] }
    repeatable := .bool false }

def sampleLocation : TagInfo :=
  { definition :=
      { tag := .str "852", name := .str "Location", description := .str "", indicators := .null }
    repeatable := .bool true }

/-- Only two tags are found, and looking up a third one fails. -/
def sampleLookup : Lookup := fun tag =>
  if tag = "245" then .found sampleTitle
  else if tag = "852" then .found sampleLocation
  else if tag = "020" then .failed "timed out"
  else .missing

def sampleFields : FixedFields :=
  [("008", [("date", { start := .int 0, stop := .int 5, name := .str "Date"
                       description := .str "Date entered on file" })])]

theorem isWritable_sample : IsWritable sampleLookup sampleFields none := by
  refine ⟨?_, ?_, by simp⟩
  · intro tag _ info hfound
    unfold sampleLookup at hfound
    split at hfound
    · obtain rfl := Finding.found.inj hfound
      exact Json.isTree_of_isPlainTree (by decide)
    · split at hfound
      · obtain rfl := Finding.found.inj hfound
        exact Json.isTree_of_isPlainTree (by decide)
      · split at hfound <;> cases hfound
  · exact Json.isTree_of_isPlainTree (by decide)

theorem run_loads_back_sample :
    IsWritable sampleLookup sampleFields none ∧
      let loaded := (Catalogue.ofDirectory (run sampleLookup sampleFields none "T" "/srv").files).1
      loaded.loaded = true ∧ loaded.tag? "245" = some sampleTitle.definition ∧
        loaded.tag? "852" = some { sampleLocation.definition with indicators := .obj [] } ∧
        loaded.tag? "020" = none := by
  obtain ⟨hloaded, htag⟩ := run_loads_back isWritable_sample "T" "/srv"
  refine ⟨isWritable_sample, hloaded, ?_, ?_, ?_⟩
  · exact (htag _ _).2 ⟨by decide, sampleTitle, rfl, rfl⟩
  · exact (htag _ _).2 ⟨by decide, sampleLocation, rfl, rfl⟩
  · rw [Option.eq_none_iff_forall_ne_some]
    intro d hd
    obtain ⟨-, info, hfound, -⟩ := (htag _ _).1 hd
    cases hfound

end Harvest

end MarcLens

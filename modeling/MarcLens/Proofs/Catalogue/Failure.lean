import MarcLens.Proofs.Catalogue.Answers
import MarcLens.Proofs.Catalogue.Stages

/-!
# Failures to load

Loading ends early iff it comes to a file that cannot be loaded, and then a failure is logged. The
stages before that file have been done as a whole and those behind it not at all. Only the fixed
fields are left in part: the types in front of the first one that cannot be read.

## Main definitions

- `DataFile.IsConsulted`: loading comes to a file
- `DataFile.removeFrom`: a directory without a file and those loaded after it

## Main statements

- `Catalogue.ofDirectory_fails_in_stages`: when loading fails, and what it then leaves
-/

namespace MarcLens

namespace DataFile

/-- The files in the order in which they are loaded. -/
def order : List DataFile := [bibliographic, holdings, fixedFields, samples]

/-- The files that are loaded before a file. -/
def before (file : DataFile) : List DataFile := order.takeWhile (· ≠ file)

/-- A directory without a file and without those that are loaded after it. -/
def removeFrom (file : DataFile) (d : Directory) : Directory :=
  (order.dropWhile (· ≠ file)).foldl (fun d f => d.erase f.name) d

/-- Loading comes to a file: the file is there, none before it has ended the loading, and if it
    holds the samples, no tags have been loaded. -/
structure IsConsulted (file : DataFile) (d : Directory) : Prop where
  isThere : (d.get? file.name).isSome
  before : ∀ earlier ∈ file.before, ¬earlier.fails d
  noTags : file = .samples → bibliographic.entries d "tags" = [] ∧ holdings.entries d "tags" = []

variable {file : DataFile} {d : Directory}

theorem isThere_of_fails (h : file.fails d) : (d.get? file.name).isSome := by
  obtain ⟨text, hget, -⟩ := (Option.any_eq_true _ _).1 h
  rw [hget]
  rfl

theorem get?_removeFrom (file other : DataFile) (d : Directory) :
    (file.removeFrom d).get? other.name =
      if other ∈ file.before then d.get? other.name else none := by
  cases file <;> cases other <;> simp [removeFrom, before, order, name, Table.get?_erase]

theorem entries_eq_nil_iff {tags : Table TagDefinition} (h : file.tags? d [] = some tags) :
    file.entries d "tags" = [] ↔ tags = [] := by
  have hnames := Table.names_of_mapValues? (mapValues?_entries_of_tags? h)
  rw [← List.map_eq_nil_iff (f := Prod.fst), ← List.map_eq_nil_iff (f := Prod.fst) (l := tags)]
  change (file.entries d "tags").names = [] ↔ tags.names = []
  rw [hnames]

/-- Fixed fields that cannot be loaded have no types at all or one that cannot be read. -/
theorem entries_of_fixedFields_fails (h : fixedFields.fails d) :
    fixedFields.entries d "fields" = [] ∨
      (Catalogue.addTypes [] (fixedFields.entries d "fields")).2 := by
  obtain ⟨text, hget, hfits⟩ := (Option.any_eq_true _ _).1 h
  rw [entries_of_get? hget, Catalogue.failed_addTypes]
  rw [Catalogue.fits_fixedFields] at hfits
  cases htypes : (Catalogue.fileMember? text "fields").bind Json.table? with
  | none => exact Or.inl rfl
  | some types =>
    rw [htypes, Option.any_some] at hfits
    exact Or.inr hfits

end DataFile

namespace Catalogue

variable {c c' : Catalogue} {d e : Directory} {failed failed' : Bool}

/-! ### Tags that cannot be loaded -/

theorem ofDirectory_of_leaves (h : (loadStages d {}).Leaves c failed) :
    (ofDirectory d).1 = { c with loaded := c.loaded || !failed } := (load_of_leaves rfl h).1

theorem answersAlike_of_leaves (h : (loadStages d {}).Leaves c failed)
    (h' : (loadStages e {}).Leaves c failed') :
    AnswersAlike (ofDirectory d).1 (ofDirectory e).1 := by
  rw [ofDirectory_of_leaves h, ofDirectory_of_leaves h']
  exact .of_lookups (fun _ => rfl) fun _ _ => rfl

/-- With no other file, loading leaves the bibliographic tags alone. -/
theorem leaves_loadStages_of_bibliographic_alone {tags : Table TagDefinition}
    (hb : DataFile.bibliographic.tags? d [] = some tags)
    (h : ∀ file : DataFile, file ≠ .bibliographic → d.get? file.name = none) :
    (loadStages d {}).Leaves { bibliographic := tags } false := by
  have hholdings : DataFile.holdings.tags? d [] = some [] := by
    rw [DataFile.tags?, h .holdings (by decide)]
  have hfixed : ¬DataFile.fixedFields.fails d := by
    simp [DataFile.fails, h .fixedFields (by decide)]
  have hfiles : withFiles {} d tags [] = { bibliographic := tags } := by
    rw [withFiles, DataFile.entries_of_get?_eq_none (h .fixedFields (by decide))]
    rfl
  refine leaves_loadStages hb hholdings hfixed ?_
  rw [hfiles]
  exact leaves_loadSamples_of_missing (h .samples (by decide)) _

/-- When tags cannot be loaded, it is as if their file and the later ones were not there. -/
theorem answersAlike_removeFrom {file : DataFile}
    (hfile : file = .bibliographic ∨ file = .holdings) (h : file.fails d) :
    AnswersAlike (ofDirectory d).1 (ofDirectory (file.removeFrom d)).1 := by
  -- The bibliographic file is the only one that can be left, and only if the holdings fail.
  have hrest : ∀ other : DataFile, other ≠ .bibliographic →
      (file.removeFrom d).get? other.name = none := by
    intro other hother
    rw [DataFile.get?_removeFrom, if_neg]
    rcases hfile with rfl | rfl <;> cases other <;> simp_all [DataFile.before, DataFile.order]
  rcases hfile with rfl | rfl
  · have htags :
        DataFile.bibliographic.tags? (DataFile.bibliographic.removeFrom d) [] = some [] := by
      rw [DataFile.tags?, DataFile.get?_removeFrom]
      rfl
    exact answersAlike_of_leaves (leaves_loadStages_of_bibliographic_fails h {})
      (leaves_loadStages_of_bibliographic_alone htags hrest)
  · have hget : (DataFile.holdings.removeFrom d).get? DataFile.bibliographic.name =
        d.get? DataFile.bibliographic.name := by
      rw [DataFile.get?_removeFrom]
      rfl
    -- If it fails as well, loading does not get as far as the holdings in either directory.
    by_cases hb : DataFile.bibliographic.fails d
    · have hb' : DataFile.bibliographic.fails (DataFile.holdings.removeFrom d) := by
        rw [DataFile.fails, hget]
        exact hb
      exact answersAlike_of_leaves (leaves_loadStages_of_bibliographic_fails hb {})
        (leaves_loadStages_of_bibliographic_fails hb' {})
    · obtain ⟨tags, htags⟩ := DataFile.exists_tags? (Or.inl rfl) hb []
      have htags' :
          DataFile.bibliographic.tags? (DataFile.holdings.removeFrom d) [] = some tags := by
        rw [DataFile.tags?, hget]
        exact htags
      exact answersAlike_of_leaves (leaves_loadStages_of_holdings_fails htags h)
        (leaves_loadStages_of_bibliographic_alone htags' hrest)

/-! ### What ends the loading -/

/-- The first file that ends the loading from scratch is consulted. -/
theorem exists_isConsulted_of_isStopped (h : IsStopped d {}) :
    ∃ file : DataFile, file.IsConsulted d ∧ file.fails d := by
  by_cases hb : DataFile.bibliographic.fails d
  · refine ⟨.bibliographic, ⟨DataFile.isThere_of_fails hb, ?_, by simp⟩, hb⟩
    simp [DataFile.before, DataFile.order]
  by_cases hh : DataFile.holdings.fails d
  · refine ⟨.holdings, ⟨DataFile.isThere_of_fails hh, ?_, by simp⟩, hh⟩
    simp [DataFile.before, DataFile.order, hb]
  by_cases hf : DataFile.fixedFields.fails d
  · refine ⟨.fixedFields, ⟨DataFile.isThere_of_fails hf, ?_, by simp⟩, hf⟩
    simp [DataFile.before, DataFile.order, hb, hh]
  obtain hb' | hh' | hf' | ⟨hs, hbibliographic, hholdings⟩ := h
  · contradiction
  · contradiction
  · contradiction
  · refine ⟨.samples, ⟨DataFile.isThere_of_fails hs, ?_, fun _ => ?_⟩, hs⟩
    · simp [DataFile.before, DataFile.order, hb, hh, hf]
    · exact ⟨(DataFile.entries_eq_nil_iff hbibliographic).2 rfl,
        (DataFile.entries_eq_nil_iff hholdings).2 rfl⟩

/-- A directory that is loaded in full has no file that is consulted and cannot be loaded. -/
theorem LoadsInFull.not_fails {bibliographic holdings tags : Table TagDefinition}
    {fields : FixedFields} (h : LoadsInFull d {} bibliographic holdings tags fields)
    {file : DataFile} (hfile : file.IsConsulted d) : ¬file.fails d := by
  cases file with
  | bibliographic => exact DataFile.not_fails_of_tags? (Or.inl rfl) h.tags_bibliographic
  | holdings => exact DataFile.not_fails_of_tags? (Or.inr rfl) h.tags_holdings
  | fixedFields => exact h.not_fails_fixedFields
  | samples =>
    have hempty := hfile.noTags rfl
    rw [DataFile.entries_eq_nil_iff h.tags_bibliographic,
      DataFile.entries_eq_nil_iff h.tags_holdings] at hempty
    cases h.sampled with
    | skipped htags => exact absurd hempty (not_and_or.2 htags)
    | missing _ _ hget => simp [DataFile.fails, hget]
    | taken _ _ _ hfits => exact hfits

theorem loaded_ofDirectory_eq_false_iff (d : Directory) :
    (ofDirectory d).1.loaded = false ↔ ∃ file : DataFile, file.IsConsulted d ∧ file.fails d := by
  rcases load_cases (c := {}) d rfl with hfails | ⟨_, _, _, _, hloads⟩
  · exact iff_of_true hfails.loaded (exists_isConsulted_of_isStopped hfails.isStopped)
  · refine iff_of_false (ne_false_of_eq_true hloads.loaded) ?_
    rintro ⟨file, hconsulted, hfails⟩
    exact hloads.not_fails hconsulted hfails

/-- A failure to load is logged, and only that. -/
theorem loaded_ofDirectory_eq_false_iff_log (d : Directory) :
    (ofDirectory d).1.loaded = false ↔
      LogEntry.error "Failed to load static MARC data" ∈ (ofDirectory d).2 := by
  rcases load_cases (c := {}) d rfl with hfails | ⟨_, _, _, _, hloads⟩
  · exact iff_of_true hfails.loaded hfails.log
  · exact iff_of_false (ne_false_of_eq_true hloads.loaded) hloads.log

/-! ### Fixed fields and samples that cannot be loaded -/

theorem tables_of_fixedFields_fails (hconsulted : DataFile.fixedFields.IsConsulted d)
    (h : DataFile.fixedFields.fails d) :
    (DataFile.bibliographic.entries d "tags").mapValues? TagDefinition.ofJson? =
        some (ofDirectory d).1.bibliographic ∧
      (DataFile.holdings.entries d "tags").mapValues? TagDefinition.ofJson? =
        some (ofDirectory d).1.holdings ∧
      (ofDirectory d).1.fixedFields =
        (addTypes [] (DataFile.fixedFields.entries d "fields")).1 := by
  have hb : ¬DataFile.bibliographic.fails d := hconsulted.before _ (by decide)
  have hh : ¬DataFile.holdings.fails d := hconsulted.before _ (by decide)
  obtain ⟨bibliographic, hbibliographic⟩ := DataFile.exists_tags? (Or.inl rfl) hb []
  obtain ⟨holdings, hholdings⟩ := DataFile.exists_tags? (Or.inr rfl) hh []
  rw [ofDirectory_of_leaves (leaves_loadStages_of_fixedFields_fails hbibliographic hholdings h)]
  exact ⟨DataFile.mapValues?_entries_of_tags? hbibliographic,
    DataFile.mapValues?_entries_of_tags? hholdings, rfl⟩

theorem bibliographic_of_samples_fails (hconsulted : DataFile.samples.IsConsulted d)
    (h : DataFile.samples.fails d) :
    (ofDirectory d).1.bibliographic = [] ∨
      (DataFile.samples.entries d "marc_tags").mapValues? TagDefinition.ofJson? =
        some (ofDirectory d).1.bibliographic := by
  have hb : ¬DataFile.bibliographic.fails d := hconsulted.before _ (by decide)
  have hh : ¬DataFile.holdings.fails d := hconsulted.before _ (by decide)
  have hf : ¬DataFile.fixedFields.fails d := hconsulted.before _ (by decide)
  obtain ⟨bibliographic, hbibliographic⟩ := DataFile.exists_tags? (Or.inl rfl) hb []
  obtain ⟨holdings, hholdings⟩ := DataFile.exists_tags? (Or.inr rfl) hh []
  obtain rfl := (DataFile.entries_eq_nil_iff hbibliographic).1 (hconsulted.noTags rfl).1
  obtain rfl := (DataFile.entries_eq_nil_iff hholdings).1 (hconsulted.noTags rfl).2
  obtain ⟨tags, htags, hleaves⟩ := leaves_loadSamples_of_fails (c := withFiles {} d [] []) rfl rfl h
  rw [ofDirectory_of_leaves (leaves_loadStages hbibliographic hholdings hf hleaves)]
  exact htags

/-- Loading fails iff a file that is consulted cannot be loaded, and then only logs it. Tags that
    cannot be loaded are as good as not there, with all later files. Fixed fields that cannot be
    loaded leave all tags, and the types in front of the first that cannot be read. Samples that
    cannot be loaded leave no tags or all of theirs. -/
theorem ofDirectory_fails_in_stages (d : Directory) :
    ((ofDirectory d).1.loaded = false ↔ ∃ file : DataFile, file.IsConsulted d ∧ file.fails d) ∧
    ((ofDirectory d).1.loaded = false ↔
      LogEntry.error "Failed to load static MARC data" ∈ (ofDirectory d).2) ∧
    (∀ file : DataFile, file = .bibliographic ∨ file = .holdings → file.fails d →
      AnswersAlike (ofDirectory d).1 (ofDirectory (file.removeFrom d)).1) ∧
    (DataFile.fixedFields.IsConsulted d → DataFile.fixedFields.fails d →
      (DataFile.bibliographic.entries d "tags").mapValues? TagDefinition.ofJson? =
          some (ofDirectory d).1.bibliographic ∧
        (DataFile.holdings.entries d "tags").mapValues? TagDefinition.ofJson? =
          some (ofDirectory d).1.holdings ∧
        (DataFile.fixedFields.entries d "fields" = [] ∧ (ofDirectory d).1.fixedFields = [] ∨
          ∃ (before : Table Json) (key : String) (j : Json) (after : Table Json),
            DataFile.fixedFields.entries d "fields" = before ++ (key, j) :: after ∧
              ¬FixedFields.isShaped j ∧
              before.mapValues? FixedFields.ofJson? = some (ofDirectory d).1.fixedFields)) ∧
    (DataFile.samples.IsConsulted d → DataFile.samples.fails d →
      (ofDirectory d).1.bibliographic = [] ∨
        (DataFile.samples.entries d "marc_tags").mapValues? TagDefinition.ofJson? =
          some (ofDirectory d).1.bibliographic) := by
  refine ⟨loaded_ofDirectory_eq_false_iff d, loaded_ofDirectory_eq_false_iff_log d,
    fun _ => answersAlike_removeFrom, ?_, bibliographic_of_samples_fails⟩
  intro hconsulted hfails
  obtain ⟨hb, hh, hf⟩ := tables_of_fixedFields_fails hconsulted hfails
  refine ⟨hb, hh, ?_⟩
  rw [hf]
  rcases DataFile.entries_of_fixedFields_fails hfails with hnil | hfailed
  · left
    rw [hnil]
    exact ⟨rfl, rfl⟩
  · right
    exact exists_append_of_failed_addTypes (DataFile.nodup_names_entries _ _ _) hfailed

/-- A directory in which the second of three types of record cannot be read. -/
def sampleTypes : Directory :=
  [("marc_bibliographic.json", "\x7b\x7d"),
   ("marc_fixed_fields.json",
     "\x7b\"fields\": \x7b\"BIB\": \x7b\x7d, \"HOLD\": 1, \"AUTH\": \x7b\x7d\x7d\x7d")]

theorem ofDirectory_fails_in_stages_types :
    DataFile.fixedFields.IsConsulted sampleTypes ∧ DataFile.fixedFields.fails sampleTypes ∧
      (ofDirectory sampleTypes).1.loaded = false ∧
      ∃ (before : Table Json) (key : String) (j : Json) (after : Table Json),
        DataFile.fixedFields.entries sampleTypes "fields" = before ++ (key, j) :: after ∧
          ¬FixedFields.isShaped j ∧
          before.mapValues? FixedFields.ofJson? = some (ofDirectory sampleTypes).1.fixedFields := by
  have hconsulted : DataFile.fixedFields.IsConsulted sampleTypes :=
    ⟨by decide, by decide +kernel, by simp⟩
  have hfails : DataFile.fixedFields.fails sampleTypes := by decide +kernel
  have hentries : (DataFile.fixedFields.entries sampleTypes "fields").isEmpty = false := by
    decide +kernel
  obtain ⟨hloaded, -, -, hfixed, -⟩ := ofDirectory_fails_in_stages sampleTypes
  refine ⟨hconsulted, hfails, hloaded.2 ⟨_, hconsulted, hfails⟩, ?_⟩
  rcases (hfixed hconsulted hfails).2.2 with ⟨hnil, -⟩ | hbefore
  · rw [hnil] at hentries
    cases hentries
  · exact hbefore

end Catalogue

end MarcLens

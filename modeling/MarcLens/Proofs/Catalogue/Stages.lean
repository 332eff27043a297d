import MarcLens.Proofs.Catalogue.Fit

/-!
# Loading stage by stage

Every stage of loading either takes over what its file holds or ends the loading. Tags are taken
over as a whole, and fixed fields type by type, so that a file that cannot be loaded leaves no part
of a table of tags behind, and of the fixed fields the types in front of the first one that cannot
be read.

## Main definitions

- `DataFile.tags?`: the tags after a stage of loading
- `Loading.Leaves`: the catalogue that a stage leaves, and whether loading has to end there
- `Catalogue.IsStopped`: a file ends the loading
- `Catalogue.Sampled`: what the samples make of the tags that the other files bring

## Main statements

- `Catalogue.exists_append_of_failed_addTypes`: which types are filed when not all can be read
- `Catalogue.load_cases`: what loading can make of a catalogue
-/

namespace MarcLens

namespace DataFile

variable {file : DataFile} {d : Directory} {text member : String}

/-! ### Tags -/

/-- Tags are read as a whole. -/
theorem tagsOfFile?_eq (member text : String) :
    Catalogue.tagsOfFile? member text =
      ((Catalogue.fileMember? text member).bind Json.table?).bind
        (·.mapValues? TagDefinition.ofJson?) := by
  rw [Catalogue.tagsOfFile?, Option.bind_assoc]
  rfl

theorem isSome_tagsOfFile? (member text : String) :
    (Catalogue.tagsOfFile? member text).isSome =
      (Catalogue.fileMember? text member).any (·.isTableOf TagDefinition.isShaped) := by
  rw [tagsOfFile?_eq]
  cases Catalogue.fileMember? text member with
  | none => rfl
  | some j => exact Json.isSome_mapValues?_table? TagDefinition.isSome_ofJson? j

/-- The tags of a file are its entries, read one by one. -/
theorem mapValues?_entries_of_tagsOfFile? {tags : Table TagDefinition}
    (hget : d.get? file.name = some text) (h : Catalogue.tagsOfFile? member text = some tags) :
    (file.entries d member).mapValues? TagDefinition.ofJson? = some tags := by
  rw [tagsOfFile?_eq] at h
  obtain ⟨table, htable, h⟩ := Option.bind_eq_some_iff.1 h
  rw [entries_of_get? hget, htable]
  exact h

/-- The tags after a stage of loading, where there were some before: those of the file, or the old
    ones if there is no file. There are none at all if the file cannot be loaded. -/
def tags? (file : DataFile) (d : Directory) (old : Table TagDefinition) :
    Option (Table TagDefinition) :=
  match d.get? file.name with
  | none => some old
  | some text => Catalogue.tagsOfFile? "tags" text

theorem isNone_tags? (hfile : file = .bibliographic ∨ file = .holdings)
    (old : Table TagDefinition) : (file.tags? d old).isNone = file.fails d := by
  have hfits : ∀ text, file.fits text = (Catalogue.tagsOfFile? "tags" text).isSome := by
    intro text
    rw [fits_eq, isSome_tagsOfFile?]
    rcases hfile with rfl | rfl <;> exact Bool.and_true _
  rw [tags?, fails]
  cases d.get? file.name with
  | none => rfl
  | some text => rw [Option.any_some, hfits, Option.not_isSome]

theorem exists_tags? (hfile : file = .bibliographic ∨ file = .holdings) (h : ¬file.fails d)
    (old : Table TagDefinition) : ∃ tags, file.tags? d old = some tags := by
  rw [← isNone_tags? hfile old, Option.isNone_iff_eq_none] at h
  exact Option.ne_none_iff_exists'.1 h

theorem not_fails_of_tags? (hfile : file = .bibliographic ∨ file = .holdings)
    {old tags : Table TagDefinition} (h : file.tags? d old = some tags) : ¬file.fails d := by
  rw [← isNone_tags? hfile old, h]
  exact Bool.false_ne_true

theorem mapValues?_entries_of_tags? {tags : Table TagDefinition} (h : file.tags? d [] = some tags) :
    (file.entries d "tags").mapValues? TagDefinition.ofJson? = some tags := by
  unfold tags? at h
  split at h
  · next hget =>
    rw [entries_of_get?_eq_none hget]
    exact h
  · next text hget => exact mapValues?_entries_of_tagsOfFile? hget h

/-! ### Fixed fields -/

end DataFile

namespace Catalogue

variable {d : Directory} {c : Catalogue}

theorem failed_addTypes (filed : Table FixedFields) (types : Table Json) :
    (addTypes filed types).2 = !types.all fun entry => FixedFields.isShaped entry.2 := by
  induction types generalizing filed with
  | nil => rfl
  | cons entry rest ih =>
    obtain ⟨key, j⟩ := entry
    rw [addTypes, List.all_cons, ← FixedFields.isSome_ofJson?]
    cases FixedFields.ofJson? j with
    | none => rfl
    | some fields => exact ih _

/-- Types that can be read are filed one after the other. -/
theorem addTypes_append {before : Table Json} {fields : Table FixedFields}
    (h : before.mapValues? FixedFields.ofJson? = some fields) (filed : Table FixedFields)
    (rest : Table Json) :
    addTypes filed (before ++ rest) =
      addTypes (fields.foldl (fun t e => t.put e.1 e.2) filed) rest := by
  induction before generalizing filed fields with
  | nil =>
    obtain rfl := Option.some.inj h
    rfl
  | cons entry before ih =>
    obtain ⟨key, j⟩ := entry
    rw [Table.mapValues?_cons] at h
    obtain ⟨v, hv, h⟩ := Option.bind_eq_some_iff.1 h
    obtain ⟨w, hw, rfl⟩ := Option.map_eq_some_iff.1 h
    rw [List.cons_append, addTypes, hv]
    exact ih hw _

/-- What is filed of types that cannot all be read are those in front of the first that cannot. -/
theorem exists_append_of_failed_addTypes {types : Table Json} (hnames : types.names.Nodup)
    (h : (addTypes [] types).2) :
    ∃ (before : Table Json) (key : String) (j : Json) (after : Table Json),
      types = before ++ (key, j) :: after ∧ ¬FixedFields.isShaped j ∧
        before.mapValues? FixedFields.ofJson? = some (addTypes [] types).1 := by
  -- The first entry that cannot be read splits the types.
  rw [failed_addTypes, List.not_all_eq_any_not, List.any_eq_true, ← List.find?_isSome] at h
  obtain ⟨⟨key, j⟩, hfind⟩ := Option.isSome_iff_exists.1 h
  obtain ⟨hj, before, after, rfl, hbefore⟩ := List.find?_eq_some_iff_append.1 hfind
  have hall : before.all fun entry => (FixedFields.ofJson? entry.2).isSome := by
    simpa [FixedFields.isSome_ofJson?] using hbefore
  rw [← Table.isSome_mapValues?] at hall
  obtain ⟨fields, hfields⟩ := Option.isSome_iff_exists.1 hall
  have hunread : FixedFields.ofJson? j = none := by
    rw [← Option.not_isSome_iff_eq_none, FixedFields.isSome_ofJson?]
    simpa using hj
  have hfiled : addTypes [] (before ++ (key, j) :: after) = (fields, true) := by
    have hnodup : (Table.names fields).Nodup := by
      rw [Table.names_of_mapValues? hfields]
      exact ((List.sublist_append_left before _).map Prod.fst).nodup hnames
    rw [addTypes_append hfields, addTypes, hunread]
    exact congrArg (·, true) (Table.ofList_of_nodup hnodup)
  refine ⟨before, key, j, after, rfl, by simpa using hj, ?_⟩
  rw [hfiled]
  exact hfields

/-! ### Stages -/

end Catalogue

/-- A stage leaves a catalogue, and loading has to end there or not. Up to then nothing is logged
    that would be wrong. -/
structure Loading.Leaves (l : Loading) (c : Catalogue) (failed : Bool) : Prop where
  catalogue : l.catalogue = c
  failed : l.failed = failed
  log : ∀ entry ∈ l.log, entry.level = .info

namespace Loading.Leaves

variable {l : Loading} {c c' : Catalogue} {failed : Bool} {stage : Catalogue → Loading}

/-- A stage that logs nothing. -/
theorem silent (c : Catalogue) (failed : Bool) :
    Leaves { catalogue := c, failed := failed } c failed := ⟨rfl, rfl, List.forall_mem_nil _⟩

theorem next (h : l.Leaves c false) (hstage : (stage c).Leaves c' failed) :
    (l.next stage).Leaves c' failed := by
  obtain ⟨rfl, hfailed, hlog⟩ := h
  rw [Loading.next, hfailed]
  refine ⟨hstage.catalogue, hstage.failed, ?_⟩
  intro entry hentry
  rcases List.mem_append.1 hentry with hentry | hentry
  · exact hlog entry hentry
  · exact hstage.log entry hentry

theorem next_of_failed (h : l.Leaves c true) (stage : Catalogue → Loading) :
    (l.next stage).Leaves c true := by
  rw [Loading.next, h.failed]
  exact h

end Loading.Leaves

namespace Catalogue

variable {d : Directory} {c : Catalogue} {tags : Table TagDefinition} {text : String}

/-- A stage that loads tags: `put` is the catalogue with other tags, and `label` what the log calls
    them. -/
def loadTags (file : DataFile) (label : String) (put : Table TagDefinition → Catalogue)
    (d : Directory) (c : Catalogue) : Loading :=
  match d.get? file.name with
  | none => { catalogue := c }
  | some text =>
    match tagsOfFile? "tags" text with
    | none => { catalogue := c, failed := true }
    | some tags =>
      { catalogue := put tags, log := [.info ("Loaded " ++ tags.length.repr ++ label)] }

theorem loadBibliographic_eq_loadTags (d : Directory) (c : Catalogue) :
    loadBibliographic d c = loadTags .bibliographic " bibliographic tags"
      (fun tags => { c with bibliographic := tags }) d c := rfl

theorem loadHoldings_eq_loadTags (d : Directory) (c : Catalogue) :
    loadHoldings d c = loadTags .holdings " holdings tags"
      (fun tags => { c with holdings := tags }) d c := rfl

section Tags

variable {file : DataFile} {label : String} {put : Table TagDefinition → Catalogue}

theorem leaves_loadTags_of_fails (hfile : file = .bibliographic ∨ file = .holdings)
    (h : file.fails d) (c : Catalogue) : (loadTags file label put d c).Leaves c true := by
  rw [← DataFile.isNone_tags? hfile [], DataFile.tags?] at h
  rw [loadTags]
  cases hget : d.get? file.name with
  | none => simp [hget] at h
  | some text =>
    rw [hget] at h
    dsimp only at h ⊢
    rw [Option.isNone_iff_eq_none.1 h]
    exact .silent c true

theorem leaves_loadTags {old : Table TagDefinition} (h : file.tags? d old = some tags) :
    (loadTags file label put d (put old)).Leaves (put tags) false := by
  rw [DataFile.tags?] at h
  rw [loadTags]
  cases hget : d.get? file.name with
  | none =>
    rw [hget] at h
    obtain rfl := Option.some.inj h
    exact .silent (put old) false
  | some text =>
    rw [hget] at h
    dsimp only at h ⊢
    rw [h]
    exact ⟨rfl, rfl, by simp [LogEntry.info]⟩

end Tags

theorem leaves_loadBibliographic
    (h : DataFile.bibliographic.tags? d c.bibliographic = some tags) :
    (loadBibliographic d c).Leaves { c with bibliographic := tags } false := by
  rw [loadBibliographic_eq_loadTags]
  exact leaves_loadTags h

theorem leaves_loadHoldings (h : DataFile.holdings.tags? d c.holdings = some tags) :
    (loadHoldings d c).Leaves { c with holdings := tags } false := by
  rw [loadHoldings_eq_loadTags]
  exact leaves_loadTags h

theorem fits_fixedFields (text : String) :
    DataFile.fixedFields.fits text = ((fileMember? text "fields").bind Json.table?).any
      fun types => types.all fun entry => FixedFields.isShaped entry.2 := by
  rw [DataFile.fits_eq]
  simp only [DataFile.members, List.all_cons, List.all_nil, Bool.and_true]
  cases fileMember? text "fields" with
  | none => rfl
  | some j => cases j <;> rfl

/-- Whether or not the file can be loaded, its types are filed up to the first one that cannot be
    read. -/
theorem leaves_loadFixedFields (d : Directory) (c : Catalogue) :
    (loadFixedFields d c).Leaves
      { c with
        fixedFields := (addTypes c.fixedFields (DataFile.fixedFields.entries d "fields")).1 }
      (DataFile.fixedFields.fails d) := by
  rw [loadFixedFields, DataFile.fails]
  cases hget : d.get? DataFile.fixedFields.name with
  | none =>
    rw [DataFile.entries_of_get?_eq_none hget]
    change d.get? "marc_fixed_fields.json" = none at hget
    rw [hget]
    exact .silent c false
  | some text =>
    rw [DataFile.entries_of_get? hget, Option.any_some, fits_fixedFields]
    change d.get? "marc_fixed_fields.json" = some text at hget
    rw [hget]
    cases htypes : (fileMember? text "fields").bind Json.table? with
    | none =>
      dsimp only
      rw [htypes]
      exact .silent c true
    | some types =>
      dsimp only
      rw [htypes]
      refine ⟨rfl, failed_addTypes _ _, ?_⟩
      change ∀ entry ∈ if (addTypes c.fixedFields types).2 then [] else _, _
      split <;> simp [LogEntry.info]

/-! ### Samples -/

theorem leaves_loadSamples_of_tags (h : c.bibliographic ≠ [] ∨ c.holdings ≠ []) :
    (loadSamples d c).Leaves c false := by
  rw [loadSamples, if_pos (by simpa using h)]
  exact .silent c false

theorem leaves_loadSamples_of_missing (h : d.get? DataFile.samples.name = none) (c : Catalogue) :
    (loadSamples d c).Leaves c false := by
  rw [DataFile.name] at h
  rw [loadSamples, h]
  split <;> exact .silent c false

theorem fits_samples (text : String) :
    DataFile.samples.fits text = ((tagsOfFile? "marc_tags" text).isSome &&
      ((fileMember? text "fixed_fields").bind FixedFields.ofJson?).isSome) := by
  rw [DataFile.fits_eq, DataFile.isSome_tagsOfFile?]
  simp only [DataFile.members, List.all_cons, List.all_nil, Bool.and_true]
  cases fileMember? text "fixed_fields" with
  | none => rfl
  | some j =>
    rw [Option.bind_some, FixedFields.isSome_ofJson?]
    rfl

/-- When the samples cannot be loaded, their tags are there as a whole or not at all. -/
theorem leaves_loadSamples_of_fails (hb : c.bibliographic = []) (hh : c.holdings = [])
    (h : DataFile.samples.fails d) :
    ∃ tags, (tags = [] ∨
        (DataFile.samples.entries d "marc_tags").mapValues? TagDefinition.ofJson? = some tags) ∧
      (loadSamples d c).Leaves { c with bibliographic := tags } true := by
  obtain ⟨text, hget, hfits⟩ := (Option.any_eq_true _ _).1 h
  have hfile : d.get? "test_extraction.json" = some text := hget
  rw [loadSamples, if_neg (by simp [hb, hh]), hfile]
  dsimp only
  cases htags : tagsOfFile? "marc_tags" text with
  | none => exact ⟨[], Or.inl rfl, congrArg (fun t => { c with bibliographic := t }) hb, rfl,
      by simp [LogEntry.info]⟩
  | some tags =>
    -- The tags are taken over before the fixed fields are read, so it is those that are wrong.
    have hfields : (fileMember? text "fixed_fields").bind FixedFields.ofJson? = none := by
      simpa [fits_samples, htags] using hfits
    refine ⟨tags, Or.inr (DataFile.mapValues?_entries_of_tagsOfFile? hget htags), ?_⟩
    dsimp only
    rw [hfields]
    exact ⟨rfl, rfl, by simp [LogEntry.info]⟩

/-- Samples that can be loaded bring their tags and their fixed fields. -/
theorem leaves_loadSamples (hb : c.bibliographic = []) (hh : c.holdings = [])
    (hget : d.get? DataFile.samples.name = some text) (h : ¬DataFile.samples.fails d) :
    ∃ tags fields,
      (DataFile.samples.entries d "marc_tags").mapValues? TagDefinition.ofJson? = some tags ∧
        fields.names = (DataFile.samples.entries d "fixed_fields").names ∧
        (loadSamples d c).Leaves
          { c with bibliographic := tags, sampleFields := fields } false := by
  have hfits : DataFile.samples.fits text := by
    simpa [DataFile.fails, hget] using h
  rw [fits_samples, Bool.and_eq_true] at hfits
  obtain ⟨tags, htags⟩ := Option.isSome_iff_exists.1 hfits.1
  obtain ⟨fields, hfields⟩ := Option.isSome_iff_exists.1 hfits.2
  refine ⟨tags, fields, DataFile.mapValues?_entries_of_tagsOfFile? hget htags, ?_, ?_⟩
  · obtain ⟨j, hj, hread⟩ := Option.bind_eq_some_iff.1 hfields
    obtain ⟨table, htable, hvalues⟩ := Option.bind_eq_some_iff.1 hread
    rw [DataFile.entries_of_get? hget, hj, Option.bind_some, htable]
    exact Table.names_of_mapValues? hvalues
  · have hfile : d.get? "test_extraction.json" = some text := hget
    rw [loadSamples, if_neg (by simp [hb, hh]), hfile]
    dsimp only
    rw [htags]
    dsimp only
    rw [hfields]
    exact ⟨rfl, rfl, by simp [LogEntry.info]⟩

/-! ### All stages -/

section Stages

variable {bibliographic holdings : Table TagDefinition} {c' : Catalogue} {failed : Bool}

theorem leaves_loadStages_of_bibliographic_fails (h : DataFile.bibliographic.fails d)
    (c : Catalogue) : (loadStages d c).Leaves c true := by
  have hstage : (loadBibliographic d c).Leaves c true :=
    leaves_loadTags_of_fails (Or.inl rfl) h c
  exact ((hstage.next_of_failed _).next_of_failed _).next_of_failed _

theorem leaves_loadStages_of_holdings_fails
    (hb : DataFile.bibliographic.tags? d c.bibliographic = some bibliographic)
    (h : DataFile.holdings.fails d) :
    (loadStages d c).Leaves { c with bibliographic := bibliographic } true := by
  have hstage : (loadHoldings d { c with bibliographic := bibliographic }).Leaves _ true :=
    leaves_loadTags_of_fails (Or.inr rfl) h _
  exact (((leaves_loadBibliographic hb).next hstage).next_of_failed _).next_of_failed _

/-- A catalogue past the stages that load tags and fixed fields. -/
def withFiles (c : Catalogue) (d : Directory) (bibliographic holdings : Table TagDefinition) :
    Catalogue :=
  { c with
    bibliographic := bibliographic
    holdings := holdings
    fixedFields := (addTypes c.fixedFields (DataFile.fixedFields.entries d "fields")).1 }

theorem leaves_next_loadFixedFields
    (hb : DataFile.bibliographic.tags? d c.bibliographic = some bibliographic)
    (hh : DataFile.holdings.tags? d c.holdings = some holdings) :
    ((loadBibliographic d c).next (loadHoldings d) |>.next (loadFixedFields d)).Leaves
      (c.withFiles d bibliographic holdings) (DataFile.fixedFields.fails d) := by
  have hholdings : (loadHoldings d { c with bibliographic := bibliographic }).Leaves
      { c with bibliographic := bibliographic, holdings := holdings } false :=
    leaves_loadHoldings hh
  exact ((leaves_loadBibliographic hb).next hholdings).next (leaves_loadFixedFields d _)

theorem leaves_loadStages_of_fixedFields_fails
    (hb : DataFile.bibliographic.tags? d c.bibliographic = some bibliographic)
    (hh : DataFile.holdings.tags? d c.holdings = some holdings)
    (h : DataFile.fixedFields.fails d) :
    (loadStages d c).Leaves (c.withFiles d bibliographic holdings) true := by
  have hstages := leaves_next_loadFixedFields hb hh
  rw [h] at hstages
  exact hstages.next_of_failed _

/-- With all three files loaded, the samples decide. -/
theorem leaves_loadStages
    (hb : DataFile.bibliographic.tags? d c.bibliographic = some bibliographic)
    (hh : DataFile.holdings.tags? d c.holdings = some holdings)
    (hf : ¬DataFile.fixedFields.fails d)
    (h : (loadSamples d (c.withFiles d bibliographic holdings)).Leaves c' failed) :
    (loadStages d c).Leaves c' failed := by
  have hstages := leaves_next_loadFixedFields hb hh
  rw [Bool.eq_false_iff.2 hf] at hstages
  exact hstages.next h

end Stages

/-! ### Loading -/

/-- What loading makes of a catalogue, by what its stages leave. -/
theorem load_of_leaves {c' : Catalogue} {failed : Bool} (hc : c.loaded = false)
    (h : (loadStages d c).Leaves c' failed) :
    (load d c).1 = { c' with loaded := c'.loaded || !failed } ∧
      (LogEntry.error "Failed to load static MARC data" ∈ (load d c).2 ↔ failed) := by
  obtain ⟨rfl, hfailed, hlog⟩ := h
  have herror : ∀ text, LogEntry.error text ∉ (loadStages d c).log := by
    intro text hmem
    cases hlog _ hmem
  rw [load, if_neg (by simp [hc])]
  cases failed with
  | true => simp [hfailed]
  | false => simp [hfailed, herror]

/-- What the samples of a directory make of the tags that the other files bring: they are not
    needed, they are missing, or they are taken. The last two arguments are the bibliographic tags
    and the fixed fields of the samples after that. -/
inductive Sampled (d : Directory) (bibliographic holdings : Table TagDefinition)
    (old : FixedFields) : Table TagDefinition → FixedFields → Prop
  | skipped (h : bibliographic ≠ [] ∨ holdings ≠ []) :
      Sampled d bibliographic holdings old bibliographic old
  | missing (hb : bibliographic = []) (hh : holdings = [])
      (hget : d.get? DataFile.samples.name = none) : Sampled d bibliographic holdings old [] old
  | taken {tags : Table TagDefinition} {fields : FixedFields} (hb : bibliographic = [])
      (hh : holdings = []) (hthere : (d.get? DataFile.samples.name).isSome)
      (hfits : ¬DataFile.samples.fails d)
      (htags : (DataFile.samples.entries d "marc_tags").mapValues? TagDefinition.ofJson? =
        some tags)
      (hfields : fields.names = (DataFile.samples.entries d "fixed_fields").names) :
      Sampled d bibliographic holdings old tags fields

/-- A file of a directory ends the loading of a catalogue. The samples only do so when neither the
    other files nor the catalogue have tags. -/
def IsStopped (d : Directory) (c : Catalogue) : Prop :=
  DataFile.bibliographic.fails d ∨ DataFile.holdings.fails d ∨ DataFile.fixedFields.fails d ∨
    DataFile.samples.fails d ∧ DataFile.bibliographic.tags? d c.bibliographic = some [] ∧
      DataFile.holdings.tags? d c.holdings = some []

/-- Loading that is stopped logs a failure and leaves the fixed fields of the samples alone. -/
structure FailsToLoad (d : Directory) (c : Catalogue) : Prop where
  isStopped : IsStopped d c
  loaded : (load d c).1.loaded = false
  sampleFields : (load d c).1.sampleFields = c.sampleFields
  log : LogEntry.error "Failed to load static MARC data" ∈ (load d c).2

/-- Loading that is not stopped takes over what all files hold: the files have brought
    `bibliographic` and `holdings`, and the samples have made `tags` and `fields` of them. -/
structure LoadsInFull (d : Directory) (c : Catalogue)
    (bibliographic holdings tags : Table TagDefinition) (fields : FixedFields) : Prop where
  tags_bibliographic : DataFile.bibliographic.tags? d c.bibliographic = some bibliographic
  tags_holdings : DataFile.holdings.tags? d c.holdings = some holdings
  not_fails_fixedFields : ¬DataFile.fixedFields.fails d
  sampled : Sampled d bibliographic holdings c.sampleFields tags fields
  catalogue : (load d c).1 =
    { c.withFiles d tags holdings with sampleFields := fields, loaded := true }
  log : LogEntry.error "Failed to load static MARC data" ∉ (load d c).2

theorem LoadsInFull.of_leaves {bibliographic holdings tags : Table TagDefinition}
    {fields : FixedFields} (hc : c.loaded = false)
    (hb : DataFile.bibliographic.tags? d c.bibliographic = some bibliographic)
    (hh : DataFile.holdings.tags? d c.holdings = some holdings)
    (hf : ¬DataFile.fixedFields.fails d)
    (hsampled : Sampled d bibliographic holdings c.sampleFields tags fields)
    (h : (loadSamples d (c.withFiles d bibliographic holdings)).Leaves
      { c.withFiles d tags holdings with sampleFields := fields } false) :
    LoadsInFull d c bibliographic holdings tags fields := by
  obtain ⟨hcatalogue, hlog⟩ := load_of_leaves hc (leaves_loadStages hb hh hf h)
  refine ⟨hb, hh, hf, hsampled, ?_, by simp [hlog]⟩
  rw [hcatalogue]
  simp

theorem LoadsInFull.loaded {bibliographic holdings tags : Table TagDefinition}
    {fields : FixedFields} (h : LoadsInFull d c bibliographic holdings tags fields) :
    (load d c).1.loaded = true := by rw [h.catalogue]

theorem FailsToLoad.of_leaves {c' : Catalogue} (hc : c.loaded = false) (hstopped : IsStopped d c)
    (h : (loadStages d c).Leaves c' true) (hloaded : c'.loaded = c.loaded)
    (hfields : c'.sampleFields = c.sampleFields) : FailsToLoad d c := by
  obtain ⟨hcatalogue, hlog⟩ := load_of_leaves hc h
  refine ⟨hstopped, ?_, ?_, hlog.2 rfl⟩
  · simp [hcatalogue, hloaded, hc]
  · simp [hcatalogue, hfields]

/-- Loading fails or comes to its end. -/
theorem load_cases (d : Directory) (hc : c.loaded = false) :
    FailsToLoad d c ∨
      ∃ bibliographic holdings tags fields,
        LoadsInFull d c bibliographic holdings tags fields := by
  by_cases hb : DataFile.bibliographic.fails d
  · exact Or.inl (.of_leaves hc (Or.inl hb) (leaves_loadStages_of_bibliographic_fails hb c) rfl rfl)
  obtain ⟨bibliographic, hbibliographic⟩ := DataFile.exists_tags? (Or.inl rfl) hb c.bibliographic
  by_cases hh : DataFile.holdings.fails d
  · exact Or.inl (.of_leaves hc (Or.inr (Or.inl hh))
      (leaves_loadStages_of_holdings_fails hbibliographic hh) rfl rfl)
  obtain ⟨holdings, hholdings⟩ := DataFile.exists_tags? (Or.inr rfl) hh c.holdings
  by_cases hf : DataFile.fixedFields.fails d
  · exact Or.inl (.of_leaves hc (Or.inr (Or.inr (Or.inl hf)))
      (leaves_loadStages_of_fixedFields_fails hbibliographic hholdings hf) rfl rfl)
  -- The three files have brought what they hold. Whether the samples matter depends on the tags.
  by_cases hempty : bibliographic = [] ∧ holdings = []
  · obtain ⟨rfl, rfl⟩ := hempty
    by_cases hs : DataFile.samples.fails d
    · obtain ⟨tags, -, hleaves⟩ := leaves_loadSamples_of_fails (c := c.withFiles d [] []) rfl rfl hs
      exact Or.inl (.of_leaves hc (Or.inr (Or.inr (Or.inr ⟨hs, hbibliographic, hholdings⟩)))
        (leaves_loadStages hbibliographic hholdings hf hleaves) rfl rfl)
    · right
      cases hget : d.get? DataFile.samples.name with
      | none =>
        exact ⟨_, _, _, _, .of_leaves hc hbibliographic hholdings hf (.missing rfl rfl hget)
          (leaves_loadSamples_of_missing hget _)⟩
      | some text =>
        obtain ⟨tags, fields, htags, hfields, hleaves⟩ :=
          leaves_loadSamples (c := c.withFiles d [] []) rfl rfl hget hs
        exact ⟨_, _, _, _, .of_leaves hc hbibliographic hholdings hf
          (.taken rfl rfl (by simp [hget]) hs htags hfields) hleaves⟩
  · have htags := not_and_or.1 hempty
    exact Or.inr ⟨_, _, _, _, .of_leaves hc hbibliographic hholdings hf (.skipped htags)
      (leaves_loadSamples_of_tags htags)⟩

end Catalogue

end MarcLens

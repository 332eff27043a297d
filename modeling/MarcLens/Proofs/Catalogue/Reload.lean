import MarcLens.Catalogue.Store
import MarcLens.Proofs.Catalogue.Failure

/-!
# Loading again

An attempt to load that fails leaves what its stages have done, and the next attempt starts from
there. A file that is missing by then replaces nothing, and a file of fixed fields replaces only the
types that it has. So a catalogue that is loaded in a later attempt answers like a new one iff
everything that the earlier attempts have left is replaced, or would be there anyway.

## Main definitions

- `Store.ReplacesAll`: loading replaces all that earlier attempts have left

## Main statements

- `Store.sampleFields_run`: failed attempts leave no fixed fields of the samples
- `Store.reloaded_answersAlike_iff`: when a catalogue that is loaded again is like a new one
-/

namespace MarcLens

namespace DataFile

variable {file : DataFile} {d : Directory}

/-- The tags of an earlier attempt are replaced iff their file is there, or there are none. -/
theorem tags?_eq_tags?_nil_iff (file : DataFile) (d : Directory) (old : Table TagDefinition) :
    file.tags? d old = file.tags? d [] ↔ (d.get? file.name).isSome ∨ old = [] := by
  rw [tags?, tags?]
  cases d.get? file.name <;> simp

theorem tags?_of_missing (h : ¬(d.get? file.name).isSome) (old : Table TagDefinition) :
    file.tags? d old = some old := by
  rw [Option.not_isSome_iff_eq_none] at h
  rw [tags?, h]

theorem fails_of_failed_addTypes {filed : Table FixedFields}
    (h : (Catalogue.addTypes filed (fixedFields.entries d "fields")).2) : fixedFields.fails d := by
  rw [Catalogue.failed_addTypes] at h
  cases hget : d.get? fixedFields.name with
  | none => simp [entries_of_get?_eq_none hget] at h
  | some text =>
    rw [entries_of_get? hget] at h
    rw [fails, hget, Option.any_some, Catalogue.fits_fixedFields]
    cases htypes : (Catalogue.fileMember? text "fields").bind Json.table? with
    | none => rfl
    | some types =>
      rw [htypes] at h
      exact h

/-- The samples of a directory are taken if nothing has been loaded before. They then bring just the
    given tags, and no fixed fields. -/
structure SamplesBring (d : Directory) (tags : Table TagDefinition) : Prop where
  isConsulted : samples.IsConsulted d
  not_fails : ¬samples.fails d
  noFields : samples.entries d "fixed_fields" = []
  sameTags : ∃ own, (samples.entries d "marc_tags").mapValues? TagDefinition.ofJson? = some own ∧
    own.length = tags.length ∧ ∀ tag, own.get? tag = tags.get? tag

end DataFile

namespace Catalogue

variable {c : Catalogue} {d : Directory}

/-! ### Fixed fields of an earlier attempt -/

/-- What was filed before shows wherever the new types file nothing. -/
theorem get?_addTypes (filed : Table FixedFields) (types : Table Json) (key : String) :
    (addTypes filed types).1.get? key =
      ((addTypes [] types).1.get? key).or (filed.get? key) := by
  induction types generalizing filed with
  | nil => rfl
  | cons entry rest ih =>
    obtain ⟨name, j⟩ := entry
    rw [addTypes, addTypes]
    cases FixedFields.ofJson? j with
    | none => rfl
    | some fields =>
      dsimp only
      rw [ih, ih (Table.put [] name fields), Table.get?_put, Table.get?_put, Option.or_assoc]
      congr 1
      split <;> rfl

theorem isSome_get?_addTypes_iff {filed : Table FixedFields} {types : Table Json}
    (h : (addTypes filed types).2 = false) (key : String) :
    ((addTypes filed types).1.get? key).isSome ↔
      key ∈ types.names ∨ (filed.get? key).isSome := by
  induction types generalizing filed with
  | nil => simp [addTypes, Table.names]
  | cons entry rest ih =>
    obtain ⟨name, j⟩ := entry
    rw [addTypes] at h ⊢
    cases hj : FixedFields.ofJson? j with
    | none => simp [hj] at h
    | some fields =>
      rw [hj] at h
      dsimp only at h ⊢
      rw [ih h, Table.get?_put]
      by_cases hkey : key = name
      · simp [hkey, Table.names]
      · simp [hkey, Table.names]

/-! ### A catalogue that is loaded again beside a new one -/

/-- The tags that are left in a catalogue are replaced by what a directory holds: for each kind of
    tags there is a file, or none are left, or the samples bring the same ones. -/
structure TagsReplaced (d : Directory) (c : Catalogue) : Prop where
  holdings : (d.get? DataFile.holdings.name).isSome ∨ c.holdings = []
  bibliographic : (d.get? DataFile.bibliographic.name).isSome ∨ c.bibliographic = [] ∨
    DataFile.SamplesBring d c.bibliographic

section Reload

variable {bibliographic holdings tags bibliographic' holdings' tags' : Table TagDefinition}
  {fields fields' old old' : FixedFields}

theorem Sampled.unique (h : Sampled d bibliographic holdings old tags fields)
    (h' : Sampled d bibliographic holdings old' tags' fields') (hold : old.length = old'.length) :
    tags = tags' ∧ fields.length = fields'.length := by
  cases h with
  | skipped htags =>
    cases h' with
    | skipped => exact ⟨rfl, hold⟩
    | missing hb hh => simp [hb, hh] at htags
    | taken hb hh => simp [hb, hh] at htags
  | missing hb hh hget =>
    cases h' with
    | skipped htags => simp [hb, hh] at htags
    | missing => exact ⟨rfl, hold⟩
    | taken _ _ hthere => simp [hget] at hthere
  | taken hb hh hthere hfits htags hfields =>
    cases h' with
    | skipped hne => simp [hb, hh] at hne
    | missing _ _ hget => simp [hget] at hthere
    | taken _ _ _ _ htags' hfields' =>
      refine ⟨Option.some.inj (htags.symm.trans htags'), ?_⟩
      have hnames := congrArg List.length (hfields.trans hfields'.symm)
      simpa [Table.names] using hnames

theorem Sampled.eq_of_tags (h : Sampled d bibliographic holdings old tags fields)
    (hne : bibliographic ≠ []) : tags = bibliographic ∧ fields = old := by
  cases h with
  | skipped => exact ⟨rfl, rfl⟩
  | missing hb => exact absurd hb hne
  | taken hb => exact absurd hb hne

theorem LoadsInFull.tag? (h : LoadsInFull d c bibliographic holdings tags fields) (tag : String) :
    (load d c).1.tag? tag = (tags.get? tag).or (holdings.get? tag) := by
  rw [h.catalogue]
  rfl

theorem LoadsInFull.extent (h : LoadsInFull d c bibliographic holdings tags fields) :
    (load d c).1.extent = ⟨tags.length, holdings.length, fields.length, true⟩ := by
  rw [h.catalogue]
  rfl

theorem LoadsInFull.fixedField? (h : LoadsInFull d c bibliographic holdings tags fields)
    (tag : String) (type : RecordType) :
    (load d c).1.fixedField? tag type =
      ((addTypes c.fixedFields (DataFile.fixedFields.entries d "fields")).1.get? type.key).bind
        (·.get? tag) := by
  rw [h.catalogue]
  rfl

/-- Of a type that the directory has, a new catalogue knows as much. -/
theorem LoadsInFull.fixedField?_of_mem (h : LoadsInFull d c bibliographic holdings tags fields)
    (h' : LoadsInFull d {} bibliographic' holdings' tags' fields') {type : RecordType}
    (hkey : type.key ∈ (DataFile.fixedFields.entries d "fields").names) (tag : String) :
    (load d c).1.fixedField? tag type = (load d {}).1.fixedField? tag type := by
  have hread : (addTypes [] (DataFile.fixedFields.entries d "fields")).2 = false :=
    Bool.eq_false_iff.2 (mt DataFile.fails_of_failed_addTypes h.not_fails_fixedFields)
  have hfiled := (isSome_get?_addTypes_iff hread type.key).2 (Or.inl hkey)
  rw [h.fixedField?, h'.fixedField?, get?_addTypes, Option.or_of_isSome hfiled]

/-- Of any other type a new catalogue knows nothing, and the old one what it knew. -/
theorem LoadsInFull.fixedField?_of_notMem (h : LoadsInFull d c bibliographic holdings tags fields)
    {type : RecordType}
    (hkey : type.key ∉ (DataFile.fixedFields.entries d "fields").names) (tag : String) :
    (load d c).1.fixedField? tag type = c.fixedField? tag type := by
  have hread : (addTypes [] (DataFile.fixedFields.entries d "fields")).2 = false :=
    Bool.eq_false_iff.2 (mt DataFile.fails_of_failed_addTypes h.not_fails_fixedFields)
  have hfiled : (addTypes [] (DataFile.fixedFields.entries d "fields")).1.get? type.key = none := by
    rw [← Option.not_isSome_iff_eq_none, isSome_get?_addTypes_iff hread]
    rintro (hmem | hold)
    · exact hkey hmem
    · cases hold
  rw [h.fixedField?, get?_addTypes, hfiled]
  rfl

/-- A new catalogue has tags although its file of bibliographic tags is missing: they are from the
    samples, and there are no holdings. -/
theorem Sampled.holdings_eq_nil (h : Sampled d [] holdings old tags fields) (hne : tags ≠ []) :
    holdings = [] := by
  cases h with
  | skipped => exact absurd rfl hne
  | missing _ hh => exact hh
  | taken _ hh => exact hh

theorem LoadsInFull.samplesBring_iff
    (h : LoadsInFull d {} bibliographic holdings tags fields)
    (hmissing : ¬(d.get? DataFile.bibliographic.name).isSome) {left : Table TagDefinition}
    (hne : left ≠ []) :
    DataFile.SamplesBring d left ↔
      holdings = [] ∧ fields.length = 0 ∧ tags.length = left.length ∧
        ∀ tag, tags.get? tag = left.get? tag := by
  obtain rfl : [] = bibliographic :=
    Option.some.inj ((DataFile.tags?_of_missing hmissing _).symm.trans h.tags_bibliographic)
  constructor
  · intro hbring
    have hthere := hbring.isConsulted.isThere
    obtain rfl := (DataFile.entries_eq_nil_iff h.tags_holdings).1 (hbring.isConsulted.noTags rfl).2
    obtain ⟨own, hown, hlength, hget⟩ := hbring.sameTags
    cases h.sampled with
    | skipped hne => simp at hne
    | missing _ _ hmissing => simp [hmissing] at hthere
    | taken _ _ _ _ htags hnames =>
      obtain rfl := Option.some.inj (hown.symm.trans htags)
      rw [hbring.noFields] at hnames
      exact ⟨rfl, by rw [List.map_eq_nil_iff.1 hnames]; rfl, hlength, hget⟩
  · rintro ⟨rfl, hnone, hlength, hget⟩
    cases h.sampled with
    | skipped hne => simp at hne
    | missing => exact absurd (List.length_eq_zero_iff.1 hlength.symm) hne
    | taken _ _ hthere hfits htags hnames =>
      refine ⟨⟨hthere, ?_, fun _ => ?_⟩, hfits, ?_, tags, htags, hlength, hget⟩
      · have hb := DataFile.not_fails_of_tags? (Or.inl rfl) h.tags_bibliographic
        have hh := DataFile.not_fails_of_tags? (Or.inr rfl) h.tags_holdings
        simp [DataFile.before, DataFile.order, hb, hh, h.not_fails_fixedFields]
      · exact ⟨(DataFile.entries_eq_nil_iff h.tags_bibliographic).2 rfl,
          (DataFile.entries_eq_nil_iff h.tags_holdings).2 rfl⟩
      · rw [List.length_eq_zero_iff.1 hnone] at hnames
        exact List.map_eq_nil_iff.1 hnames.symm

/-- If the tags that are left are replaced, a new catalogue can be loaded as well. -/
theorem LoadsInFull.exists_new (h : LoadsInFull d c bibliographic holdings tags fields)
    (hreplaced : TagsReplaced d c) :
    ∃ bibliographic' holdings' tags' fields',
      LoadsInFull d {} bibliographic' holdings' tags' fields' := by
  rcases load_cases (c := {}) d rfl with hfails | hloads
  · obtain hb | hh | hf | ⟨hs, hb, hh⟩ := hfails.isStopped
    · exact absurd hb (DataFile.not_fails_of_tags? (Or.inl rfl) h.tags_bibliographic)
    · exact absurd hh (DataFile.not_fails_of_tags? (Or.inr rfl) h.tags_holdings)
    · exact absurd hf h.not_fails_fixedFields
    · exfalso
      -- The samples cannot be loaded, so they were not consulted: there were tags, all replaced.
      obtain ⟨hholdings, hbibliographic⟩ := hreplaced
      rw [← or_assoc, ← DataFile.tags?_eq_tags?_nil_iff] at hbibliographic
      rw [← DataFile.tags?_eq_tags?_nil_iff, h.tags_holdings, hh] at hholdings
      rcases hbibliographic with hbibliographic | hbring
      · rw [h.tags_bibliographic, hb] at hbibliographic
        cases h.sampled with
        | skipped htags =>
          exact htags.elim (absurd (Option.some.inj hbibliographic))
            (absurd (Option.some.inj hholdings))
        | missing _ _ hget => simp [DataFile.fails, hget] at hs
        | taken _ _ _ hfits => exact hfits hs
      · exact hbring.not_fails hs
  · exact hloads

/-- Tags that are replaced are those of a new catalogue. -/
theorem LoadsInFull.tags_alike (h : LoadsInFull d c bibliographic holdings tags fields)
    (h' : LoadsInFull d {} bibliographic' holdings' tags' fields') (hfields : c.sampleFields = [])
    (hreplaced : TagsReplaced d c) :
    (∀ tag, (load d c).1.tag? tag = (load d {}).1.tag? tag) ∧
      (load d c).1.extent = (load d {}).1.extent := by
  obtain ⟨hholdings, hbibliographic⟩ := hreplaced
  obtain rfl : holdings = holdings' := by
    rw [← DataFile.tags?_eq_tags?_nil_iff, h.tags_holdings] at hholdings
    exact Option.some.inj (hholdings.trans h'.tags_holdings)
  have hall : tags'.length = tags.length ∧ (∀ tag, tags'.get? tag = tags.get? tag) ∧
      fields'.length = fields.length := by
    -- If the files have brought the same tags, the samples make the same of them. If not, the tags
    -- that were left have kept the samples out, and have to be what these would have brought.
    by_cases hfile : (d.get? DataFile.bibliographic.name).isSome ∨ c.bibliographic = []
    · rw [← DataFile.tags?_eq_tags?_nil_iff, h.tags_bibliographic] at hfile
      obtain rfl := Option.some.inj (hfile.trans h'.tags_bibliographic)
      obtain ⟨rfl, hlength⟩ := h'.sampled.unique h.sampled (by rw [hfields])
      exact ⟨rfl, fun _ => rfl, hlength⟩
    · obtain ⟨hmissing, hne⟩ := not_or.1 hfile
      obtain rfl : c.bibliographic = bibliographic :=
        Option.some.inj ((DataFile.tags?_of_missing hmissing _).symm.trans h.tags_bibliographic)
      obtain ⟨rfl, rfl⟩ := h.sampled.eq_of_tags hne
      have hbring := (hbibliographic.resolve_left hmissing).resolve_left hne
      obtain ⟨-, hnone, hlength, hget⟩ := (h'.samplesBring_iff hmissing hne).1 hbring
      exact ⟨hlength, hget, by rw [hnone, hfields]; rfl⟩
  obtain ⟨hlength, hget, hcount⟩ := hall
  refine ⟨fun tag => ?_, ?_⟩
  · rw [h.tag?, h'.tag?, hget]
  · rw [h.extent, h'.extent, hlength, hcount]

/-- Where the same tags are defined as in a new catalogue, and the numbers of tags and of fixed
    fields of the samples are the same, the tags that were left are replaced. -/
theorem LoadsInFull.tagsReplaced (h : LoadsInFull d c bibliographic holdings tags fields)
    (h' : LoadsInFull d {} bibliographic' holdings' tags' fields') (hfields : c.sampleFields = [])
    (htag : ∀ tag, (load d c).1.tag? tag = (load d {}).1.tag? tag)
    (hextent : (load d c).1.extent = (load d {}).1.extent) : TagsReplaced d c := by
  rw [h.extent, h'.extent, Extent.mk.injEq] at hextent
  obtain ⟨htags, hholdings, hcount, -⟩ := hextent
  constructor
  · refine or_iff_not_imp_left.2 fun hmissing => ?_
    have hleft := h.tags_holdings
    have hnew := h'.tags_holdings
    rw [DataFile.tags?_of_missing hmissing] at hleft hnew
    rw [Option.some.inj hleft, ← List.length_eq_zero_iff, hholdings, ← Option.some.inj hnew]
    rfl
  · refine or_iff_not_imp_left.2 fun hmissing => or_iff_not_imp_left.2 fun hne => ?_
    have hleft := h.tags_bibliographic
    have hnew := h'.tags_bibliographic
    rw [DataFile.tags?_of_missing hmissing] at hleft hnew
    obtain rfl := Option.some.inj hleft
    obtain rfl := Option.some.inj hnew
    obtain ⟨rfl, rfl⟩ := h.sampled.eq_of_tags hne
    have hsome : tags' ≠ [] := by
      rintro rfl
      exact hne (List.length_eq_zero_iff.1 htags)
    obtain rfl := h'.sampled.holdings_eq_nil hsome
    obtain rfl := List.length_eq_zero_iff.1 hholdings
    refine (h'.samplesBring_iff hmissing hne).2 ⟨rfl, ?_, htags.symm, fun tag => ?_⟩
    · rw [← hcount, hfields]
      rfl
    · have hsame := htag tag
      rw [h.tag?, h'.tag?] at hsame
      simpa using hsame.symm

end Reload

end Catalogue

namespace Store

variable {s : Store}

/-- A store comes about by opening a directory and whatever happens then. -/
def IsReached (s : Store) : Prop := ∃ d events, s = (opened d).1.run events

/-- The fixed fields of the samples are only there once a catalogue is loaded. -/
theorem sampleFields_step (h : s.catalogue.loaded = false → s.catalogue.sampleFields = [])
    (e : Event) (hstep : (s.step e).1.catalogue.loaded = false) :
    (s.step e).1.catalogue.sampleFields = [] := by
  cases e with
  | write name text => exact h hstep
  | delete name => exact h hstep
  | load =>
    change (s.catalogue.load s.directory).1.loaded = false at hstep
    change (s.catalogue.load s.directory).1.sampleFields = []
    -- Only an attempt that comes to its end brings sample fields, and then the catalogue is loaded.
    by_cases hloaded : s.catalogue.loaded
    · rw [Catalogue.load, if_pos hloaded] at hstep ⊢
      exact h hstep
    · rw [Bool.not_eq_true] at hloaded
      rcases Catalogue.load_cases s.directory hloaded with hfails | ⟨_, _, _, _, hloads⟩
      · exact hfails.sampleFields.trans (h hloaded)
      · exact absurd hloads.loaded (ne_true_of_eq_false hstep)

theorem sampleFields_run (h : s.catalogue.loaded = false → s.catalogue.sampleFields = [])
    (events : List Event) (hrun : (s.run events).catalogue.loaded = false) :
    (s.run events).catalogue.sampleFields = [] := by
  induction events generalizing s with
  | nil => exact h hrun
  | cons e rest ih => exact ih (sampleFields_step h e) hrun

theorem IsReached.sampleFields (hs : s.IsReached) (h : s.catalogue.loaded = false) :
    s.catalogue.sampleFields = [] := by
  obtain ⟨d, events, rfl⟩ := hs
  refine sampleFields_run ?_ events h
  exact sampleFields_step (fun _ => rfl) .load

/-- Loading replaces all that earlier attempts have left in the catalogue: the tags, and the fixed
    fields, which are of types that the directory has. -/
structure ReplacesAll (s : Store) : Prop where
  tags : Catalogue.TagsReplaced s.directory s.catalogue
  fixedFields : ∀ type : RecordType,
    type.key ∈ (DataFile.fixedFields.entries s.directory "fields").names ∨
      ∀ tag, s.catalogue.fixedField? tag type = none

/-- When loading comes to its end in a later attempt, the catalogue answers like a new one for the
    same directory, and holds as much, iff all that earlier attempts have left is replaced. -/
theorem reloaded_answersAlike_iff (hs : s.IsReached) (hbefore : s.catalogue.loaded = false)
    (hafter : (s.step .load).1.catalogue.loaded = true) :
    Catalogue.AnswersAlike (s.step .load).1.catalogue (opened s.directory).1.catalogue ∧
        (s.step .load).1.catalogue.extent = (opened s.directory).1.catalogue.extent ↔
      s.ReplacesAll := by
  have hfields := hs.sampleFields hbefore
  obtain ⟨directory, c⟩ := s
  change (Catalogue.load directory c).1.loaded = true at hafter
  change Catalogue.AnswersAlike (Catalogue.load directory c).1 (Catalogue.load directory {}).1 ∧
    (Catalogue.load directory c).1.extent = (Catalogue.load directory {}).1.extent ↔ _
  obtain ⟨_, _, _, _, h⟩ := (Catalogue.load_cases directory hbefore).resolve_left
    fun hfails => ne_true_of_eq_false hfails.loaded hafter
  constructor
  · rintro ⟨halike, hextent⟩
    have hnew : (Catalogue.load directory {}).1.loaded = true :=
      (congrArg Catalogue.Extent.loaded hextent).symm.trans hafter
    obtain ⟨_, _, _, _, h'⟩ := (Catalogue.load_cases (c := {}) directory rfl).resolve_left
      fun hfails => ne_true_of_eq_false hfails.loaded hnew
    have htags := h.tagsReplaced h' hfields halike.tag hextent
    refine ⟨htags, fun type => or_iff_not_imp_left.2 fun hkey tag => ?_⟩
    have hfixed := halike.fixed tag (some type)
    simp only [Catalogue.isFixed, Option.bind_some, h.fixedField?_of_notMem hkey,
      h'.fixedField?_of_notMem hkey] at hfixed
    exact Option.not_isSome_iff_eq_none.1 (ne_true_of_eq_false hfixed)
  · rintro ⟨htags, hfixed⟩
    obtain ⟨_, _, _, _, h'⟩ := h.exists_new htags
    obtain ⟨htag, hextent⟩ := h.tags_alike h' hfields htags
    refine ⟨.of_lookups htag fun tag type => ?_, hextent⟩
    by_cases hkey : type.key ∈ (DataFile.fixedFields.entries directory "fields").names
    · exact h.fixedField?_of_mem h' hkey tag
    · rw [h.fixedField?_of_notMem hkey, h'.fixedField?_of_notMem hkey]
      exact (hfixed type).resolve_left hkey tag

/-- A directory with one tag, and with a file of holdings that cannot be loaded. -/
def sampleBroken : Directory :=
  [("marc_bibliographic.json",
     "\x7b\"tags\": \x7b\"245\": " ++
       "\x7b\"tag\": \"245\", \"name\": \"Title\", \"description\": \"T\"\x7d\x7d\x7d"),
   ("marc_holdings.json", "x")]

/-- The file that cannot be loaded is mended. -/
def sampleMended : Store := (opened sampleBroken).1.run [.write "marc_holdings.json" "\x7b\x7d"]

/-- Both files are deleted. -/
def sampleCleared : Store :=
  (opened sampleBroken).1.run [.delete "marc_bibliographic.json", .delete "marc_holdings.json"]

theorem reloaded_answersAlike_iff_mended :
    sampleMended.IsReached ∧ sampleMended.catalogue.loaded = false ∧
      (sampleMended.step .load).1.catalogue.loaded = true ∧
      Catalogue.AnswersAlike (sampleMended.step .load).1.catalogue
        (opened sampleMended.directory).1.catalogue ∧
      (sampleMended.step .load).1.catalogue.extent =
        (opened sampleMended.directory).1.catalogue.extent := by
  have hreached : sampleMended.IsReached := ⟨_, _, rfl⟩
  obtain ⟨hbefore, hafter, hholdings, hbibliographic, hfixed⟩ :
      sampleMended.catalogue.loaded = false ∧
        (sampleMended.step .load).1.catalogue.loaded = true ∧
        (sampleMended.directory.get? DataFile.holdings.name).isSome ∧
        (sampleMended.directory.get? DataFile.bibliographic.name).isSome ∧
        sampleMended.catalogue.fixedFields.isEmpty := by decide +kernel
  refine ⟨hreached, hbefore, hafter, (reloaded_answersAlike_iff hreached hbefore hafter).2 ?_⟩
  refine ⟨⟨Or.inl hholdings, Or.inl hbibliographic⟩, fun type => Or.inr fun tag => ?_⟩
  rw [Catalogue.fixedField?, List.isEmpty_iff.1 hfixed]
  rfl

/-- Tags whose file has been deleted are still there when the catalogue is loaded again, while a new
    one has none. -/
theorem reloaded_keeps_deleted_tags :
    sampleCleared.IsReached ∧ sampleCleared.catalogue.loaded = false ∧
      (sampleCleared.step .load).1.catalogue.loaded = true ∧
      ¬(Catalogue.AnswersAlike (sampleCleared.step .load).1.catalogue
          (opened sampleCleared.directory).1.catalogue ∧
        (sampleCleared.step .load).1.catalogue.extent =
          (opened sampleCleared.directory).1.catalogue.extent) := by
  obtain ⟨hbefore, hafter, hold, hnew⟩ :
      sampleCleared.catalogue.loaded = false ∧
        (sampleCleared.step .load).1.catalogue.loaded = true ∧
        ((sampleCleared.step .load).1.catalogue.tag? "245").isSome ∧
        ((opened sampleCleared.directory).1.catalogue.tag? "245").isSome = false := by
    decide +kernel
  refine ⟨⟨_, _, rfl⟩, hbefore, hafter, ?_⟩
  rintro ⟨halike, -⟩
  rw [halike.tag, hnew] at hold
  cases hold

end Store

end MarcLens

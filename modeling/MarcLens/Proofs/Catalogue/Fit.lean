import MarcLens.Catalogue.Load
import MarcLens.Proofs.Hover.Wording
import MarcLens.Proofs.Json.Names

/-!
# Data files that can be loaded

A data file is a JSON object in which certain members, if they are there, have a certain shape.
Whether a file can be loaded depends on its shape alone: a definition needs its texts and a position
its bounds, of whatever kind they are, and the tables around them have to be objects.

## Main definitions

- `DataFile`: the files of a data directory, in the order of loading
- `DataFile.fits`: the text of a file can be loaded
- `DataFile.entries`: what a file has in one of its members

## Main statements

- `TagDefinition.isSome_ofJson?`, `FixedFields.isSome_ofJson?`: what can be read has the right shape
- `DataFile.fits_eq`: a file can be loaded iff its members can be read
- `DataFile.nodup_names_entries`: the entries of a member have different names
-/

namespace MarcLens

namespace Table

variable {α β : Type} {f : α → Option β}

theorem mapValues?_cons (f : α → Option β) (entry : String × α) (t : Table α) :
    mapValues? f (entry :: t) =
      (f entry.2).bind fun v => (mapValues? f t).map ((entry.1, v) :: ·) := by
  rw [mapValues?, List.mapM_cons]
  cases f entry.2 with
  | none => rfl
  | some v =>
    rw [mapValues?]
    cases t.mapM fun entry => (f entry.2).map fun v => (entry.1, v) <;> rfl

theorem isSome_mapValues? (f : α → Option β) (t : Table α) :
    (t.mapValues? f).isSome = t.all fun entry => (f entry.2).isSome := by
  induction t with
  | nil => rfl
  | cons entry rest ih =>
    rw [mapValues?_cons, List.all_cons, ← ih]
    cases f entry.2 <;> simp

theorem names_of_mapValues? {t : Table α} {u : Table β} (h : t.mapValues? f = some u) :
    u.names = t.names := by
  induction t generalizing u with
  | nil =>
    obtain rfl := Option.some.inj h
    rfl
  | cons entry rest ih =>
    rw [mapValues?_cons] at h
    obtain ⟨v, -, h⟩ := Option.bind_eq_some_iff.1 h
    obtain ⟨w, hw, rfl⟩ := Option.map_eq_some_iff.1 h
    exact congrArg (entry.1 :: ·) (ih hw)

end Table

theorem Json.eq_obj_of_table? {j : Json} {t : Table Json} (h : j.table? = some t) : j = .obj t := by
  cases j <;> cases h
  rfl

/-! ### Shapes -/

/-- A value is an object that has members with all the given names. -/
def Json.hasMembers (names : List String) (j : Json) : Bool :=
  names.all fun name => (j.get? name).isSome

def SubfieldDefinition.isShaped (j : Json) : Bool := j.hasMembers ["code", "name", "description"]

/-- Subfields may be left out, and so may indicators, which can be anything. -/
def TagDefinition.isShaped (j : Json) : Bool :=
  j.hasMembers ["tag", "name", "description"] &&
    (j.get? "subfields").all (·.isTableOf SubfieldDefinition.isShaped)

def Position.isShaped (j : Json) : Bool := j.hasMembers ["start", "end", "name", "description"]

def FixedFields.isShaped (j : Json) : Bool :=
  j.isTableOf fun positions => positions.isTableOf Position.isShaped

theorem SubfieldDefinition.isSome_ofJson? (j : Json) : (ofJson? j).isSome = isShaped j := by
  simp only [isShaped, ofJson?, Json.hasMembers, List.all_cons, List.all_nil]
  cases j.get? "code" <;> cases j.get? "name" <;> cases j.get? "description" <;> rfl

theorem Position.isSome_ofJson? (j : Json) : (ofJson? j).isSome = isShaped j := by
  simp only [isShaped, ofJson?, Json.hasMembers, List.all_cons, List.all_nil]
  cases j.get? "start" <;> cases j.get? "end" <;> cases j.get? "name" <;>
    cases j.get? "description" <;> rfl

/-- An object of entries can be read if each of them can. -/
theorem Json.isSome_mapValues?_table? {α : Type} {read? : Json → Option α} {p : Json → Bool}
    (h : ∀ j, (read? j).isSome = p j) (j : Json) :
    (j.table?.bind (·.mapValues? read?)).isSome = j.isTableOf p := by
  cases j with
  | obj members =>
    change (Table.mapValues? read? members).isSome = members.all fun m => p m.2
    simp only [Table.isSome_mapValues?, h]
  | _ => rfl

theorem TagDefinition.isSome_ofJson? (j : Json) : (ofJson? j).isSome = isShaped j := by
  have hsubfields : (entries? SubfieldDefinition.ofJson? (j.get? "subfields")).isSome =
      (j.get? "subfields").all (·.isTableOf SubfieldDefinition.isShaped) := by
    cases j.get? "subfields" with
    | none => rfl
    | some subfields =>
      exact Json.isSome_mapValues?_table? SubfieldDefinition.isSome_ofJson? subfields
  simp only [isShaped, ← hsubfields, ofJson?, Json.hasMembers, List.all_cons, List.all_nil]
  cases j.get? "tag" <;> cases j.get? "name" <;> cases j.get? "description" <;>
    cases entries? SubfieldDefinition.ofJson? (j.get? "subfields") <;> rfl

theorem FixedFields.isSome_ofJson? (j : Json) : (ofJson? j).isSome = isShaped j := by
  rw [isShaped, ofJson?]
  refine Json.isSome_mapValues?_table? ?_ j
  exact Json.isSome_mapValues?_table? Position.isSome_ofJson?

/-! ### Files -/

/-- The files of a data directory, in the order in which they are loaded. -/
inductive DataFile where
  | bibliographic
  | holdings
  | fixedFields
  | samples
deriving DecidableEq, Repr

namespace DataFile

def name : DataFile → String
  | bibliographic => "marc_bibliographic.json"
  | holdings => "marc_holdings.json"
  | fixedFields => "marc_fixed_fields.json"
  | samples => "test_extraction.json"

/-- The members that a file may have, and the shape of the entries in each of them. -/
def members : DataFile → Table (Json → Bool)
  | bibliographic => [("tags", TagDefinition.isShaped)]
  | holdings => [("tags", TagDefinition.isShaped)]
  | fixedFields => [("fields", FixedFields.isShaped)]
  | samples =>
    [("marc_tags", TagDefinition.isShaped),
     ("fixed_fields", fun positions => positions.isTableOf Position.isShaped)]

/-- A text can be loaded as the given file: it is an object, and each member of the file is missing
    or an object of entries that have the right shape. -/
def fits (file : DataFile) (text : String) : Bool :=
  ((Json.parse? text.toList).bind Json.table?).any fun top =>
    file.members.all fun m => (top.get? m.1).all (·.isTableOf m.2)

/-- A file is there and cannot be loaded. -/
def fails (file : DataFile) (d : Directory) : Bool :=
  (d.get? file.name).any fun text => !file.fits text

/-- The entries in a member of a file. A file that is missing or that is no object has none, and
    neither has a member that is missing or that is no object. -/
def entries (file : DataFile) (d : Directory) (member : String) : Table Json :=
  ((((d.get? file.name).bind fun text => Json.parse? text.toList).bind (·.get? member)).bind
    Json.table?).getD []

/-! ### Reading the members of a file -/

variable {file : DataFile} {d : Directory} {text member : String}

theorem fileMember?_eq (text member : String) :
    Catalogue.fileMember? text member =
      ((Json.parse? text.toList).bind Json.table?).map fun top =>
        (top.get? member).getD (.obj []) := by
  rw [Catalogue.fileMember?]
  cases Json.parse? text.toList with
  | none => rfl
  | some j => cases j <;> rfl

/-- A file can be loaded iff each of its members is an object of entries of the right shape. -/
theorem fits_eq (file : DataFile) (text : String) :
    file.fits text = file.members.all fun m =>
      (Catalogue.fileMember? text m.1).any (·.isTableOf m.2) := by
  simp only [fits, fileMember?_eq]
  cases (Json.parse? text.toList).bind Json.table? with
  | none => cases file <;> rfl
  | some top =>
    rw [Option.any_some]
    congr 1
    funext m
    rw [Option.map_some, Option.any_some]
    cases top.get? m.1 <;> rfl

/-- The entries of a member are those of the object that is read, if there is one. -/
theorem entries_of_get? (h : d.get? file.name = some text) (member : String) :
    file.entries d member = ((Catalogue.fileMember? text member).bind Json.table?).getD [] := by
  have hget : (Json.parse? text.toList).bind (·.get? member) =
      ((Json.parse? text.toList).bind Json.table?).bind (·.get? member) := by
    rw [Option.bind_assoc]
    rfl
  rw [entries, h, Option.bind_some, hget, fileMember?_eq]
  cases (Json.parse? text.toList).bind Json.table? with
  | none => rfl
  | some top =>
    rw [Option.bind_some, Option.map_some, Option.bind_some]
    cases top.get? member <;> rfl

theorem entries_of_get?_eq_none (h : d.get? file.name = none) (member : String) :
    file.entries d member = [] := by
  rw [entries, h]
  rfl

/-- The entries of a member have different names. -/
theorem nodup_names_entries (file : DataFile) (d : Directory) (member : String) :
    (file.entries d member).names.Nodup := by
  rw [entries]
  cases htable : (((d.get? file.name).bind fun text => Json.parse? text.toList).bind
    (·.get? member)).bind Json.table? with
  | none => exact List.nodup_nil
  | some table =>
    obtain ⟨inner, hinner, htable⟩ := Option.bind_eq_some_iff.1 htable
    obtain ⟨outer, houter, hinner⟩ := Option.bind_eq_some_iff.1 hinner
    obtain ⟨text, -, hparse⟩ := Option.bind_eq_some_iff.1 houter
    obtain ⟨top, htop, hmember⟩ := Option.bind_eq_some_iff.1 hinner
    -- An object inside an object that was read was read itself.
    have hread : Json.IsRead (.obj top) := Json.eq_obj_of_table? htop ▸ Json.isRead_of_parse? hparse
    have hinner : Json.IsRead inner := hread.of_mem _ (Table.mem_of_get? hmember)
    exact (Json.eq_obj_of_table? htable ▸ hinner).nodup_names

end DataFile

end MarcLens

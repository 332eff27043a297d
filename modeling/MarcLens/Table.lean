/-!
# Tables

Values filed under names, in the order in which the names were first used.
-/

namespace MarcLens

/-- Values filed under names. The order of the entries is part of a table. -/
abbrev Table (α : Type) := List (String × α)

namespace Table

variable {α β : Type}

/-- The value filed under a name. -/
def get? (t : Table α) (name : String) : Option α := List.lookup name t

def contains (t : Table α) (name : String) : Bool := (t.get? name).isSome

def names (t : Table α) : List String := t.map Prod.fst

/-- Files a value under a name. A name that is in the table keeps its place and gets the new value;
    a new name goes to the end. -/
def put (t : Table α) (name : String) (value : α) : Table α :=
  match t with
  | [] => [(name, value)]
  | (n, v) :: rest => if n = name then (n, value) :: rest else (n, v) :: put rest name value

@[simp]
theorem get?_nil (name : String) : get? ([] : Table α) name = none := rfl

theorem get?_cons (n name : String) (v : α) (t : Table α) :
    get? ((n, v) :: t) name = if name = n then some v else get? t name := by
  by_cases h : name = n
  · simp [get?, h]
  · simp [get?, List.lookup_cons, h, beq_eq_false_iff_ne.2 h]

theorem mem_of_get? {t : Table α} {name : String} {value : α} (h : t.get? name = some value) :
    (name, value) ∈ t := by
  induction t with
  | nil => simp at h
  | cons entry rest ih =>
    obtain ⟨n, v⟩ := entry
    rw [get?_cons] at h
    split at h
    · next hn =>
      obtain rfl := Option.some.inj h
      simp [hn]
    · exact List.mem_cons_of_mem _ (ih h)

theorem get?_put (t : Table α) (name other : String) (value : α) :
    (t.put name value).get? other = if other = name then some value else t.get? other := by
  induction t with
  | nil => simp [put, get?_cons]
  | cons entry rest ih =>
    obtain ⟨n, v⟩ := entry
    by_cases hn : n = name
    · simp only [put, hn, if_true, get?_cons]
      split <;> rfl
    · simp only [put, hn, if_false, get?_cons, ih]
      by_cases ho : other = n
      · simp [ho, hn]
      · simp [ho]

/-- A name that is in the table keeps its place, and a new name goes to the end. -/
theorem names_put (t : Table α) (name : String) (value : α) :
    (t.put name value).names = if name ∈ t.names then t.names else t.names ++ [name] := by
  induction t with
  | nil => simp [put, names]
  | cons entry rest ih =>
    obtain ⟨n, v⟩ := entry
    by_cases hn : n = name
    · simp [put, names, hn]
    · simp only [names] at ih
      simp only [put, hn, if_false, names, List.map_cons, ih, List.mem_cons, Ne.symm hn, false_or]
      split <;> simp_all

theorem mem_names_put {t : Table α} {name other : String} {value : α} :
    other ∈ (t.put name value).names ↔ other ∈ t.names ∨ other = name := by
  rw [names_put]
  split
  · next hold => exact ⟨Or.inl, fun h => h.elim id fun h => h ▸ hold⟩
  · simp

theorem put_of_notMem_names {t : Table α} {name : String} (h : name ∉ t.names) (value : α) :
    t.put name value = t ++ [(name, value)] := by
  induction t with
  | nil => rfl
  | cons entry rest ih =>
    simp only [names, List.map_cons, List.mem_cons, not_or] at h
    simp [put, Ne.symm h.1, ih h.2]

theorem mem_or_mem_of_mem_put {t : Table α} {name : String} {value : α} {entry : String × α}
    (h : entry ∈ t.put name value) : entry ∈ t ∨ entry = (name, value) := by
  induction t with
  | nil => exact Or.inr (List.mem_singleton.1 h)
  | cons first rest ih =>
    obtain ⟨n, v⟩ := first
    rw [put] at h
    split at h
    · next hn =>
      subst hn
      rcases List.mem_cons.1 h with h | h
      · exact Or.inr h
      · exact Or.inl (List.mem_cons_of_mem _ h)
    · rcases List.mem_cons.1 h with h | h
      · exact Or.inl (by simp [h])
      · exact (ih h).imp_left (List.mem_cons_of_mem _)

theorem mem_names_of_mem {t : Table α} {name : String} {value : α} (h : (name, value) ∈ t) :
    name ∈ t.names := List.mem_map_of_mem h

theorem isSome_get?_iff {t : Table α} {name : String} :
    (t.get? name).isSome ↔ name ∈ t.names := by
  induction t with
  | nil => simp [names]
  | cons entry rest ih =>
    obtain ⟨n, v⟩ := entry
    rw [get?_cons]
    split
    · next hn => simp [names, hn]
    · next hn => simpa [names, hn] using ih

/-- Removes the entry of a name. -/
def erase (t : Table α) (name : String) : Table α := t.filter fun entry => entry.1 ≠ name

theorem get?_erase (t : Table α) (name other : String) :
    (t.erase name).get? other = if other = name then none else t.get? other := by
  induction t with
  | nil => simp [erase]
  | cons entry rest ih =>
    obtain ⟨n, v⟩ := entry
    rw [erase] at ih
    by_cases hn : n = name
    · rw [erase, List.filter_cons_of_neg (by simpa using hn), ih, get?_cons]
      by_cases ho : other = name
      · rw [if_pos ho, if_pos ho]
      · rw [if_neg ho, if_neg ho, if_neg (hn ▸ ho)]
    · rw [erase, List.filter_cons_of_pos (by simpa using hn), get?_cons, get?_cons, ih]
      by_cases ho : other = n
      · rw [if_pos ho, if_neg (ho ▸ hn), if_pos ho]
      · rw [if_neg ho, if_neg ho]

theorem put_put_self (t : Table α) (name : String) (value other : α) :
    (t.put name value).put name other = t.put name other := by
  induction t with
  | nil => simp [put]
  | cons entry rest ih =>
    obtain ⟨n, v⟩ := entry
    by_cases hn : n = name
    · simp [put, hn]
    · simp [put, hn, ih]

/-- A name that is in the table may get its new value before or after another name does. -/
theorem put_comm_of_mem {t : Table α} {name other : String} (h : name ∈ t.names)
    (hne : other ≠ name) (value value' : α) :
    (t.put name value).put other value' = (t.put other value').put name value := by
  induction t with
  | nil => cases h
  | cons entry rest ih =>
    obtain ⟨n, v⟩ := entry
    by_cases hn : n = name
    · have hother : name ≠ other := Ne.symm hne
      simp [put, hn, hother]
    · have hrest : name ∈ names rest := (List.mem_cons.1 h).resolve_left (Ne.symm hn)
      by_cases ho : n = other
      · simp [put, ho, hne]
      · simp [put, hn, ho, ih hrest]

theorem nodup_names_put {t : Table α} (h : t.names.Nodup) (name : String) (value : α) :
    (t.put name value).names.Nodup := by
  rw [names_put]
  split
  · exact h
  · next hnew =>
    rw [List.nodup_append]
    refine ⟨h, by simp, ?_⟩
    rintro a ha b hb rfl
    exact hnew (List.mem_singleton.1 hb ▸ ha)

/-- Files the entries of a list one after the other. -/
def ofList (entries : List (String × α)) : Table α :=
  entries.foldl (fun t entry => put t entry.1 entry.2) []

/-- What a table and the entries filed into it one after the other have in common, the resulting
    table has as well. -/
theorem foldl_put_induction {P : Table α → Prop} {entries : List (String × α)} {t : Table α}
    (h : P t) (hput : ∀ t, ∀ entry ∈ entries, P t → P (t.put entry.1 entry.2)) :
    P (entries.foldl (fun t entry => put t entry.1 entry.2) t) := by
  induction entries generalizing t with
  | nil => exact h
  | cons entry entries ih =>
    exact ih (hput t entry (by simp) h) fun t e he => hput t e (List.mem_cons_of_mem _ he)

/-- Every name is in a table once. -/
theorem nodup_names_ofList (entries : List (String × α)) : (ofList entries).names.Nodup := by
  refine foldl_put_induction (P := fun t => t.names.Nodup) List.nodup_nil ?_
  intro t entry _ ht
  exact nodup_names_put ht entry.1 entry.2

theorem mem_of_mem_ofList {entries : List (String × α)} {entry : String × α}
    (h : entry ∈ ofList entries) : entry ∈ entries := by
  revert h
  refine foldl_put_induction (P := fun t => entry ∈ t → entry ∈ entries) (by simp) ?_
  intro t e he ht hentry
  rcases mem_or_mem_of_mem_put hentry with h | h
  · exact ht h
  · rwa [h]

/-- The names that are new to the table are added in the order in which they are first used. -/
theorem names_foldl_put (entries : List (String × α)) (t : Table α) :
    names (entries.foldl (fun t entry => put t entry.1 entry.2) t) =
      t.names ++ ((names entries).removeAll t.names).eraseDups := by
  induction entries generalizing t with
  | nil => simp [names, List.removeAll]
  | cons entry entries ih =>
    have hnames : names (entry :: entries) = entry.1 :: names entries := rfl
    rw [List.foldl_cons, ih, names_put, hnames]
    by_cases hold : entry.1 ∈ t.names
    · simp [List.removeAll, hold]
    · have hnew : (entry.1 :: names entries).removeAll t.names =
          entry.1 :: (names entries).removeAll t.names := by
        simp [List.removeAll, hold]
      have hrest : (names entries).removeAll (t.names ++ [entry.1]) =
          ((names entries).removeAll t.names).filter fun name => !name == entry.1 := by
        simp only [List.removeAll, List.filter_filter]
        refine List.filter_congr fun name _ => ?_
        by_cases hname : name = entry.1 <;> simp [hname]
      rw [if_neg hold, hnew, List.eraseDups_cons, hrest, List.append_assoc, List.singleton_append]

/-- The names of filed entries, each where it was first used. -/
theorem names_ofList (entries : List (String × α)) :
    (ofList entries).names = (names entries).eraseDups := by
  have hall : (names entries).removeAll (names ([] : Table α)) = names entries :=
    List.filter_eq_self.2 fun _ _ => rfl
  rw [ofList, names_foldl_put, hall]
  rfl

theorem mem_names_ofList {entries : List (String × α)} {name : String}
    (h : name ∈ names entries) : name ∈ (ofList entries).names := by
  rw [names_ofList, List.mem_eraseDups]
  exact h

/-- Entries with different names are filed as they are. -/
theorem ofList_of_nodup {entries : List (String × α)} (h : (names entries).Nodup) :
    ofList entries = entries := by
  have hfrom : ∀ (es : List (String × α)) (t : Table α), (names (t ++ es)).Nodup →
      es.foldl (fun t entry => put t entry.1 entry.2) t = t ++ es := by
    intro es
    induction es with
    | nil => simp
    | cons e es ih =>
      intro t ht
      have hnew : e.1 ∉ t.names := by
        rw [names, List.map_append, List.nodup_append] at ht
        exact fun hmem => ht.2.2 e.1 hmem e.1 (by simp) rfl
      rw [List.foldl_cons, put_of_notMem_names hnew, ih _ (by simpa using ht)]
      simp
  exact hfrom entries [] h

/-- A name that is in the table and is not filed again may get its new value first or last. -/
theorem foldl_put_of_mem {entries : List (String × α)} {t : Table α} {name : String}
    (hnew : name ∉ names entries) (hold : name ∈ t.names) (value : α) :
    entries.foldl (fun t entry => put t entry.1 entry.2) (t.put name value) =
      put (entries.foldl (fun t entry => put t entry.1 entry.2) t) name value := by
  induction entries generalizing t with
  | nil => rfl
  | cons entry entries ih =>
    obtain ⟨hne, hnew⟩ := not_or.1 (mt List.mem_cons.2 hnew)
    rw [List.foldl_cons, List.foldl_cons, put_comm_of_mem hold (Ne.symm hne)]
    exact ih hnew (mem_names_put.2 (Or.inl hold))

/-- To file the entries of a table after one more has been put into it is to put that one in
    last. -/
theorem foldl_put_put {u : Table α} (hu : u.names.Nodup) (t : Table α) (name : String)
    (value : α) :
    (u.put name value).foldl (fun t entry => put t entry.1 entry.2) t =
      put (u.foldl (fun t entry => put t entry.1 entry.2) t) name value := by
  induction u generalizing t with
  | nil => rfl
  | cons entry rest ih =>
    obtain ⟨n, v⟩ := entry
    obtain ⟨hfresh, hrest⟩ := List.nodup_cons.1 hu
    by_cases hn : n = name
    · subst hn
      have hold : n ∈ (t.put n v).names := mem_names_put.2 (Or.inr rfl)
      rw [put, if_pos rfl, List.foldl_cons, List.foldl_cons, ← foldl_put_of_mem hfresh hold,
        put_put_self]
    · rw [put, if_neg hn, List.foldl_cons, List.foldl_cons]
      exact ih hrest _

/-- Entries may be filed into a table of their own first. -/
theorem foldl_put_ofList (entries : List (String × α)) (t : Table α) :
    (ofList entries).foldl (fun t entry => put t entry.1 entry.2) t =
      entries.foldl (fun t entry => put t entry.1 entry.2) t := by
  -- The table that is filed first may already have entries.
  have hfrom : ∀ (es : List (String × α)) (u : Table α), u.names.Nodup →
      (es.foldl (fun t entry => put t entry.1 entry.2) u).foldl
          (fun t entry => put t entry.1 entry.2) t =
        es.foldl (fun t entry => put t entry.1 entry.2)
          (u.foldl (fun t entry => put t entry.1 entry.2) t) := by
    intro es
    induction es with
    | nil => exact fun _ _ => rfl
    | cons e es ih =>
      intro u hu
      rw [List.foldl_cons, List.foldl_cons, ih _ (nodup_names_put hu e.1 e.2), foldl_put_put hu]
  exact hfrom entries [] List.nodup_nil

theorem ofList_append (entries more : List (String × α)) :
    ofList (entries ++ more) =
      (ofList more).foldl (fun t entry => put t entry.1 entry.2) (ofList entries) := by
  rw [foldl_put_ofList, ofList, List.foldl_append]
  rfl

/-- Applies a function to every value. -/
def mapValues (f : α → β) (t : Table α) : Table β := t.map fun entry => (entry.1, f entry.2)

/-- Applies a function that may refuse to every value, and refuses if it does so once. -/
def mapValues? (f : α → Option β) (t : Table α) : Option (Table β) :=
  t.mapM fun entry => (f entry.2).map fun v => (entry.1, v)

@[simp]
theorem names_mapValues (f : α → β) (t : Table α) : (t.mapValues f).names = t.names := by
  simp [names, mapValues]

theorem get?_mapValues (f : α → β) (t : Table α) (name : String) :
    (t.mapValues f).get? name = (t.get? name).map f := by
  induction t with
  | nil => rfl
  | cons entry rest ih =>
    obtain ⟨n, v⟩ := entry
    change get? ((n, f v) :: mapValues f rest) name = _
    rw [get?_cons, get?_cons, ih]
    split <;> rfl

theorem mapValues_put (f : α → β) (t : Table α) (name : String) (value : α) :
    (t.put name value).mapValues f = (t.mapValues f).put name (f value) := by
  induction t with
  | nil => rfl
  | cons entry rest ih =>
    obtain ⟨n, v⟩ := entry
    change mapValues f (if n = name then _ else _) = if n = name then _ else _
    split
    · rfl
    · exact congrArg ((n, f v) :: ·) ih

theorem mapValues_foldl_put (f : α → β) (entries : List (String × α)) (t : Table α) :
    mapValues f (entries.foldl (fun t entry => put t entry.1 entry.2) t) =
      (mapValues f entries).foldl (fun t entry => put t entry.1 entry.2) (t.mapValues f) := by
  induction entries generalizing t with
  | nil => rfl
  | cons entry entries ih =>
    rw [List.foldl_cons, ih, mapValues_put]
    rfl

theorem mapValues?_mapValues {γ : Type} {f : α → β} {g : β → Option γ} {k : α → γ}
    (h : ∀ v, g (f v) = some (k v)) (t : Table α) :
    (t.mapValues f).mapValues? g = some (t.mapValues k) := by
  induction t with
  | nil => rfl
  | cons entry rest ih =>
    rw [mapValues?, mapValues] at ih
    simp only [mapValues?, mapValues, List.map_cons, List.mapM_cons, h, ih]
    rfl

end Table

end MarcLens

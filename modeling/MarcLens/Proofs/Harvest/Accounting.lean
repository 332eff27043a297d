import MarcLens.Proofs.Harvest.Gathering
import Mathlib.Data.List.Basic

/-!
# Every tag is accounted for

A look-up that fails concerns no other tag. Each tag of a list, the leader apart, is either gathered
or noted as failed, and never both. What the end of the log tells agrees with that, also where tags
are repeated.

## Main definitions

- `Harvest.successes`, `Harvest.failures`: the tags of a list whose look-up succeeds or not
- `Harvest.extracted`: what is gathered, as it goes into a data file
- `Harvest.Gathered.Advances`: what looking up some tags adds to the counts

## Main statements

- `Harvest.names_extracted`, `Harvest.get?_extracted`: what is gathered, and in which order
- `Harvest.extracted_append`: lists of tags may be gathered one after the other
- `Harvest.Gathered.advances_foldl_visit`: a run counts every tag that it looks up
-/

namespace MarcLens.Harvest

variable {lookup : Lookup} {category : String}

/-- The tags of a list that are looked up: all but the leader. -/
def numbered (tags : List String) : List String := tags.filter (· ≠ "LDR")

/-- The tags of a list whose look-up succeeds, with their repetitions. -/
def successes (lookup : Lookup) (tags : List String) : List String :=
  (numbered tags).filter fun tag => (lookup tag).info?.isSome

/-- The tags of a list that are looked up in vain, with their repetitions. -/
def failures (lookup : Lookup) (tags : List String) : List String :=
  (numbered tags).filter fun tag => !(lookup tag).info?.isSome

theorem successes_append (lookup : Lookup) (tags more : List String) :
    successes lookup (tags ++ more) = successes lookup tags ++ successes lookup more := by
  simp only [successes, numbered, List.filter_append]

theorem failures_append (lookup : Lookup) (tags more : List String) :
    failures lookup (tags ++ more) = failures lookup tags ++ failures lookup more := by
  simp only [failures, numbered, List.filter_append]

/-! ### What is gathered -/

/-- What is gathered for a list of tags, as it goes into a data file. -/
def extracted (lookup : Lookup) (tags : List String) (category : String) : Table Json :=
  (gather lookup tags category).tags.mapValues TagInfo.toJson

/-- What is added for a list of tags is added under the tags whose look-up succeeds. -/
theorem names_filterMap_addition? (tags : List String) :
    Table.names (tags.filterMap (addition? lookup)) = successes lookup tags := by
  induction tags with
  | nil => rfl
  | cons tag tags ih =>
    rw [successes, numbered] at ih ⊢
    by_cases hleader : tag = "LDR"
    · have hnone : addition? lookup tag = none := if_pos hleader
      rw [List.filterMap_cons_none hnone, List.filter_cons_of_neg (by simpa using hleader), ih]
    · rw [List.filter_cons_of_pos (by simpa using hleader)]
      cases hinfo : (lookup tag).info? with
      | none =>
        have hnone : addition? lookup tag = none := by rw [addition?, if_neg hleader, hinfo]; rfl
        rw [List.filterMap_cons_none hnone, List.filter_cons_of_neg (by simp [hinfo]), ih]
      | some info =>
        have hsome : addition? lookup tag = some (tag, info) := by
          rw [addition?, if_neg hleader, hinfo]
          rfl
        rw [List.filterMap_cons_some hsome, List.filter_cons_of_pos (by simp [hinfo]), ← ih]
        rfl

/-- Every tag whose look-up succeeds is gathered once, where it first occurs. -/
theorem names_extracted (lookup : Lookup) (tags : List String) (category : String) :
    (extracted lookup tags category).names = (successes lookup tags).eraseDups := by
  rw [extracted, Table.names_mapValues, tags_gather, Table.names_ofList, names_filterMap_addition?]

/-- What is gathered for a tag is what its own look-up tells. -/
theorem get?_extracted (lookup : Lookup) (tags : List String) (category tag : String) :
    (extracted lookup tags category).get? tag =
      if tag ∈ numbered tags then (lookup tag).info?.map TagInfo.toJson else none := by
  have hmem : tag ∈ numbered tags ↔ tag ∈ tags ∧ tag ≠ "LDR" := by
    rw [numbered, List.mem_filter, decide_eq_true_eq]
  have hget : (gather lookup tags category).tags.get? tag =
      if tag ∈ numbered tags then (lookup tag).info? else none := by
    ext info
    rw [get?_tags_gather_iff, Option.ite_none_right_eq_some, Finding.info?_eq_some_iff, hmem,
      and_assoc]
  rw [extracted, Table.get?_mapValues, hget]
  split <;> rfl

/-- Lists of tags may be gathered one after the other. -/
theorem extracted_append (lookup : Lookup) (tags more : List String) (category : String) :
    extracted lookup (tags ++ more) category =
      (extracted lookup more category).foldl (fun t entry => t.put entry.1 entry.2)
        (extracted lookup tags category) := by
  simp only [extracted, tags_gather, List.filterMap_append, Table.ofList_append,
    Table.mapValues_foldl_put]

/-! ### What is counted -/

/-- Every tag that is looked up succeeds or fails. -/
theorem length_successes_add_length_failures (lookup : Lookup) (tags : List String) :
    (successes lookup tags).length + (failures lookup tags).length = (numbered tags).length :=
  (List.length_eq_length_filter_add _).symm

namespace Gathered

/-- Looking up some tags leads from `g` to `g'`, and each of them is either counted as a success or
    noted as a failure. -/
structure Advances (lookup : Lookup) (tags : List String) (g g' : Gathered) : Prop where
  succeeded : g'.succeeded = g.succeeded + (successes lookup tags).length
  failed : g'.failed = g.failed ++ failures lookup tags

theorem Advances.refl (lookup : Lookup) (g : Gathered) : Advances lookup [] g g :=
  ⟨rfl, (List.append_nil g.failed).symm⟩

theorem Advances.trans {tags more : List String} {g₁ g₂ g₃ : Gathered}
    (h : Advances lookup tags g₁ g₂) (h' : Advances lookup more g₂ g₃) :
    Advances lookup (tags ++ more) g₁ g₃ := by
  constructor
  · rw [h'.succeeded, h.succeeded, successes_append, List.length_append, Nat.add_assoc]
  · rw [h'.failed, h.failed, failures_append, List.append_assoc]

theorem advances_note (lookup : Lookup) {tag : String} (hleader : tag ≠ "LDR") (g : Gathered) :
    Advances lookup [tag] g (g.note tag (lookup tag)) := by
  have hnumbered : numbered [tag] = [tag] := List.filter_cons_of_pos (by simpa using hleader)
  cases hfinding : lookup tag <;> constructor <;>
    simp [note, successes, failures, hnumbered, hfinding, Finding.info?]

/-- One look-up counts its tag once. The leader is not counted. -/
theorem advances_visit (g : Gathered) (total : Nat) (tag : String) (index : Nat) :
    Advances lookup [tag] g (g.visit lookup category total (tag, index)) := by
  rw [visit]
  by_cases hleader : tag = "LDR"
  · have hnumbered : numbered [tag] = [] := List.filter_cons_of_neg (by simpa using hleader)
    rw [if_pos hleader]
    constructor <;> simp [successes, failures, hnumbered]
  · rw [if_neg hleader]
    -- The entry that tells of the progress changes the log only.
    obtain ⟨hsucceeded, hfailed⟩ := advances_note lookup hleader { g with log := _ }
    exact ⟨hsucceeded, hfailed⟩

/-- A run counts every tag that it looks up. -/
theorem advances_foldl_visit (g : Gathered) (total n : Nat) (tags : List String) :
    Advances lookup tags g ((tags.zipIdx n).foldl (visit lookup category total) g) := by
  induction tags generalizing g n with
  | nil => exact .refl lookup g
  | cons tag tags ih =>
    rw [List.zipIdx_cons, List.foldl_cons]
    exact (advances_visit g total tag n).trans (ih _ (n + 1))

end Gathered

/-- The log ends with the summary of what succeeded and what failed. -/
theorem exists_log_gather (lookup : Lookup) (tags : List String) (category : String) :
    ∃ earlier, (gather lookup tags category).log = earlier ++ Gathered.summary
      { succeeded := (successes lookup tags).length, failed := failures lookup tags }
      category := by
  rw [gather]
  dsimp only
  generalize hg : List.foldl _ _ _ = g
  obtain ⟨hsucceeded, hfailed⟩ := hg ▸ Gathered.advances_foldl_visit _ tags.length 0 tags
  refine ⟨g.log, ?_⟩
  rw [Gathered.summary, hsucceeded, hfailed, Nat.zero_add, List.nil_append]
  rfl

/-- Failures are isolated, and every tag is accounted for. The tags other than the leader whose
    look-up succeeds are gathered once each and in the order of their first occurrence, with what
    their own look-up tells, whatever becomes of the others. So lists of tags may be gathered one
    after the other. The numbers at the end of the log add up to the number of tags looked up, and
    the failures follow there in order, the first ten by name. -/
theorem gather_accounts (lookup : Lookup) (tags : List String) (category : String) :
    (extracted lookup tags category).names = (successes lookup tags).eraseDups ∧
    (extracted lookup tags category).names.Nodup ∧
    (∀ tag, (extracted lookup tags category).get? tag =
      if tag ∈ numbered tags then (lookup tag).info?.map TagInfo.toJson else none) ∧
    (∀ (other : Lookup) (tag : String), other tag = lookup tag →
      (extracted other tags category).get? tag = (extracted lookup tags category).get? tag) ∧
    (∀ more, extracted lookup (tags ++ more) category =
      (extracted lookup more category).foldl (fun t entry => t.put entry.1 entry.2)
        (extracted lookup tags category)) ∧
    (successes lookup tags).length + (failures lookup tags).length = (numbered tags).length ∧
    ∃ earlier, (gather lookup tags category).log = earlier ++
      ([.info (String.ofList (Text.title category.toList) ++ " extraction complete: " ++
          (successes lookup tags).length.repr ++ " successful, " ++
          (failures lookup tags).length.repr ++ " failed")] ++
        (if (failures lookup tags).isEmpty then []
          else [.info ("Failed tags: " ++ ", ".intercalate ((failures lookup tags).take 10))]) ++
        (if 10 < (failures lookup tags).length then
          [.info ("... and " ++ ((failures lookup tags).length - 10).repr ++ " more")]
          else [])) := by
  refine ⟨names_extracted lookup tags category, ?_, get?_extracted lookup tags category, ?_,
    fun more => extracted_append lookup tags more category,
    length_successes_add_length_failures lookup tags, exists_log_gather lookup tags category⟩
  · rw [extracted, Table.names_mapValues]
    exact nodup_names_tags_gather tags
  · intro other tag hsame
    rw [get?_extracted, get?_extracted, hsame]

end MarcLens.Harvest

import MarcLens.Proofs.Json.Scalar

/-!
# Values, written and read

Reading a value takes it back from its written form. Objects have to name each member once,
integers must not have too many digits, and the nesting must not be too deep; any other number has
to be one that is read back from its own decimal notation.

## Main definitions

- `Json.IsTree`: a value that is nested to a given depth at most, and that can be read back

## Main statements

- `Json.parse?_pretty`: a tree is read back from its written form
-/

namespace MarcLens.Json

/-- A number is read back from its decimal notation. -/
def ReadsBack (x : Number) : Prop :=
  ∀ rest, EndsNumber rest →
    scalar? ((x.written "Infinity" "NaN").toList ++ rest) = some (.real x, rest)

/-- A value in which arrays and objects are nested to the given depth at most, and objects name each
    member once. -/
inductive IsTree : Nat → Json → Prop
  | null {n : Nat} : IsTree n .null
  | bool {n : Nat} (b : Bool) : IsTree n (.bool b)
  | int {n : Nat} {i : Int} (hlen : (Nat.toDigits 10 i.natAbs).length ≤ maxIntegerDigits) :
    IsTree n (.int i)
  | real {n : Nat} {x : Number} (hx : ReadsBack x) : IsTree n (.real x)
  | str {n : Nat} (s : String) : IsTree n (.str s)
  | arr {n : Nat} {js : List Json} (hjs : ∀ j ∈ js, IsTree n j) : IsTree (n + 1) (.arr js)
  | obj {n : Nat} {ms : List (String × Json)} (hnames : (Table.names ms).Nodup)
    (hms : ∀ m ∈ ms, IsTree n m.2) : IsTree (n + 1) (.obj ms)

/-- A value is a tree without any number but integers. -/
def isPlainTree : Nat → Json → Bool
  | _, .null => true
  | _, .bool _ => true
  | _, .int i => (Nat.toDigits 10 i.natAbs).length ≤ maxIntegerDigits
  | _, .real _ => false
  | _, .str _ => true
  | 0, .arr _ => false
  | 0, .obj _ => false
  | n + 1, .arr js => js.all fun j => isPlainTree n j
  | n + 1, .obj ms => (Table.names ms).Nodup && ms.all fun m => isPlainTree n m.2

theorem isTree_of_isPlainTree {n : Nat} {j : Json} (h : isPlainTree n j) : IsTree n j := by
  fun_induction isPlainTree n j with
  | case1 => exact .null
  | case2 n b => exact .bool b
  | case3 n i => exact .int (of_decide_eq_true h)
  | case4 => cases h
  | case5 n s => exact .str s
  | case6 => cases h
  | case7 => cases h
  | case8 n js ih => exact .arr fun j hj => ih j (List.all_eq_true.1 h j hj)
  | case9 n ms ih =>
    obtain ⟨hnames, hms⟩ := Bool.and_eq_true_iff.1 h
    exact .obj (of_decide_eq_true hnames) fun m hm => ih m (List.all_eq_true.1 hms m hm)

/-! ### Space -/

theorem skipSpace_newLine_append (depth : Nat) (t : Text) :
    skipSpace (newLine depth ++ t) = skipSpace t := by
  apply List.dropWhile_append_of_pos
  intro c hc
  rcases List.mem_cons.1 hc with rfl | hc
  · rfl
  · rw [List.eq_of_mem_replicate hc]
    rfl

theorem skipSpace_cons_of_not_isSpace {c : Char} (h : ¬isSpace c) (t : Text) :
    skipSpace (c :: t) = c :: t := List.dropWhile_cons_of_neg h

theorem skipSpace_space (t : Text) : skipSpace (' ' :: t) = skipSpace t := rfl

theorem skipSpace_colon (t : Text) : skipSpace (':' :: t) = ':' :: t := rfl

theorem quoted_append (s : String) (t : Text) :
    quoted s ++ t = '"' :: (s.toList.flatMap escape ++ '"' :: t) := by
  simp [quoted]

theorem skipSpace_quoted_append (s : String) (t : Text) :
    skipSpace (quoted s ++ t) = quoted s ++ t := skipSpace_cons_of_not_isSpace (by decide) _

/-! ### What a value starts with -/

/-- No scalar starts with space or with a bracket. -/
theorem scalar?_eq_none {c : Char} (h : c ∈ [' ', '\t', '\n', '\r', '[', ']', '{', '}'])
    (t : Text) : scalar? (c :: t) = none := by
  simp only [List.mem_cons, List.not_mem_nil, or_false] at h
  rcases h with rfl | rfl | rfl | rfl | rfl | rfl | rfl | rfl <;> rfl

theorem value_of_scalar? {fuel depth : Nat} {t : Text} {read : Json × Text}
    (h : scalar? t = some read) : value fuel depth t = some read := by
  rw [value.eq_def]
  split
  · simp [scalar?_eq_none] at h
  · simp [scalar?_eq_none] at h
  · simp [scalar?_eq_none] at h
  · simp [scalar?_eq_none] at h
  · exact h

/-- A value starts neither with space nor with a bracket that closes an array. -/
theorem exists_cons_of_value {fuel depth : Nat} {t : Text} {read : Json × Text}
    (h : value fuel depth t = some read) : ∃ c rest, t = c :: rest ∧ ¬isSpace c ∧ c ≠ ']' := by
  rw [value.eq_def] at h
  split at h
  · cases h
  · cases h
  · exact ⟨_, _, rfl, by decide, by decide⟩
  · exact ⟨_, _, rfl, by decide, by decide⟩
  · -- With space or a bracket in front there would be no scalar.
    cases t with
    | nil => cases h
    | cons c rest =>
      refine ⟨c, rest, rfl, ?_, ?_⟩
      · intro hspace
        simp only [isSpace, Bool.or_eq_true, decide_eq_true_eq, or_assoc] at hspace
        rw [scalar?_eq_none (by simp only [List.mem_cons]; tauto)] at h
        cases h
      · rintro rfl
        rw [scalar?_eq_none (by simp)] at h
        cases h

theorem skipSpace_of_value {fuel depth : Nat} {t : Text} {read : Json × Text}
    (h : value fuel depth t = some read) : skipSpace t = t := by
  obtain ⟨c, rest, rfl, hc, -⟩ := exists_cons_of_value h
  exact skipSpace_cons_of_not_isSpace hc rest

/-! ### Items and members -/

section Step

variable {read : Text → Option (Json × Text)} {t u v rest : Text} {j : Json} {name : String}

theorem items_last (hread : read t = some (j, u)) (hend : skipSpace u = ']' :: rest) (k : Nat) :
    items read (k + 1) t = some ([j], rest) := by
  simp only [items, hread, hend]

theorem items_more (hread : read t = some (j, u)) (hcomma : skipSpace u = ',' :: v) (k : Nat) :
    items read (k + 1) t = (items read k (skipSpace v)).map fun (js, rest) => (j :: js, rest) := by
  simp only [items, hread, hcomma]

theorem members_last (hread : read t = some (j, u)) (hspace : skipSpace t = t)
    (hend : skipSpace u = '}' :: rest) (k : Nat) :
    members read (k + 1) (quoted name ++ ':' :: ' ' :: t) = some ([(name, j)], rest) := by
  simp only [members, quoted_append, stringBody_flatMap_escape, skipSpace_colon,
    skipSpace_space, hspace, hread, hend, String.ofList_toList]

theorem members_more (hread : read t = some (j, u)) (hspace : skipSpace t = t)
    (hcomma : skipSpace u = ',' :: v) (k : Nat) :
    members read (k + 1) (quoted name ++ ':' :: ' ' :: t) =
      (members read k (skipSpace v)).map fun (ms, rest) => ((name, j) :: ms, rest) := by
  simp only [members, quoted_append, stringBody_flatMap_escape, skipSpace_colon,
    skipSpace_space, hspace, hread, hcomma, String.ofList_toList]

end Step

theorem endsNumber_prettyItems_append (depth : Nat) (js : List Json) (rest : Text) :
    EndsNumber (prettyItems depth js ++ rest) := by
  cases js with
  | nil => exact endsNumber_cons.2 (Or.inr rfl)
  | cons j js => exact endsNumber_cons.2 (Or.inl rfl)

theorem endsNumber_prettyMembers_append (depth : Nat) (ms : List (String × Json)) (rest : Text) :
    EndsNumber (prettyMembers depth ms ++ rest) := by
  cases ms with
  | nil => exact endsNumber_cons.2 (Or.inr rfl)
  | cons m ms => exact endsNumber_cons.2 (Or.inl rfl)

/-- A value that stands at the given depth is read back from its written form. -/
def ReadBackAt (fuel nesting depth : Nat) (j : Json) : Prop :=
  ∀ rest, EndsNumber rest → value fuel nesting (prettyAt depth j ++ rest) = some (j, rest)

section Run

variable {fuel nesting depth : Nat}

/-- Items are read back if each of them is. -/
theorem items_pretty {js : List Json} {j : Json} {k : Nat} (rest : Text)
    (h : ∀ i ∈ j :: js, ReadBackAt fuel nesting (depth + 1) i) (hk : js.length < k) :
    items (value fuel nesting) k (prettyAt (depth + 1) j ++ (prettyItems depth js ++ rest)) =
      some (j :: js, rest) := by
  -- The first item leaves the text of all others, which starts with a comma or a new line.
  induction js generalizing j k with
  | nil =>
    obtain ⟨k, rfl⟩ := Nat.exists_eq_succ_of_ne_zero (Nat.ne_zero_of_lt hk)
    have hj := h j (by simp) _ (endsNumber_prettyItems_append depth [] rest)
    refine items_last hj ?_ k
    rw [prettyItems, List.append_assoc, skipSpace_newLine_append]
    rfl
  | cons i js ih =>
    obtain ⟨k, rfl⟩ := Nat.exists_eq_succ_of_ne_zero (Nat.ne_zero_of_lt hk)
    have hj := h j (by simp) _ (endsNumber_prettyItems_append depth (i :: js) rest)
    have hi := h i (by simp) _ (endsNumber_prettyItems_append depth js rest)
    have hcomma : skipSpace (prettyItems depth (i :: js) ++ rest) =
        ',' :: (newLine (depth + 1) ++
          (prettyAt (depth + 1) i ++ (prettyItems depth js ++ rest))) := by
      simp only [prettyItems, List.cons_append, List.append_assoc]
      rfl
    rw [items_more hj hcomma, skipSpace_newLine_append, skipSpace_of_value hi,
      ih (fun m hm => h m (List.mem_cons_of_mem _ hm)) (by simpa using hk)]
    rfl

/-- Members are read back if the value of each of them is. -/
theorem members_pretty {ms : List (String × Json)} {name : String} {j : Json} {k : Nat}
    (rest : Text) (h : ∀ m ∈ (name, j) :: ms, ReadBackAt fuel nesting (depth + 1) m.2)
    (hk : ms.length < k) :
    members (value fuel nesting) k
        (quoted name ++
          ':' :: ' ' :: (prettyAt (depth + 1) j ++ (prettyMembers depth ms ++ rest))) =
      some ((name, j) :: ms, rest) := by
  induction ms generalizing name j k with
  | nil =>
    obtain ⟨k, rfl⟩ := Nat.exists_eq_succ_of_ne_zero (Nat.ne_zero_of_lt hk)
    have hj := h (name, j) (by simp) _ (endsNumber_prettyMembers_append depth [] rest)
    refine members_last hj (skipSpace_of_value hj) ?_ k
    rw [prettyMembers, List.append_assoc, skipSpace_newLine_append]
    rfl
  | cons m ms ih =>
    obtain ⟨other, i⟩ := m
    obtain ⟨k, rfl⟩ := Nat.exists_eq_succ_of_ne_zero (Nat.ne_zero_of_lt hk)
    have hj := h (name, j) (by simp) _
      (endsNumber_prettyMembers_append depth ((other, i) :: ms) rest)
    have hcomma : skipSpace (prettyMembers depth ((other, i) :: ms) ++ rest) =
        ',' :: (newLine (depth + 1) ++ (quoted other ++
          ':' :: ' ' :: (prettyAt (depth + 1) i ++ (prettyMembers depth ms ++ rest)))) := by
      simp only [prettyMembers, List.cons_append, List.append_assoc, List.nil_append]
      rfl
    rw [members_more hj (skipSpace_of_value hj) hcomma, skipSpace_newLine_append,
      skipSpace_quoted_append, ih (fun m hm => h m (List.mem_cons_of_mem _ hm)) (by simpa using hk)]
    rfl

end Run

/-! ### Values -/

/-- The text of items is at least as long as their number and as the text of each. -/
theorem length_prettyItems_bounds (depth : Nat) (js : List Json) :
    js.length ≤ (prettyItems depth js).length ∧
      ∀ j ∈ js, (prettyAt (depth + 1) j).length ≤ (prettyItems depth js).length := by
  induction js with
  | nil => simp
  | cons i js ih =>
    obtain ⟨hcount, heach⟩ := ih
    simp only [prettyItems, List.length_append, List.length_cons, List.forall_mem_cons]
    refine ⟨by omega, by omega, fun j hj => ?_⟩
    have := heach j hj
    omega

theorem length_prettyMembers_bounds (depth : Nat) (ms : List (String × Json)) :
    ms.length ≤ (prettyMembers depth ms).length ∧
      ∀ m ∈ ms, (prettyAt (depth + 1) m.2).length ≤ (prettyMembers depth ms).length := by
  induction ms with
  | nil => simp
  | cons i ms ih =>
    obtain ⟨hcount, heach⟩ := ih
    simp only [prettyMembers, List.length_append, List.length_cons, List.forall_mem_cons]
    refine ⟨by omega, by omega, fun m hm => ?_⟩
    have := heach m hm
    omega

theorem scalar?_quoted_append (s : String) (rest : Text) :
    scalar? (quoted s ++ rest) = some (.str s, rest) := by
  simp only [quoted_append, scalar?, stringBody_flatMap_escape, Option.map_some,
    String.ofList_toList]

section Container

variable {fuel nesting depth : Nat}

theorem value_bracket {t u : Text} (hspace : skipSpace t = u) (hu : ∀ rest, u ≠ ']' :: rest) :
    value fuel (nesting + 1) ('[' :: t) =
      (items (value fuel nesting) fuel u).map fun (js, rest) => (.arr js, rest) := by
  simp only [value, hspace]

theorem value_brace {t u : Text} (hspace : skipSpace t = u) (hu : ∀ rest, u ≠ '}' :: rest) :
    value fuel (nesting + 1) ('{' :: t) =
      (members (value fuel nesting) fuel u).map fun (ms, rest) =>
        (.obj (Table.ofList ms), rest) := by
  simp only [value, hspace]

theorem readBackAt_arr {js : List Json} (h : ∀ j ∈ js, ReadBackAt fuel nesting (depth + 1) j)
    (hfuel : js.length ≤ fuel) : ReadBackAt fuel (nesting + 1) depth (.arr js) := by
  intro rest _
  cases js with
  | nil => rfl
  | cons j js =>
    have hj := h j (by simp) _ (endsNumber_prettyItems_append depth js rest)
    obtain ⟨c, t, ht, -, hc⟩ := exists_cons_of_value hj
    simp only [prettyAt, List.cons_append, List.append_assoc]
    rw [value_bracket ((skipSpace_newLine_append _ _).trans (skipSpace_of_value hj)),
      items_pretty rest h hfuel]
    · rfl
    · intro rest' hbracket
      exact hc (List.cons.inj (ht.symm.trans hbracket)).1

theorem readBackAt_obj {ms : List (String × Json)} (hnames : (Table.names ms).Nodup)
    (h : ∀ m ∈ ms, ReadBackAt fuel nesting (depth + 1) m.2) (hfuel : ms.length ≤ fuel) :
    ReadBackAt fuel (nesting + 1) depth (.obj ms) := by
  intro rest _
  cases ms with
  | nil => rfl
  | cons m ms =>
    obtain ⟨name, j⟩ := m
    simp only [prettyAt, List.cons_append, List.append_assoc, List.nil_append]
    rw [value_brace ((skipSpace_newLine_append _ _).trans (skipSpace_quoted_append _ _)),
      members_pretty rest h hfuel]
    · simp only [Option.map_some, Table.ofList_of_nodup hnames]
    · intro rest' hbrace
      exact absurd (List.cons.inj hbrace).1 (by decide)

end Container

/-- A tree is read back wherever it stands. -/
theorem IsTree.readBackAt {n : Nat} {j : Json} (h : IsTree n j) {fuel depth : Nat}
    (hfuel : (prettyAt depth j).length ≤ fuel) : ReadBackAt fuel n depth j := by
  -- The fuel is the same for all items: the text of an item is a part of the whole text.
  induction h generalizing depth with
  | null => exact fun rest hrest => value_of_scalar? rfl
  | bool b => cases b <;> exact fun rest hrest => value_of_scalar? rfl
  | int hlen => exact fun rest hrest => value_of_scalar? (scalar?_decimal_append hlen hrest)
  | real hx => exact fun rest hrest => value_of_scalar? (hx rest hrest)
  | str s => exact fun rest hrest => value_of_scalar? (scalar?_quoted_append s rest)
  | @arr n js hjs ih =>
    cases js with
    | nil => exact fun rest hrest => rfl
    | cons i js =>
      -- The text of the array differs from that of its items by its first character only.
      obtain ⟨hcount, heach⟩ := length_prettyItems_bounds depth (i :: js)
      exact readBackAt_arr (fun j hj => ih j hj (Nat.le_trans (heach j hj) hfuel))
        (Nat.le_trans hcount hfuel)
  | @obj n ms hnames hms ih =>
    cases ms with
    | nil => exact fun rest hrest => rfl
    | cons i ms =>
      obtain ⟨hcount, heach⟩ := length_prettyMembers_bounds depth (i :: ms)
      exact readBackAt_obj hnames (fun m hm => ih m hm (Nat.le_trans (heach m hm) hfuel))
        (Nat.le_trans hcount hfuel)

/-- A tree is read back from its written form. -/
theorem parse?_pretty {j : Json} (h : IsTree maxNesting j) : parse? (pretty j) = some j := by
  have hread := h.readBackAt (Nat.le_refl (pretty j).length) [] endsNumber_nil
  change value (pretty j).length maxNesting (pretty j ++ []) = some (j, []) at hread
  rw [List.append_nil] at hread
  rw [parse?, skipSpace_of_value hread, hread]
  rfl

end MarcLens.Json

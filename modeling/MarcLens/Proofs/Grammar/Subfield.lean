import MarcLens.Proofs.Draft.Subfield

/-!
# The markers of subfields

Subfields are found by their markers alone. Every marker in the data starts a subfield, which
reaches up to the next dollar sign, and nothing else does. A dollar sign that is no marker ends the
subfield in front of it, and the text behind it belongs to none.

## Main definitions

- `Subfield.markers`: the positions of the markers in a text
- `Subfield.nextDollar`: where the subfield of a marker ends
- `Subfield.atMarker`: the subfield of a marker
- `Subfield.searchFrom`: the search for subfields that goes on behind each one it finds

## Main statements

- `Subfield.scan_eq_map_atMarker`: scanning finds the subfields of all markers, in their order
- `Subfield.searchFrom_eq_scanFrom`: going on behind a subfield misses no marker
-/

namespace MarcLens.Subfield

variable {t : Text} {i j : Nat}

/-- A dollar sign with the code of a subfield behind it. -/
def isMarkerAt (t : Text) (i : Nat) : Bool := t[i]? = some '$' && t[i + 1]?.any isSubfieldCode

/-- The positions of the markers in a text. -/
def markers (t : Text) : List Nat := (List.range t.length).filter (isMarkerAt t)

/-- The position of the next dollar sign behind a position, or the end of the text. -/
def nextDollar (t : Text) (i : Nat) : Nat := i + 1 + (t.drop (i + 1)).idxOf '$'

/-- The subfield of the marker at a position. -/
def atMarker (t : Text) (i : Nat) : Subfield :=
  { code := t[i + 1]?.toList
    content := Text.trimRight ((t.take (nextDollar t i)).drop (i + 2))
    start := i
    stop := nextDollar t i }

/-- A search for subfields that goes on behind each subfield that it finds. -/
def searchFrom (offset : Nat) : Text → List Subfield
  | [] => []
  | c :: cs =>
    match ofMarker? offset c cs with
    | none => searchFrom (offset + 1) cs
    | some s => s :: searchFrom s.stop.toNat (cs.drop (s.stop.toNat - (offset + 1)))
termination_by t => t.length
decreasing_by
  · simp
  · simp only [List.length_drop, List.length_cons]
    omega

/-! ### The next dollar sign -/

theorem length_takeWhile_ne_dollar (t : Text) :
    (t.takeWhile (· ≠ '$')).length = t.idxOf '$' := by
  induction t with
  | nil => rfl
  | cons c cs ih =>
    by_cases hc : c = '$'
    · simp [hc]
    · rw [List.takeWhile_cons_of_pos (by simpa using hc), List.length_cons, ih,
        List.idxOf_cons_ne _ hc]

theorem takeWhile_ne_dollar (t : Text) : t.takeWhile (· ≠ '$') = t.take (t.idxOf '$') := by
  rw [← length_takeWhile_ne_dollar]
  exact List.prefix_iff_eq_take.1 (List.takeWhile_prefix _)

theorem lt_nextDollar (t : Text) (i : Nat) : i < nextDollar t i := by
  rw [nextDollar]
  omega

theorem nextDollar_le_length (h : i < t.length) : nextDollar t i ≤ t.length := by
  have hle : (t.drop (i + 1)).idxOf '$' ≤ (t.drop (i + 1)).length := List.idxOf_le_length
  rw [List.length_drop] at hle
  rw [nextDollar]
  omega

theorem idxOf_dollar_le (h : t[j]? = some '$') : t.idxOf '$' ≤ j := by
  by_contra hlt
  have hne := List.not_of_lt_findIdx (Nat.not_le.1 hlt)
  obtain ⟨_, hj⟩ := List.getElem?_eq_some_iff.1 h
  simp [hj] at hne

/-- No dollar sign is passed over. -/
theorem nextDollar_le (hij : i < j) (hj : t[j]? = some '$') : nextDollar t i ≤ j := by
  have hdrop : (t.drop (i + 1))[j - (i + 1)]? = some '$' := by
    rw [List.getElem?_drop, ← hj]
    congr 1
    omega
  have hle := idxOf_dollar_le hdrop
  rw [nextDollar]
  omega

theorem nextDollar_eq_length_or (h : i < t.length) :
    nextDollar t i = t.length ∨ t[nextDollar t i]? = some '$' := by
  rw [nextDollar]
  by_cases hmem : '$' ∈ t.drop (i + 1)
  · right
    have hlt := List.idxOf_lt_length_of_mem hmem
    rw [← List.getElem?_drop, List.getElem?_eq_getElem hlt, List.getElem_idxOf hlt]
  · left
    rw [List.idxOf_eq_length hmem, List.length_drop]
    omega

/-! ### Scanning by markers -/

theorem isMarkerAt_iff :
    isMarkerAt t i ↔ t[i]? = some '$' ∧ ∃ c, t[i + 1]? = some c ∧ isSubfieldCode c := by
  rw [isMarkerAt, Bool.and_eq_true, decide_eq_true_eq, Option.any_eq_true]

theorem mem_markers_iff : i ∈ markers t ↔ isMarkerAt t i := by
  rw [markers, List.mem_filter, List.mem_range]
  refine and_iff_right_of_imp ?_
  intro h
  exact (List.getElem?_eq_some_iff.1 (isMarkerAt_iff.1 h).1).1

theorem pairwise_markers (t : Text) : (markers t).Pairwise (· < ·) :=
  List.pairwise_lt_range.filter _

/-- Scanning looks at one position after the other. -/
theorem scanFrom_eq_filterMap (offset : Nat) (t : Text) :
    scanFrom offset t =
      (List.range t.length).filterMap fun i =>
        t[i]?.bind fun c => ofMarker? (offset + i) c (t.drop (i + 1)) := by
  induction t generalizing offset with
  | nil => rfl
  | cons c cs ih =>
    have hshift : (fun i => cs[i]?.bind fun d => ofMarker? (offset + 1 + i) d (cs.drop (i + 1))) =
        (fun i => (c :: cs)[i]?.bind fun d =>
          ofMarker? (offset + i) d ((c :: cs).drop (i + 1))) ∘ Nat.succ := by
      funext i
      simp [Nat.add_assoc, Nat.add_comm 1 i]
    rw [scanFrom, ih, List.length_cons, List.range_succ_eq_map, List.filterMap_cons,
      List.filterMap_map, hshift]
    cases hmarker : ofMarker? offset c cs <;> simp [hmarker]

/-- The codes are the lower case letters and the digits of ASCII. -/
theorem isSubfieldCode_iff {c : Char} :
    isSubfieldCode c ↔ 'a' ≤ c ∧ c ≤ 'z' ∨ '0' ≤ c ∧ c ≤ '9' := by
  change ((decide ('a'.val ≤ c.val) && decide (c.val ≤ 'z'.val)) ||
    (decide ('0'.val ≤ c.val) && decide (c.val ≤ '9'.val))) = true ↔ _
  simp only [Bool.or_eq_true, Bool.and_eq_true, decide_eq_true_eq]
  rfl

theorem ne_dollar_of_isSubfieldCode {c : Char} (h : isSubfieldCode c) : c ≠ '$' := by
  rintro rfl
  exact absurd h (by decide)

/-- Behind a marker, everything in front of the next dollar sign is content. -/
theorem atMarker_eq {code : Char} {tail : Text} (hdrop : t.drop (i + 1) = code :: tail)
    (hcode : isSubfieldCode code) :
    atMarker t i =
      { code := [code], content := Text.trimRight (tail.takeWhile (· ≠ '$')), start := i
        stop := i + 2 + (tail.takeWhile (· ≠ '$')).length } := by
  have hget : t[i + 1]? = some code := by
    rw [← List.head?_drop, hdrop]
    rfl
  have htail : t.drop (i + 1 + 1) = tail := by
    rw [← List.drop_drop, hdrop]
    rfl
  have hstop : nextDollar t i = i + 2 + (tail.takeWhile (· ≠ '$')).length := by
    rw [nextDollar, hdrop, List.idxOf_cons_ne _ (ne_dollar_of_isSubfieldCode hcode),
      length_takeWhile_ne_dollar]
    omega
  have hcontent : (t.take (nextDollar t i)).drop (i + 2) = tail.takeWhile (· ≠ '$') := by
    rw [List.drop_take, htail, hstop, Nat.add_sub_cancel_left, length_takeWhile_ne_dollar,
      takeWhile_ne_dollar]
  rw [atMarker, hget, hcontent, hstop]
  simp

/-- At each position stands the subfield of a marker, or nothing. -/
theorem ofMarker?_eq (t : Text) (i : Nat) :
    (t[i]?.bind fun c => ofMarker? i c (t.drop (i + 1))) =
      if isMarkerAt t i then some (atMarker t i) else none := by
  cases hi : t[i]? with
  | none => simp [isMarkerAt, hi]
  | some c =>
    rw [Option.bind_some]
    have hhead : (t.drop (i + 1)).head? = t[i + 1]? := List.head?_drop
    cases hdrop : t.drop (i + 1) with
    | nil =>
      rw [hdrop] at hhead
      simp [ofMarker?, isMarkerAt, ← hhead]
    | cons code tail =>
      have hmarker : isMarkerAt t i ↔ c = '$' ∧ isSubfieldCode code := by
        rw [hdrop] at hhead
        simp [isMarkerAt, hi, ← hhead]
      simp only [ofMarker?, hmarker]
      split
      · next hc => rw [atMarker_eq hdrop hc.2]
      · rfl

/-- Scanning finds the subfields of all markers, in the order of the markers. -/
theorem scan_eq_map_atMarker (t : Text) : scan t = (markers t).map (atMarker t) := by
  rw [scan, scanFrom_eq_filterMap, markers, ← List.filterMap_eq_map', List.filterMap_filter]
  simp only [Nat.zero_add, ofMarker?_eq]

theorem mem_scan_iff {s : Subfield} : s ∈ scan t ↔ ∃ i, isMarkerAt t i ∧ atMarker t i = s := by
  simp only [scan_eq_map_atMarker, List.mem_map, mem_markers_iff]

/-! ### Spans and contents -/

/-- The subfields stand one behind the other. -/
theorem pairwise_scan (t : Text) : (scan t).Pairwise fun s u => s.stop ≤ u.start := by
  rw [scan_eq_map_atMarker, List.pairwise_map]
  apply (pairwise_markers t).imp_of_mem
  intro i j _ hj hij
  have hdollar := (isMarkerAt_iff.1 (mem_markers_iff.1 hj)).1
  exact Int.ofNat_le.2 (nextDollar_le hij hdollar)

theorem span_of_mem_scan {s : Subfield} (h : s ∈ scan t) :
    0 ≤ s.start ∧ s.start < s.stop ∧ s.stop ≤ t.length := by
  obtain ⟨i, hi, rfl⟩ := mem_scan_iff.1 h
  have hlt := (List.getElem?_eq_some_iff.1 (isMarkerAt_iff.1 hi).1).1
  exact ⟨Int.natCast_nonneg i, Int.ofNat_lt.2 (lt_nextDollar t i),
    Int.ofNat_le.2 (nextDollar_le_length hlt)⟩

/-- What a subfield has that is found by scanning. -/
theorem exists_of_mem_scan {s : Subfield} (h : s ∈ scan t) :
    ∃ code raw, s.code = [code] ∧ s.content = Text.trimRight raw ∧ isSubfieldCode code ∧
      '$' ∉ raw ∧ raw ⊆ t := by
  obtain ⟨i, hi, rfl⟩ := mem_scan_iff.1 h
  obtain ⟨-, code, hget, hcode⟩ := isMarkerAt_iff.1 hi
  cases hdrop : t.drop (i + 1) with
  | nil => simp [← List.head?_drop, hdrop] at hget
  | cons code' tail =>
    obtain rfl : code' = code := by simpa [← List.head?_drop, hdrop] using hget
    rw [atMarker_eq hdrop hcode]
    refine ⟨code', tail.takeWhile (· ≠ '$'), rfl, rfl, hcode, ?_, ?_⟩
    · intro hmem
      simpa using List.mem_takeWhile_imp hmem
    · intro c hc
      have htail : c ∈ t.drop (i + 1) := by
        rw [hdrop]
        exact List.mem_cons_of_mem code' ((List.takeWhile_prefix _).subset hc)
      exact List.mem_of_mem_drop htail

theorem dollar_notMem_of_mem_scan {s : Subfield} (h : s ∈ scan t) : '$' ∉ s.content := by
  obtain ⟨code, raw, -, hcontent, -, hdollar, -⟩ := exists_of_mem_scan h
  rw [hcontent]
  exact fun hmem => hdollar ((Text.trimRight_isPrefix raw).subset hmem)

/-- A dollar sign that is no marker ends the subfield in front of it, and up to the next dollar sign
    nothing belongs to a subfield. -/
theorem not_meets_of_not_isMarkerAt (hi : t[i]? = some '$') (hmarker : ¬isMarkerAt t i)
    {s : Subfield} (h : s ∈ scan t) : s.stop ≤ i ∨ nextDollar t i ≤ s.start := by
  obtain ⟨j, hj, rfl⟩ := mem_scan_iff.1 h
  have hdollar := (isMarkerAt_iff.1 hj).1
  rcases Nat.lt_trichotomy j i with hji | rfl | hij
  · exact Or.inl (Int.ofNat_le.2 (nextDollar_le hji hi))
  · exact absurd hj hmarker
  · exact Or.inr (Int.ofNat_le.2 (nextDollar_le hij hdollar))

/-! ### Going on behind a subfield -/

/-- Inside a subfield there is no other marker. -/
theorem scanFrom_of_ofMarker? {offset : Nat} {c : Char} {cs : Text} {s : Subfield}
    (h : ofMarker? offset c cs = some s) :
    scanFrom (offset + 1) cs =
      scanFrom s.stop.toNat (cs.drop (s.stop.toNat - (offset + 1))) := by
  cases cs with
  | nil => cases h
  | cons code tail =>
    rw [ofMarker?, Option.ite_none_right_eq_some] at h
    obtain ⟨⟨-, hcode⟩, h⟩ := h
    obtain rfl := Option.some.inj h
    have hdollar : '$' ∉ code :: tail.takeWhile (· ≠ '$') := by
      intro hmem
      rcases List.mem_cons.1 hmem with hmem | hmem
      · exact ne_dollar_of_isSubfieldCode hcode hmem.symm
      · simpa using List.mem_takeWhile_imp hmem
    have hsplit : code :: tail.takeWhile (· ≠ '$') ++ tail.dropWhile (· ≠ '$') = code :: tail := by
      rw [List.cons_append, List.takeWhile_append_dropWhile]
    have hstop : ((offset : Int) + 2 + (tail.takeWhile (· ≠ '$')).length).toNat =
        offset + 1 + (code :: tail.takeWhile (· ≠ '$')).length := by
      rw [List.length_cons]
      omega
    dsimp only
    rw [hstop, Nat.add_sub_cancel_left, ← hsplit, List.drop_left,
      scanFrom_append_of_dollar_notMem hdollar]

/-- No marker is missed and none is found twice by a search that goes on behind each subfield. -/
theorem searchFrom_eq_scanFrom (offset : Nat) (t : Text) :
    searchFrom offset t = scanFrom offset t := by
  fun_induction searchFrom offset t with
  | case1 => rfl
  | case2 offset c cs hmarker ih => rw [ih, scanFrom, hmarker, Option.toList_none, List.nil_append]
  | case3 offset c cs s hmarker ih =>
    rw [ih, scanFrom, hmarker, scanFrom_of_ofMarker? hmarker]
    rfl

/-- Scanning finds exactly the markers. The subfields stand one to one and in order for the
    positions with a dollar sign and a code behind it, and each reaches up to the next dollar sign
    or the end. So their spans follow one another, their contents hold no dollar sign, and where a
    dollar sign is no marker, nothing up to the next one belongs to a subfield. A search that goes
    on behind each subfield finds the same. -/
theorem scan_finds_markers (t : Text) :
    scan t = (markers t).map (atMarker t) ∧
    (∀ i, i ∈ markers t ↔
      t[i]? = some '$' ∧
        ∃ c, t[i + 1]? = some c ∧ ('a' ≤ c ∧ c ≤ 'z' ∨ '0' ≤ c ∧ c ≤ '9')) ∧
    (markers t).Pairwise (· < ·) ∧
    (∀ i, i < t.length →
      i < nextDollar t i ∧ (∀ j, i < j → t[j]? = some '$' → nextDollar t i ≤ j) ∧
        (nextDollar t i = t.length ∨ t[nextDollar t i]? = some '$')) ∧
    ((scan t).Pairwise fun s u => s.stop ≤ u.start) ∧
    (∀ s ∈ scan t, 0 ≤ s.start ∧ s.start < s.stop ∧ s.stop ≤ t.length ∧ '$' ∉ s.content) ∧
    (∀ i, t[i]? = some '$' → i ∉ markers t →
      ∀ s ∈ scan t, s.stop ≤ i ∨ nextDollar t i ≤ s.start) ∧
    searchFrom 0 t = scan t := by
  refine ⟨scan_eq_map_atMarker t, ?_, pairwise_markers t, ?_, pairwise_scan t, ?_, ?_,
    searchFrom_eq_scanFrom 0 t⟩
  · intro i
    simp only [mem_markers_iff, isMarkerAt_iff, isSubfieldCode_iff]
  · intro i hi
    exact ⟨lt_nextDollar t i, fun j => nextDollar_le, nextDollar_eq_length_or hi⟩
  · intro s hs
    obtain ⟨hstart, hspan, hstop⟩ := span_of_mem_scan hs
    exact ⟨hstart, hspan, hstop, dollar_notMem_of_mem_scan hs⟩
  · intro i hi hmarker s hs
    rw [mem_markers_iff] at hmarker
    exact not_meets_of_not_isMarkerAt hi hmarker hs

/-- Of the four dollar signs here the second is no marker, and the last one neither. -/
example : (scan "$ab $$c $".toList).map (fun s => (s.code, s.content, s.start, s.stop)) =
    [(['a'], ['b'], 0, 4), (['c'], [], 5, 8)] := by
  decide

end MarcLens.Subfield

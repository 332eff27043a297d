import MarcLens.Field.Complaint
import MarcLens.Proofs.Text

/-!
# Drafts of subfields

A draft is what a cataloguer means to write. A subfield is written as a dollar sign, its code, its
content and any blanks, and scanning what is written finds the subfields again.

## Main definitions

- `Draft.Subfield`: a subfield to be written
- `Draft.Subfield.written`: the characters that it takes in a line
- `Draft.Subfield.layout`: where subfields stand that are written one after the other
-/

namespace MarcLens

theorem not_isBlank_of_isSubfieldCode {c : Char} (h : isSubfieldCode c) : ¬isBlank c := by
  have hc : 0x30 ≤ c.toNat ∧ c.toNat ≤ 0x7A := by
    rw [isSubfieldCode, Bool.or_eq_true] at h
    rcases h with h | h
    · change (decide ('a'.val ≤ c.val) && decide (c.val ≤ 'z'.val)) = true at h
      rw [Bool.and_eq_true, decide_eq_true_eq, decide_eq_true_eq] at h
      exact ⟨le_trans (by decide) (UInt32.le_iff_toNat_le.1 h.1), UInt32.le_iff_toNat_le.1 h.2⟩
    · rw [Char.isDigit_iff_toNat] at h
      exact ⟨h.1, le_trans h.2 (by decide)⟩
  have hranges : ∀ r ∈ blankRanges, r.2 < 0x30 ∨ 0x7A < r.1 := by decide
  rw [isBlank_iff]
  rintro ⟨r, hr, hle⟩
  have := hranges r hr
  omega

namespace Subfield

/-- Text without dollar signs holds no markers. -/
theorem scanFrom_append_of_dollar_notMem {t : Text} (h : '$' ∉ t) (offset : Nat) (rest : Text) :
    scanFrom offset (t ++ rest) = scanFrom (offset + t.length) rest := by
  induction t generalizing offset with
  | nil => rfl
  | cons c t ih =>
    have hc : c ≠ '$' := fun hc => h (by simp [hc])
    have hmarker : ofMarker? offset c (t ++ rest) = none := by
      cases t ++ rest <;> simp [ofMarker?, hc]
    rw [List.cons_append, scanFrom, hmarker, ih (fun ht => h (by simp [ht])), List.length_cons]
    simp [Nat.add_assoc, Nat.add_comm 1]

end Subfield

namespace Draft

/-- A subfield to be written, with the blanks that follow its content in the line. -/
structure Subfield where
  code : Char
  content : Text
  pad : Text := []
  isCode : isSubfieldCode code := by decide
  dollar_notMem : '$' ∉ content := by decide
  newline_notMem : '\n' ∉ content := by decide
  not_endsBlank : ¬content.endsBlank := by decide
  isVoid_pad : pad.isVoid := by decide
  newline_notMem_pad : '\n' ∉ pad := by decide

namespace Subfield

/-- The characters of a subfield in its line. -/
def written (s : Subfield) : Text := '$' :: s.code :: (s.content ++ s.pad)

/-- A subfield with nothing behind its content. -/
def bare (s : Subfield) : Subfield :=
  { s with pad := [], isVoid_pad := rfl, newline_notMem_pad := List.not_mem_nil }

/-- Subfields of which the last has nothing behind its content. -/
def bareEnd : List Subfield → List Subfield
  | [] => []
  | [s] => [s.bare]
  | s :: ss => s :: bareEnd ss

/-- Subfields written one after the other, the first of them at `offset`. -/
def layout (offset : Nat) : List Subfield → List MarcLens.Subfield
  | [] => []
  | s :: ss =>
    { code := [s.code], content := s.content, start := offset, stop := offset + s.written.length }
      :: layout (offset + s.written.length) ss

theorem length_written (s : Subfield) : s.written.length = 2 + (s.content ++ s.pad).length := by
  rw [written, List.length_cons, List.length_cons]
  omega

theorem dollar_notMem_tail (s : Subfield) : '$' ∉ s.content ++ s.pad := by
  intro h
  rcases List.mem_append.1 h with h | h
  · exact s.dollar_notMem h
  · exact absurd (Text.isVoid_iff.1 s.isVoid_pad _ h) (by decide)

theorem newline_notMem_written (s : Subfield) : '\n' ∉ s.written := by
  have hcode : '\n' ≠ s.code := by
    intro h
    exact absurd s.isCode (by rw [← h]; decide)
  simp [written, hcode, s.newline_notMem, s.newline_notMem_pad]

theorem trimRight_tail (s : Subfield) : Text.trimRight (s.content ++ s.pad) = s.content := by
  rw [Text.trimRight_append_of_isVoid _ s.isVoid_pad, Text.trimRight_eq_self s.not_endsBlank]

theorem trimRight_written (s : Subfield) : Text.trimRight s.written = s.bare.written := by
  rw [written, Text.trimRight_cons_of_not_isBlank (by decide),
    Text.trimRight_cons_of_not_isBlank (not_isBlank_of_isSubfieldCode s.isCode), s.trimRight_tail]
  simp [written, bare]

/-- One written subfield is scanned in one go if a dollar sign or nothing follows it. -/
theorem scanFrom_written_append (s : Subfield) {rest : Text} (hrest : ∀ c ∈ rest.head?, c = '$')
    (offset : Nat) :
    Subfield.scanFrom offset (s.written ++ rest) =
      { code := [s.code], content := s.content, start := offset
        stop := offset + s.written.length } ::
        Subfield.scanFrom (offset + s.written.length) rest := by
  have htake : (s.content ++ s.pad ++ rest).takeWhile (· ≠ '$') = s.content ++ s.pad := by
    have hstop : rest.takeWhile (· ≠ '$') = [] := by
      cases rest with
      | nil => rfl
      | cons c rest => simp [hrest c rfl]
    rw [List.takeWhile_append_of_pos, hstop, List.append_nil]
    intro c hc
    simpa using ne_of_mem_of_not_mem hc s.dollar_notMem_tail
  have hcode : '$' ∉ s.code :: (s.content ++ s.pad) := by
    intro h
    rcases List.mem_cons.1 h with h | h
    · exact absurd s.isCode (by rw [← h]; decide)
    · exact s.dollar_notMem_tail h
  have hmarker : Subfield.ofMarker? offset '$' (s.code :: (s.content ++ s.pad ++ rest)) =
      some { code := [s.code], content := s.content, start := offset
             stop := offset + s.written.length } := by
    rw [Subfield.ofMarker?, if_pos ⟨rfl, s.isCode⟩, htake, length_written]
    simp only [s.trimRight_tail, Int.natCast_add, Int.add_assoc]
    rfl
  -- The scan goes on behind the dollar sign, and finds no other marker inside the subfield.
  have hskip : Subfield.scanFrom (offset + 1) (s.code :: (s.content ++ s.pad ++ rest)) =
      Subfield.scanFrom (offset + s.written.length) rest := by
    rw [← List.cons_append, MarcLens.Subfield.scanFrom_append_of_dollar_notMem hcode,
      length_written, List.length_cons]
    congr 1
    omega
  have hwritten : s.written ++ rest = '$' :: s.code :: (s.content ++ s.pad ++ rest) := by
    simp [written]
  rw [hwritten, Subfield.scanFrom, hmarker, hskip]
  rfl

section List

variable {ss : List Subfield}

theorem head?_flatMap_written (ss : List Subfield) :
    ∀ c ∈ (ss.flatMap written).head?, c = '$' := by
  cases ss with
  | nil => simp
  | cons s ss => simp [written]

theorem newline_notMem_flatMap_written (ss : List Subfield) : '\n' ∉ ss.flatMap written := by
  intro h
  obtain ⟨s, -, hs⟩ := List.mem_flatMap.1 h
  exact s.newline_notMem_written hs

/-- Scanning finds written subfields again, each where it stands. -/
theorem scanFrom_flatMap_written (offset : Nat) (ss : List Subfield) :
    Subfield.scanFrom offset (ss.flatMap written) = layout offset ss := by
  induction ss generalizing offset with
  | nil => rfl
  | cons s ss ih =>
    rw [List.flatMap_cons, s.scanFrom_written_append (head?_flatMap_written ss), ih, layout]

theorem not_isVoid_flatMap_written (h : ss ≠ []) : ¬Text.isVoid (ss.flatMap written) := by
  obtain ⟨s, ss, rfl⟩ := List.exists_cons_of_ne_nil h
  rw [Text.isVoid_iff]
  intro hblank
  exact absurd (hblank '$' (by simp [written])) (by decide)

/-- Trimming the end of written subfields removes what follows the content of the last one. -/
theorem trimRight_flatMap_written (ss : List Subfield) :
    Text.trimRight (ss.flatMap written) = (bareEnd ss).flatMap written := by
  fun_induction bareEnd ss with
  | case1 => rfl
  | case2 s => simpa using s.trimRight_written
  | case3 s ss hss ih =>
    rw [List.flatMap_cons, List.flatMap_cons, ← ih]
    exact Text.trimRight_append (Or.inr (not_isVoid_flatMap_written hss))

theorem bareEnd_ne_nil (h : ss ≠ []) : bareEnd ss ≠ [] := by
  fun_cases bareEnd ss <;> simp_all

/-- No written subfield is complained about. -/
theorem codeFits_of_mem_layout {offset : Nat} :
    ∀ s ∈ layout offset ss, codeFits s.code := by
  induction ss generalizing offset with
  | nil => simp [layout]
  | cons s ss ih =>
    intro t ht
    rcases List.mem_cons.1 ht with rfl | ht
    · exact s.isCode
    · exact ih t ht

end List

end Subfield

end Draft

end MarcLens

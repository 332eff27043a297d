import MarcLens.Proofs.Acceptance
import MarcLens.Proofs.Shape

/-!
# One verdict a line

The diagnostics of a document are one verdict after the other, at most one for a line. Although a
field can be complained about in several ways, only one of them applies to a field that was read
from a line.

## Main definitions

- `Diagnostic.judged?`: the verdict on a line

## Main statements

- `Diagnostic.toList_judged?`: the diagnostics of a line are its verdict
-/

namespace MarcLens.Diagnostic

/-- The verdict on the line with the given number, counted from 0. A void line gets none. A line
    that does not look like a field, or that cannot be read, is an error. A data field without
    subfields is worth a warning, and nothing is wrong with any other field. -/
def judged? (fmt : Format) (l : Text) (number : Nat) : Option Diagnostic :=
  let range : Range := ⟨⟨number, 0⟩, ⟨number, l.length⟩⟩
  if l.isVoid then none
  else if ¬fmt.looksLikeField l then some ⟨range, .error, "Invalid MARC line format"⟩
  else
    match fmt.field? l (number + 1) with
    | none => some ⟨range, .error, "Invalid MARC line format"⟩
    | some f =>
      if f.kind = .data ∧ f.subfieldList = [] then
        some ⟨range, .warning, "Data field " ++ String.ofList f.tag ++ " must contain subfields"⟩
      else none

variable {fmt : Format} {l : Text} {number : Nat}

theorem toList_judged? (fmt : Format) (l : Text) (number : Nat) :
    (judged? fmt l number).toList = ofLine fmt l number := by
  rw [judged?, ofLine]
  split
  · rfl
  · rw [verdict]
    by_cases hlooks : fmt.looksLikeField l
    · rw [if_neg (not_not.2 hlooks), if_pos hlooks]
      cases hfield : fmt.field? l (number + 1) with
      | none => rfl
      | some f =>
        simp only [(Format.isRead_of_field? hfield).complaints_eq]
        split <;> rfl
    · rw [if_pos hlooks, if_neg hlooks]
      rfl

theorem line_eq_of_judged? {d : Diagnostic} (h : judged? fmt l number = some d) :
    d.range.start.line = number := by
  have hmem : d ∈ ofLine fmt l number := by
    rw [← toList_judged?, h]
    exact List.mem_singleton_self d
  exact line_eq_of_mem_ofLine hmem

/-- The diagnostics of a document are the verdicts on its lines, in the order of the lines: at most
    one for each line, and the lines grow. No field that can be read, in either format, has an
    indicator that is too long or a subfield code that is not allowed: the only complaint about it
    is that a data field has no subfields. -/
theorem ofDocument_eq_verdicts (document : Text) :
    ofDocument document =
        (document.lines.zipIdx.filterMap fun (l, i) => judged? (Format.detect document) l i) ∧
      (ofDocument document).Pairwise (fun d e => d.range.start.line < e.range.start.line) ∧
      ∀ (fmt : Format) (l : Text) (n : Int) (f : Field), fmt.field? l n = some f →
        f.complaints = if f.kind = .data ∧ f.subfieldList = [] then [.noSubfields] else [] := by
  have heq : ofDocument document =
      document.lines.zipIdx.filterMap fun (l, i) => judged? (Format.detect document) l i := by
    rw [ofDocument, List.filterMap_eq_flatMap_toList]
    apply List.flatMap_congr
    rintro ⟨l, i⟩ -
    exact (toList_judged? _ l i).symm
  refine ⟨heq, ?_, ?_⟩
  · -- A verdict carries the number of its line, and these numbers grow.
    rw [heq, List.pairwise_filterMap]
    have hnumbers : document.lines.zipIdx.Pairwise fun x y => x.2 < y.2 := by
      rw [← List.pairwise_map, List.zipIdx_map_snd]
      exact List.pairwise_lt_range'
    refine hnumbers.imp ?_
    rintro ⟨l, i⟩ ⟨m, j⟩ hij d hd e he
    rw [line_eq_of_judged? hd, line_eq_of_judged? he]
    exact Int.ofNat_lt.2 hij
  · intro fmt l n f hf
    exact (Format.isRead_of_field? hf).complaints_eq

end MarcLens.Diagnostic

/-!
# Text

Documents, lines and parts of lines are lists of characters, so a length counts characters and a
position is the number of characters before it.

## Main definitions

- `Text`: a list of characters
- `Text.lines`: the lines of a document
- `Text.find?`, `Text.occurrences`: where one text stands in another
- `Text.slice`: a part of a text, with bounds that may count from its end
-/

namespace MarcLens

/-- The characters of a document, of a line or of a part of a line. -/
abbrev Text := List Char

namespace Text

/-- The lines of a document. Only a line feed ends a line, and it belongs to no line, so a
    document with `n` line feeds has `n + 1` lines. -/
def lines : Text → List Text
  | [] => [[]]
  | c :: cs =>
    if c = '\n' then [] :: lines cs
    else match lines cs with
      | [] => [[c]]
      | l :: ls => (c :: l) :: ls

theorem lines_ne_nil (t : Text) : lines t ≠ [] := by
  cases t with
  | nil => simp [lines]
  | cons c cs => grind [lines]

/-- No line holds a line feed. -/
theorem newline_notMem_of_mem_lines {t l : Text} (h : l ∈ lines t) : '\n' ∉ l := by
  induction t generalizing l with
  | nil => simp_all [lines]
  | cons c cs ih =>
    simp only [lines] at h
    split at h
    · rcases List.mem_cons.1 h with rfl | h
      · simp
      · exact ih h
    · next hc =>
      split at h
      · next hnil => exact absurd hnil (lines_ne_nil cs)
      · next m ms hlines =>
        rcases List.mem_cons.1 h with rfl | h
        · have hm := ih (l := m) (by simp [hlines])
          simp [hm, Ne.symm hc]
        · exact ih (by simp [hlines, h])

/-- The lines of a document, joined by line feeds, are the document. -/
theorem intercalate_lines (t : Text) : ['\n'].intercalate (lines t) = t := by
  induction t with
  | nil => simp [lines]
  | cons c cs ih =>
    simp only [lines]
    split
    · next hc =>
      subst hc
      cases hl : lines cs with
      | nil => exact absurd hl (lines_ne_nil cs)
      | cons m ms => simp_all [List.intercalate]
    · split
      · next hnil => exact absurd hnil (lines_ne_nil cs)
      · next m ms hl =>
        rw [hl] at ih
        cases ms <;> simp_all [List.intercalate]

/-- The first position at which `part` stands in a text. The empty text stands at the start. -/
def find? (part : Text) : Text → Option Nat
  | [] => if part = [] then some 0 else none
  | c :: cs => if part.isPrefixOf (c :: cs) then some 0 else (find? part cs).map (· + 1)

/-- The occurrences of `part` from left to right that do not overlap, as positions counted from
    `offset`; the next `skip` characters belong to the occurrence found before them. -/
def occurrencesFrom (part : Text) (offset skip : Nat) : Text → List Nat
  | [] => []
  | c :: cs =>
    match skip with
    | k + 1 => occurrencesFrom part (offset + 1) k cs
    | 0 =>
      if part.isPrefixOf (c :: cs) then
        offset :: occurrencesFrom part (offset + 1) (part.length - 1) cs
      else occurrencesFrom part (offset + 1) 0 cs

/-- The positions at which a non-empty `part` stands in a text, from left to right without
    overlap. -/
def occurrences (part text : Text) : List Nat := occurrencesFrom part 0 0 text

/-- A bound inside a text of length `n`: a negative bound counts from the end, and a bound outside
    the text is moved to the nearer end. -/
def clampBound (n : Nat) (i : Int) : Nat :=
  min n (if i < 0 then i + n else i).toNat

/-- The characters of `t` from `start` up to `stop`, which is not included. -/
def slice (t : Text) (start stop : Int) : Text :=
  (t.take (clampBound t.length stop)).drop (clampBound t.length start)

/-- The characters of `t` from `start` on. -/
def sliceFrom (t : Text) (start : Int) : Text := t.drop (clampBound t.length start)

end Text

end MarcLens

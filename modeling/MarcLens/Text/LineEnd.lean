import MarcLens.Text.Blank

/-!
# Ends of lines

The two ways in which the readers of both formats take what is left of a line.

## Main definitions

- `Text.upToEnd`: everything up to the end of the line
- `Text.afterBlanks`: a run of blanks and what follows it
-/

namespace MarcLens.Text

/-- All of a text that holds no line feed. One line feed at the very end is allowed, and left out.
    -/
def upToEnd (t : Text) : Option Text :=
  let body := t.takeWhile (· ≠ '\n')
  let rest := t.drop body.length
  if rest = [] ∨ rest = ['\n'] then some body else none

/-- Like `upToEnd`, but there has to be something. -/
def contentUpToEnd (t : Text) : Option Text := (upToEnd t).filter (! ·.isEmpty)

/-- Takes at least one blank and hands what follows to `accept`. The run of blanks is as long as it
    can be: it gives up its last blank only when `accept` refuses what follows. -/
def afterBlanks {α : Type} (accept : Text → Option α) : Text → Option α
  | [] => none
  | c :: cs =>
    if isBlank c then
      match afterBlanks accept cs with
      | some a => some a
      | none => accept cs
    else none

end MarcLens.Text

import MarcLens.Text.Basic
import MarcLens.Text.CaseTable

/-!
# Letter case

The lower, title and upper case of characters and texts. A character may turn into several.

## Main definitions

- `caseForms?`: the three cases of a character that has case
- `Text.upper`: a text in upper case
- `Text.title`: a text with a capital at the start of every word
-/

namespace MarcLens

/-- The three cases of a character. -/
structure CaseForms where
  lower : Text
  title : Text
  upper : Text
deriving DecidableEq, Repr

namespace CaseForms

def ofCodes (lower title upper : List Nat) : CaseForms :=
  ⟨lower.map Char.ofNat, title.map Char.ofNat, upper.map Char.ofNat⟩

/-- The cases of an upper case letter and of the lower case letter that belongs to it. -/
def ofPair (upper lower : Int) : CaseForms :=
  ofCodes [lower.toNat] [upper.toNat] [upper.toNat]

/-- A character that is the same in all cases. -/
def fixed (c : Char) : CaseForms := ⟨[c], [c], [c]⟩

end CaseForms

def inCaseRun (code : Int) (run : Nat × Nat × Nat × Int) : Bool :=
  run.1 ≤ code && code ≤ run.2.1 && (code - run.1) % run.2.2.1 = 0

/-- The cases of a letter that is one of a pair. -/
def pairedForms? (code : Int) : Option CaseForms :=
  caseRuns.findSome? fun run =>
    let shift := run.2.2.2
    if inCaseRun code run then some (.ofPair code (code + shift))
    else if inCaseRun (code - shift) run then some (.ofPair (code - shift) code)
    else none

/-- The cases of a letter that is its own title case, and of the upper case letter that belongs to
    it. -/
def headlineForms? (code : Nat) : Option CaseForms :=
  headlineRuns.findSome? fun (first, last, shift) =>
    if first ≤ code ∧ code ≤ last then some (.ofCodes [code] [code] [code + shift])
    else if first + shift ≤ code ∧ code ≤ last + shift then
      some (.ofCodes [code - shift] [code] [code])
    else none

/-- The cases of a letter that fits into no run. -/
def specialForms? (code : Nat) : Option CaseForms :=
  (specialCases.lookup code).map fun (lower, title, upper) => .ofCodes lower title upper

/-- The three cases of a character, if it has case. -/
def caseForms? (c : Char) : Option CaseForms :=
  (pairedForms? c.toNat)
  |>.or (headlineForms? c.toNat)
  |>.or (specialForms? c.toNat)
  |>.or (if fixedCaseRanges.any fun r => r.1 ≤ c.toNat && c.toNat ≤ r.2 then some (.fixed c)
    else none)

def hasCase (c : Char) : Bool := (caseForms? c).isSome

/-- A character that is passed over when the end of a word is looked for. -/
def isCaseIgnorable (c : Char) : Bool :=
  caseIgnorableRanges.any fun r => r.1 ≤ c.toNat && c.toNat ≤ r.2

def caseForms (c : Char) : CaseForms := (caseForms? c).getD (.fixed c)

namespace Text

def upper (t : Text) : Text := t.flatMap fun c => (caseForms c).upper

/-- A character inside a word in lower case. A sigma at the end of a word has a form of its own: a
    letter stands before it, which `lettered` tells, and none in the text `rest` after it, where
    characters that can be ignored count neither way. -/
def lowerInside (c : Char) (lettered : Bool) (rest : Text) : Text :=
  let follows := ((rest.dropWhile isCaseIgnorable).head?.map hasCase).getD false
  if c = 'Σ' ∧ lettered ∧ !follows then ['ς'] else (caseForms c).lower

/-- Every character in lower case if the one before it has case, and in title case otherwise. Here
    `inside` tells whether the character before the text has case, and `lettered` tells this of the
    last one that cannot be ignored. -/
def titleFrom (inside lettered : Bool) : Text → Text
  | [] => []
  | c :: cs =>
    (if inside then lowerInside c lettered cs else (caseForms c).title) ++
      titleFrom (hasCase c) (if isCaseIgnorable c then lettered else hasCase c) cs

/-- A text with a capital at the start of every word, where a word is a run of characters with
    case. -/
def title (t : Text) : Text := titleFrom false false t

end Text

end MarcLens

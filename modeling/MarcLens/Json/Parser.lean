import MarcLens.Json.Basic
import MarcLens.Text.Basic

/-!
# Reading JSON

A text is read strictly: no byte order mark, no comma before a closing bracket, no control character
inside a string, and nothing but space after the value. Beyond the standard the words `NaN`,
`Infinity` and `-Infinity` are numbers. When an object names a member twice, the first place and the
last value count. Integers with very many digits and values nested very deeply are refused.

## Main definitions

- `Json.parse?`: the value that a text spells
-/

namespace MarcLens.Json

def isSpace (c : Char) : Bool := c = ' ' || c = '\t' || c = '\n' || c = '\r'

def skipSpace (t : Text) : Text := t.dropWhile isSpace

/-! ### Strings -/

def hexValue? (c : Char) : Option Nat :=
  if c.isDigit then some (c.toNat - '0'.toNat)
  else if 'a' ≤ c ∧ c ≤ 'f' then some (c.toNat - 'a'.toNat + 10)
  else if 'A' ≤ c ∧ c ≤ 'F' then some (c.toNat - 'A'.toNat + 10)
  else none

/-- The number that four hexadecimal digits spell. -/
def hex4? (a b c d : Char) : Option Nat := do
  return (((← hexValue? a) * 16 + (← hexValue? b)) * 16 + (← hexValue? c)) * 16 + (← hexValue? d)

/-- The character that a letter after a backslash stands for. -/
def escaped? : Char → Option Char
  | '"' => some '"'
  | '\\' => some '\\'
  | '/' => some '/'
  | 'b' => some '\x08'
  | 'f' => some '\x0c'
  | 'n' => some '\n'
  | 'r' => some '\r'
  | 't' => some '\t'
  | _ => none

/-- Half of a surrogate pair stands for the replacement character when the other half is missing. -/
def loneSurrogate : Char := Char.ofNat 0xFFFD

/-- What a first half of a surrogate pair stands for when no second half follows. -/
def unpaired (high : Option Nat) : Text := if high.isSome then [loneSurrogate] else []

/-- Puts characters in front of what was read of a string. -/
def prepend (cs : Text) (read : Option (Text × Text)) : Option (Text × Text) :=
  read.map fun (s, rest) => (cs ++ s, rest)

/-- Reads a string after its opening quote: its characters and what follows the closing quote.
    Here `high` is the first half of a surrogate pair that was read just before. -/
def stringBody (high : Option Nat) : Text → Option (Text × Text)
  | [] => none
  | '"' :: rest => some (unpaired high, rest)
  | '\\' :: 'u' :: a :: b :: c :: d :: rest =>
    match hex4? a b c d with
    | none => none
    | some n =>
      if 0xD800 ≤ n ∧ n < 0xDC00 then prepend (unpaired high) (stringBody (some n) rest)
      else if 0xDC00 ≤ n ∧ n < 0xE000 then
        match high with
        | some h =>
          let paired := 0x10000 + (h - 0xD800) * 0x400 + (n - 0xDC00)
          prepend [Char.ofNat paired] (stringBody none rest)
        | none => prepend [loneSurrogate] (stringBody none rest)
      else prepend (unpaired high ++ [Char.ofNat n]) (stringBody none rest)
  | '\\' :: e :: rest =>
    match escaped? e with
    | none => none
    | some c => prepend (unpaired high ++ [c]) (stringBody none rest)
  | c :: rest =>
    if c.toNat < 0x20 then none else prepend (unpaired high ++ [c]) (stringBody none rest)

/-! ### Numbers -/

/-- The most digits that an integer may have. -/
def maxIntegerDigits : Nat := 4300

/-- The fraction at the start of a text: a point and digits. -/
def fraction : Text → Text
  | '.' :: t =>
    let digits := t.takeWhile Char.isDigit
    if digits = [] then [] else '.' :: digits
  | _ => []

/-- The sign at the start of a text. -/
def exponentSign : Text → Text
  | c :: _ => if c = '+' ∨ c = '-' then [c] else []
  | [] => []

/-- The exponent at the start of a text: the letter e, a sign or none, and digits. -/
def exponent : Text → Text
  | e :: t =>
    let sign := exponentSign t
    let digits := (t.drop sign.length).takeWhile Char.isDigit
    if (e = 'e' ∨ e = 'E') ∧ digits ≠ [] then e :: sign ++ digits else []
  | [] => []

/-- The integer part at the start of a text: a zero, or digits that do not start with one. -/
def wholePart : Text → Text
  | '0' :: _ => ['0']
  | t => t.takeWhile Char.isDigit

/-- The integer that an exponent spells. -/
def exponentValue : Text → Int
  | [] => 0
  | _ :: t =>
    let sign := exponentSign t
    let n : Int := Nat.ofDigitChars 10 (t.drop sign.length) 0
    if sign = ['-'] then -n else n

/-- Reads a number whose sign has been read. -/
def unsigned? (negative : Bool) (t : Text) : Option (Json × Text) :=
  let whole := wholePart t
  let tail := t.drop whole.length
  let point := fraction tail
  let power := exponent (tail.drop point.length)
  if whole = [] then none
  else if point = [] ∧ power = [] then
    if maxIntegerDigits < whole.length then none
    else
      let n : Int := Nat.ofDigitChars 10 whole 0
      some (.int (if negative then -n else n), tail)
  else
    let places := point.drop 1
    let digits := Nat.ofDigitChars 10 (whole ++ places) 0
    some (.real (.ofDecimal negative digits (exponentValue power - places.length)),
      tail.drop (point.length + power.length))

/-! ### Values -/

/-- Reads a value other than an array or an object. -/
def scalar? : Text → Option (Json × Text)
  | '"' :: rest => (stringBody none rest).map fun (s, rest) => (.str (String.ofList s), rest)
  | 'n' :: 'u' :: 'l' :: 'l' :: rest => some (.null, rest)
  | 't' :: 'r' :: 'u' :: 'e' :: rest => some (.bool true, rest)
  | 'f' :: 'a' :: 'l' :: 's' :: 'e' :: rest => some (.bool false, rest)
  | 'N' :: 'a' :: 'N' :: rest => some (.real .nan, rest)
  | 'I' :: 'n' :: 'f' :: 'i' :: 'n' :: 'i' :: 't' :: 'y' :: rest =>
    some (.real (.infinite false), rest)
  | '-' :: 'I' :: 'n' :: 'f' :: 'i' :: 'n' :: 'i' :: 't' :: 'y' :: rest =>
    some (.real (.infinite true), rest)
  | '-' :: rest => unsigned? true rest
  | t => unsigned? false t

/-- Reads the items of an array up to its closing bracket, each by `read`. Their number is bounded
    by `fuel`. -/
def items (read : Text → Option (Json × Text)) (fuel : Nat) (t : Text) :
    Option (List Json × Text) :=
  match fuel with
  | 0 => none
  | n + 1 =>
    match read t with
    | none => none
    | some (j, rest) =>
      match skipSpace rest with
      | ']' :: rest => some ([j], rest)
      | ',' :: rest => (items read n (skipSpace rest)).map fun (js, rest) => (j :: js, rest)
      | _ => none

/-- Reads the members of an object up to its closing bracket, the value of each by `read`. Their
    number is bounded by `fuel`. -/
def members (read : Text → Option (Json × Text)) (fuel : Nat) (t : Text) :
    Option (List (String × Json) × Text) :=
  match fuel, t with
  | n + 1, '"' :: rest =>
    match stringBody none rest with
    | none => none
    | some (name, rest) =>
      match skipSpace rest with
      | ':' :: rest =>
        match read (skipSpace rest) with
        | none => none
        | some (j, rest) =>
          match skipSpace rest with
          | '}' :: rest => some ([(String.ofList name, j)], rest)
          | ',' :: rest =>
            (members read n (skipSpace rest)).map fun (ms, rest) =>
              ((String.ofList name, j) :: ms, rest)
          | _ => none
      | _ => none
  | _, _ => none

/-- Reads a value at the start of a text, together with what follows it. Arrays and objects may be
    nested to the given depth, and the number of items in each is bounded by `fuel`. -/
def value (fuel depth : Nat) (t : Text) : Option (Json × Text) :=
  match depth, t with
  | 0, '[' :: _ => none
  | 0, '{' :: _ => none
  | n + 1, '[' :: rest =>
    match skipSpace rest with
    | ']' :: rest => some (.arr [], rest)
    | rest => (items (value fuel n) fuel rest).map fun (js, rest) => (.arr js, rest)
  | n + 1, '{' :: rest =>
    match skipSpace rest with
    | '}' :: rest => some (.obj [], rest)
    | rest =>
      (members (value fuel n) fuel rest).map fun (ms, rest) => (.obj (Table.ofList ms), rest)
  | _, t => scalar? t

/-- How deep arrays and objects may be nested. A level takes one of the 1000 calls that may be open
    at the same time, and this many are left to the reader of a data file by the calls that lead to
    it. So the number belongs to the surroundings and not to the format: it changes with that limit
    and with the depth at which the reader is called. -/
def maxNesting : Nat := 986

/-- The value that a text spells. Every item takes a character, so the length of the text bounds
    their number. -/
def parse? (t : Text) : Option Json :=
  match value t.length maxNesting (skipSpace t) with
  | some (j, rest) => if skipSpace rest = [] then some j else none
  | none => none

end MarcLens.Json

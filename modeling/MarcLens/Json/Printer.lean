import MarcLens.Json.Basic
import MarcLens.Number.Decimal
import MarcLens.Text.Basic

/-!
# Writing JSON

Every item and every member stands on a line of its own, two spaces further in than what holds it.
Characters stay as they are, except for quotes, backslashes and control characters.

## Main definitions

- `Json.quoted`: a string in quotes
- `Json.pretty`: the written form of a value
-/

namespace MarcLens.Json

/-- The hexadecimal digit for a number below 16. -/
def hexDigit (n : Nat) : Char := Nat.digitChar n

/-- A character inside a quoted string. -/
def escape (c : Char) : Text :=
  if c = '"' then ['\\', '"']
  else if c = '\\' then ['\\', '\\']
  else if c = '\n' then ['\\', 'n']
  else if c = '\r' then ['\\', 'r']
  else if c = '\t' then ['\\', 't']
  else if c = '\x08' then ['\\', 'b']
  else if c = '\x0c' then ['\\', 'f']
  else if c.toNat < 0x20 then
    ['\\', 'u', '0', '0', hexDigit (c.toNat / 16), hexDigit (c.toNat % 16)]
  else [c]

/-- A string in quotes. -/
def quoted (s : String) : Text := '"' :: s.toList.flatMap escape ++ ['"']

/-- The decimal digits of an integer, after a minus sign if it is negative. -/
def decimal (n : Int) : Text :=
  if n < 0 then '-' :: Nat.toDigits 10 n.natAbs else Nat.toDigits 10 n.natAbs

/-- A new line at the given depth. -/
def newLine (depth : Nat) : Text := '\n' :: List.replicate (2 * depth) ' '

mutual

/-- The written form of a value that stands at the given depth. -/
def prettyAt (depth : Nat) : Json → Text
  | null => ['n', 'u', 'l', 'l']
  | bool true => ['t', 'r', 'u', 'e']
  | bool false => ['f', 'a', 'l', 's', 'e']
  | int n => decimal n
  | real x => (x.written "Infinity" "NaN").toList
  | str s => quoted s
  | arr [] => ['[', ']']
  | arr (j :: js) =>
    '[' :: newLine (depth + 1) ++ prettyAt (depth + 1) j ++ prettyItems depth js
  | obj [] => ['{', '}']
  | obj ((name, j) :: ms) =>
    '{' :: newLine (depth + 1) ++ quoted name ++ [':', ' '] ++ prettyAt (depth + 1) j ++
      prettyMembers depth ms

/-- The items of an array after its first one, and its closing bracket. -/
def prettyItems (depth : Nat) : List Json → Text
  | [] => newLine depth ++ [']']
  | j :: js => ',' :: newLine (depth + 1) ++ prettyAt (depth + 1) j ++ prettyItems depth js

/-- The members of an object after its first one, and its closing bracket. -/
def prettyMembers (depth : Nat) : List (String × Json) → Text
  | [] => newLine depth ++ ['}']
  | (name, j) :: ms =>
    ',' :: newLine (depth + 1) ++ quoted name ++ [':', ' '] ++ prettyAt (depth + 1) j ++
      prettyMembers depth ms

end

/-- The written form of a value. -/
def pretty (j : Json) : Text := prettyAt 0 j

end MarcLens.Json

import MarcLens.Text.Basic
import MarcLens.Text.Printable

/-!
# Quoted texts

A text between quotes, in which every character that cannot be printed is spelled out.

## Main definitions

- `Text.quoted`: a text in quotes
-/

namespace MarcLens.Text

/-- The last `count` hexadecimal digits of a number. -/
def hexDigits (count n : Nat) : Text :=
  (List.range count).reverse.map fun place => Nat.digitChar ((n >>> (4 * place)) % 16)

/-- A character by its number in hexadecimal notation, which has two, four or eight digits. -/
def numbered (c : Char) : Text :=
  if c.toNat < 0x100 then '\\' :: 'x' :: hexDigits 2 c.toNat
  else if c.toNat < 0x10000 then '\\' :: 'u' :: hexDigits 4 c.toNat
  else '\\' :: 'U' :: hexDigits 8 c.toNat

/-- A character between quotes of the given kind. -/
def quotedChar (quote c : Char) : Text :=
  if c = quote ∨ c = '\\' then ['\\', c]
  else if c = '\n' then ['\\', 'n']
  else if c = '\r' then ['\\', 'r']
  else if c = '\t' then ['\\', 't']
  else if isPrintable c then [c]
  else numbered c

/-- A text in quotes: single ones, unless the text has single quotes and no double ones. -/
def quoted (t : Text) : Text :=
  let quote := if t.contains '\'' && !t.contains '"' then '"' else '\''
  quote :: t.flatMap (quotedChar quote) ++ [quote]

end MarcLens.Text

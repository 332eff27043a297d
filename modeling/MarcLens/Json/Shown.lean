import MarcLens.Json.Basic
import MarcLens.Number.Decimal
import MarcLens.Text.Quoted

/-!
# JSON values for a reader

## Main definitions

- `Json.shown`: a value as it is shown to a reader
-/

namespace MarcLens.Json

/-- A text in quotes. -/
def inQuotes (s : String) : String := String.ofList (Text.quoted s.toList)

mutual

/-- A value inside another one, as it is shown to a reader: texts stand in quotes. -/
def shownInside : Json → String
  | null => "None"
  | bool b => if b then "True" else "False"
  | int n => n.repr
  | real x => x.written "inf" "nan"
  | str s => inQuotes s
  | arr items => "[" ++ ", ".intercalate (shownItems items) ++ "]"
  | obj members => "\x7b" ++ ", ".intercalate (shownMembers members) ++ "\x7d"

/-- The items of an array, each as it is shown inside another value. -/
def shownItems : List Json → List String
  | [] => []
  | j :: js => shownInside j :: shownItems js

/-- The members of an object, each as it is shown inside another value. -/
def shownMembers : List (String × Json) → List String
  | [] => []
  | (name, j) :: rest => (inQuotes name ++ ": " ++ shownInside j) :: shownMembers rest

end

/-- A value as it is shown to a reader: a text as it is, anything else by its written form. -/
def shown : Json → String
  | str s => s
  | j => j.shownInside

end MarcLens.Json

import MarcLens.Fault
import MarcLens.Json.Basic

/-!
# Looking up in JSON values

A data file should hold tables of values, which are objects. A value of another kind can be searched
for a name as well, but nothing is filed in it.

## Main definitions

- `Json.filed?`: what is filed under a name
- `Json.entries`: all that is filed
- `Json.meaning`: what an entry of a table of meanings says
-/

namespace MarcLens.Json

/-- A value is the given text. -/
def isText (s : String) : Json → Bool
  | str t => t = s
  | _ => false

/-- What is filed under a name, if the name is found. A name is also found among the items of a
    list and inside a text, but there nothing can be filed. -/
def filed? (j : Json) (name : String) : Except Fault (Option Json) :=
  match j with
  | obj members => .ok (Table.get? members name)
  | arr items => if items.any (isText name) then .error .lookupInList else .ok none
  | str s => if (Text.find? name.toList s.toList).isSome then .error .lookupInText else .ok none
  | j => .error (.notSearchable j.kindWord)

/-- All that is filed in a table. -/
def entries : Json → Except Fault (Table Json)
  | obj members => .ok members
  | j => .error (.noEntries j.kindWord)

/-- What a table of meanings says about a value. -/
def meaning (j : Json) (value : String) : Except Fault Json :=
  match j with
  | obj members => .ok ((Table.get? members value).getD (.str "Unknown value"))
  | j => .error (.noMeanings j.kindWord)

end MarcLens.Json

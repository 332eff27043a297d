import MarcLens.Number.Basic
import MarcLens.Table

/-!
# JSON values

The members of an object keep their order, and integers are told from other numbers.

## Main definitions

- `Json`: a JSON value
- `Json.get?`: a member of an object
- `Json.holds`: whether a value counts as set
-/

namespace MarcLens

inductive Json where
  | null
  | bool (b : Bool)
  | int (n : Int)
  | real (x : Number)
  | str (s : String)
  | arr (items : List Json)
  | obj (members : List (String × Json))
deriving Repr

namespace Json

/-- The members of an object. -/
def table? : Json → Option (Table Json)
  | obj members => some members
  | _ => none

/-- The member of an object under a name. -/
def get? (j : Json) (name : String) : Option Json := j.table?.bind (·.get? name)

def int? : Json → Option Int
  | int n => some n
  | _ => none

/-- A value counts as set unless it is null, false, a zero, or empty. -/
def holds : Json → Bool
  | null => false
  | bool b => b
  | int n => n ≠ 0
  | real x => !x.isZero
  | str s => s ≠ ""
  | arr items => !items.isEmpty
  | obj members => !members.isEmpty

/-- A value that is set, or else an empty object. -/
def orEmpty (j : Json) : Json := if j.holds then j else .obj []

/-- The word for the kind of a value. -/
def kindWord : Json → String
  | null => "NoneType"
  | bool _ => "bool"
  | int _ => "int"
  | real _ => "float"
  | str _ => "str"
  | arr _ => "list"
  | obj _ => "dict"

end Json

end MarcLens

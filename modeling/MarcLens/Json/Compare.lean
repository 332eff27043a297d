import MarcLens.Json.Basic

/-!
# Comparing JSON values

Integers and other numbers are compared by value, and the truth values count as the integers 0 and
1. The order of the members of an object does not matter.

## Main definitions

- `Json.same`: two values are equal
- `Json.atMost?`, `Json.atLeast?`, `Json.isInt`: a value against an integer
- `Json.index?`, `Json.number?`: the integer or number that a value stands for
-/

namespace MarcLens.Json

/-- The integer that a value stands for. -/
def index? : Json → Option Int
  | int n => some n
  | bool b => some (if b then 1 else 0)
  | _ => none

/-- The number that a value stands for. -/
def number? : Json → Option Number
  | int n => some (.ofInt n)
  | bool b => some (.ofInt (if b then 1 else 0))
  | real x => some x
  | _ => none

/-- A value is not greater than an integer, where the value is a number. -/
def atMost? (j : Json) (n : Int) : Option Bool :=
  match j with
  | real x => some (x.atMost n)
  | j => j.index?.map fun m => m ≤ n

/-- A value is not less than an integer, where the value is a number. -/
def atLeast? (j : Json) (n : Int) : Option Bool :=
  match j with
  | real x => some (x.atLeast n)
  | j => j.index?.map fun m => n ≤ m

/-- A value is the given integer. -/
def isInt (j : Json) (n : Int) : Bool :=
  match j with
  | real x => x.equal false (.ofInt n)
  | j => j.index? = some n

/-- The greatest integer that exceeds neither a number nor a limit; for a value of another kind it
    is the limit. -/
def capped (j : Json) (limit : Int) : Int :=
  match j with
  | real x => x.capped limit
  | j => min (j.index?.getD limit) limit

mutual

/-- Two values inside other ones are equal. There every value equals itself. -/
def sameInside : Json → Json → Bool
  | null, k => match k with
    | null => true
    | _ => false
  | str s, k => match k with
    | str t => s = t
    | _ => false
  | arr items, k => match k with
    | arr others => sameItems items others
    | _ => false
  | obj members, k => match k with
    | obj others => members.length = others.length && sameMembers members others
    | _ => false
  | j, k => match j.number?, k.number? with
    | some x, some y => x.equal true y
    | _, _ => false

/-- Two lists of items are equal. -/
def sameItems : List Json → List Json → Bool
  | [], [] => true
  | j :: js, k :: ks => sameInside j k && sameItems js ks
  | _, _ => false

/-- Every member is found, with an equal value, in the given table. -/
def sameMembers : List (String × Json) → Table Json → Bool
  | [], _ => true
  | (name, j) :: rest, others =>
    (match others.get? name with
      | some k => sameInside j k
      | none => false) && sameMembers rest others

end

/-- Two values are equal. What is no number does not equal itself. -/
def same (j k : Json) : Bool :=
  match j with
  | real .nan => false
  | j => sameInside j k

end MarcLens.Json

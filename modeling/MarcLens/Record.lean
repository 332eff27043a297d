import MarcLens.Field.Basic

/-!
# Records

A record has a leader, fields, or both. A leader starts a new record.
-/

namespace MarcLens

structure Record where
  leader : Option Field := none
  fields : List Field := []
deriving DecidableEq, Repr

namespace Record

def isEmpty (r : Record) : Bool := r.leader.isNone && r.fields.isEmpty

/-- All fields of a record in order, its leader first. -/
def toList (r : Record) : List Field := r.leader.toList ++ r.fields

/-- Groups fields into records, where `current` is the record begun so far. -/
def groupFrom (current : Record) : List Field → List Record
  | [] => if current.isEmpty then [] else [current]
  | f :: fs =>
    match f.kind with
    | .leader =>
      (if current.isEmpty then [] else [current]) ++ groupFrom { leader := some f } fs
    | _ => groupFrom { current with fields := current.fields ++ [f] } fs

/-- Groups the fields of a document into records. -/
def group (fields : List Field) : List Record := groupFrom {} fields

end Record

end MarcLens

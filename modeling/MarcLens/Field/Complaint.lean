import MarcLens.Field.Scan

/-!
# Complaints about a field

What can be wrong with a data field. Leaders and control fields are never complained about.
-/

namespace MarcLens

inductive Complaint where
  | longFirstIndicator
  | longSecondIndicator
  | noSubfields
  | badSubfieldCode (code : Text)
deriving DecidableEq, Repr

/-- The wording of a complaint about the field with the given tag. -/
def Complaint.message (tag : Text) : Complaint → String
  | longFirstIndicator =>
    "First indicator must be single character for field " ++ String.ofList tag
  | longSecondIndicator =>
    "Second indicator must be single character for field " ++ String.ofList tag
  | noSubfields => "Data field " ++ String.ofList tag ++ " must contain subfields"
  | badSubfieldCode code =>
    "Invalid subfield code '" ++ String.ofList code ++ "' in field " ++ String.ofList tag

/-- An indicator that is present and not empty has one character. -/
def indicatorFits : Option Text → Bool
  | none => true
  | some t => t.length ≤ 1

/-- A code is one code character; a line feed after it is not seen. -/
def codeFits : Text → Bool
  | [c] => isSubfieldCode c
  | [c, '\n'] => isSubfieldCode c
  | _ => false

/-- The complaints about a field: its indicators first, then its subfields in order. -/
def Field.complaints (f : Field) : List Complaint :=
  match f.kind with
  | .data =>
    (if indicatorFits f.indicator1 then [] else [.longFirstIndicator]) ++
    (if indicatorFits f.indicator2 then [] else [.longSecondIndicator]) ++
    (if f.subfieldList.isEmpty then [.noSubfields] else []) ++
    (f.subfieldList.filter fun s => !codeFits s.code).map fun s => .badSubfieldCode s.code
  | _ => []

end MarcLens

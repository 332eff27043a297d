import MarcLens.Text.Basic

/-!
# Faults

The requests that get no answer, by cause. A request that merely finds nothing is no fault.
-/

namespace MarcLens

/-- Why a request has no answer. Where a value in a data file is to blame, the fault names the kind
    of the value. -/
inductive Fault where
  /-- A line number before the first line, also when counted from the end. -/
  | lineOutOfRange
  /-- The subfields of a field that carries no list of subfields. -/
  | subfieldsMissing
  /-- A position of a fixed field, asked for without a type of record. -/
  | recordTypeMissing
  /-- A tag that holds a digit which is no decimal digit, where a number is needed. -/
  | tagNotDecimal (tag : Text)
  /-- A description that is no text. -/
  | descriptionNotText (kind : String)
  /-- The entries of a value that is no table. -/
  | noEntries (kind : String)
  /-- The meaning of an indicator by a value that is no table. -/
  | noMeanings (kind : String)
  /-- A name looked for in a value that holds no other values. -/
  | notSearchable (kind : String)
  /-- What is filed under a name that is an item of a list. -/
  | lookupInList
  /-- What is filed under a name that is a part of a text. -/
  | lookupInText
  /-- A position that starts at no number. -/
  | startNotNumber (kind : String)
  /-- A position that starts at no number and has no end. -/
  | openStartNotNumber (kind : String)
  /-- A position that stops at no number. -/
  | stopNotNumber (kind : String)
  /-- The characters between bounds that are no integers. -/
  | boundNotInteger
  /-- A word that names no type of record. -/
  | notARecordType (word : String)
  /-- A word that names no kind of field. -/
  | notAFieldKind (word : String)
deriving DecidableEq, Repr

/-- The wording for an operation that values of a kind do not have. -/
def Fault.lacking (kind operation : String) : String :=
  "'" ++ kind ++ "' object has no attribute '" ++ operation ++ "'"

/-- The wording for values of two kinds that cannot be compared. -/
def Fault.incomparable (relation left right : String) : String :=
  "'" ++ relation ++ "' not supported between instances of '" ++ left ++ "' and '" ++ right ++ "'"

/-- The wording of a fault. -/
def Fault.message : Fault → String
  | lineOutOfRange => "list index out of range"
  | subfieldsMissing => "'NoneType' object is not iterable"
  | recordTypeMissing =>
    "MarcStaticData.get_position_info() missing 1 required positional argument: 'record_type'"
  | tagNotDecimal tag => "invalid literal for int() with base 10: '" ++ String.ofList tag ++ "'"
  | descriptionNotText kind => "can only concatenate str (not \"" ++ kind ++ "\") to str"
  | noEntries kind => lacking kind "items"
  | noMeanings kind => lacking kind "get"
  | notSearchable kind => "argument of type '" ++ kind ++ "' is not iterable"
  | lookupInList => "list indices must be integers or slices, not str"
  | lookupInText => "string indices must be integers, not 'str'"
  | startNotNumber kind => incomparable "<=" kind "int"
  | openStartNotNumber kind => incomparable ">=" "int" kind
  | stopNotNumber kind => incomparable "<=" "int" kind
  | boundNotInteger => "slice indices must be integers or None or have an __index__ method"
  | notARecordType word => "'" ++ word ++ "' is not a valid RecordType"
  | notAFieldKind word => "'" ++ word ++ "' is not a valid FieldType"

end MarcLens

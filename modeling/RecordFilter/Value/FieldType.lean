/-!
# Field types

The types that a field of a record can have.
-/

namespace RecordFilter

inductive FieldType where
  | boolean
  | int32
  | int64
  | float64
  | string
  | date
  | dateTime
  | guid
  /-- One of some names, which count from zero in this order. -/
  | enum (variants : List String)
  deriving DecidableEq

namespace FieldType

def describe : FieldType → String
  | .boolean => "bool"
  | .int32 => "int32"
  | .int64 => "int64"
  | .float64 => "float64"
  | .string => "string"
  | .date => "date"
  | .dateTime => "datetime"
  | .guid => "guid"
  | .enum _ => "enum"

/-- Whether queries may ask for the order of two values of the type. -/
def isOrdered : FieldType → Bool
  | .int32 | .int64 | .float64 | .date | .dateTime => true
  | .boolean | .string | .guid | .enum _ => false

end FieldType

end RecordFilter

import RecordFilter.Calendar.Instant
import RecordFilter.Guid
import RecordFilter.Number.Double
import RecordFilter.Value.FieldType

/-!
# Values

What is read from a field of a record, or what a literal of a query stands for.
Values of one type are ordered, and no value is ordered against a value of
another type or against null.
-/

namespace RecordFilter

inductive Value where
  | null
  | boolean (value : Bool)
  | int32 (value : Int32)
  | int64 (value : Int64)
  | float64 (value : Double)
  | string (value : String)
  | date (value : Date)
  | dateTime (value : Instant)
  | guid (value : Guid)
  | enum (name : String)
  deriving DecidableEq

namespace Value

def isNull : Value → Bool
  | .null => true
  | _ => false

def isNaN : Value → Bool
  | .float64 value => value.isNaN
  | _ => false

/-- The text of a string value. -/
def text? : Value → Option String
  | .string value => some value
  | _ => none

/-- Whether a field of a type may hold the value; null fits every type. -/
def fits : Value → FieldType → Bool
  | .null, _ => true
  | .boolean _, .boolean => true
  | .int32 _, .int32 => true
  | .int64 _, .int64 => true
  | .float64 _, .float64 => true
  | .string _, .string => true
  | .date _, .date => true
  | .dateTime _, .dateTime => true
  | .guid _, .guid => true
  | .enum name, .enum variants => variants.contains name
  | _, _ => false

/-- The order of two values of one type. Texts and names are ordered by their
code points. -/
def order? : Value → Value → Option Ordering
  | .boolean left, .boolean right => some (compare left right)
  | .int32 left, .int32 right => some (compare left.toInt right.toInt)
  | .int64 left, .int64 right => some (compare left.toInt right.toInt)
  | .float64 left, .float64 right => left.order? right
  | .string left, .string right => some (compare left right)
  | .date left, .date right => some (left.order right)
  | .dateTime left, .dateTime right => some (left.order right)
  | .guid left, .guid right => some (left.order right)
  | .enum left, .enum right => some (compare left right)
  | _, _ => none

/-- Equality as queries see it: numbers of double precision are equal as
numbers. -/
def equals : Value → Value → Bool
  | .float64 left, .float64 right => left.equals right
  | left, right => left == right

end Value

end RecordFilter

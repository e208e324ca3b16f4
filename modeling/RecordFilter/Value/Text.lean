import RecordFilter.Calendar.InstantText
import RecordFilter.Json.Writer
import RecordFilter.Value.Basic

/-!
# Values as text

The form of a value within a rendered query, and its form as JSON.
-/

namespace RecordFilter

/-- Numbers in queries have no exponent and no superfluous zero. -/
def Double.queryStyle : NumberStyle where
  positional _ := true
  pointZero := false
  exponentSign := false
  tie := .up

namespace Value

/-- The value as a literal without its ticks. -/
def text : Value → String
  | .null => "null"
  | .boolean value => if value then "true" else "false"
  | .int32 value => String.ofList (integerText value.toInt)
  | .int64 value => String.ofList (integerText value.toInt)
  | .float64 value => Double.queryStyle.text value
  | .string value => value
  | .date value => String.ofList value.text
  | .dateTime value => String.ofList value.text
  | .guid value => String.ofList value.text
  | .enum name => name

/-- A finite number; JSON has no others. -/
def jsonDouble (value : Double) : JsonValue :=
  match value with
  | .nan => .null
  | .number _ rank =>
    if rank.val = Double.infinityRank then .null else .number (.double value)

def toJson : Value → JsonValue
  | .null => .null
  | .boolean value => .bool value
  | .int32 value => .number (.integer value.toInt)
  | .int64 value => .number (.integer value.toInt)
  | .float64 value => jsonDouble value
  | .string value => .string value
  | .date value => .string (String.ofList value.text)
  | .dateTime value => .string (String.ofList value.shortText)
  | .guid value => .string (String.ofList value.text)
  | .enum name => .string name

end Value

end RecordFilter

import RecordFilter.Calendar.InstantText
import RecordFilter.Number.DoubleLiteral
import RecordFilter.Number.Integer
import RecordFilter.Text.Quoted
import RecordFilter.Value.Basic

/-!
# Literals

The text between two ticks is read as a value of the type of the field it is
compared with. Blanks at its ends do not count, except in a string.
-/

namespace RecordFilter

/-- Why a text is no literal of a type. -/
inductive LiteralFault where
  | notBoolean
  | integer (fault : IntegerFault)
  | double (fault : DoubleFault)
  | notComparable
  | date (fault : DateFault)
  | notTimestamp
  | guid (fault : GuidFault)
  | notVariant (variants : List String)
  deriving DecidableEq

def LiteralFault.message : LiteralFault → String
  | .notBoolean => "expected 'true' or 'false'"
  | .integer fault => fault.message
  | .double fault => fault.message
  | .notComparable => "NaN is not comparable"
  | .date fault => fault.message
  | .notTimestamp => "expected an RFC 3339 or 'YYYY-MM-DD[ HH:MM:SS]' timestamp"
  | .guid fault => fault.message
  | .notVariant variants => "expected one of " ++ Quoted.quoteList variants

/-- Whether two texts differ at most in the case of ASCII letters. -/
def sameIgnoringAsciiCase (left right : List Char) : Bool :=
  left.map Char.toLower == right.map Char.toLower

namespace Literal

def readBoolean (text : List Char) : Except LiteralFault Value :=
  if sameIgnoringAsciiCase text "true".toList then .ok (.boolean true)
  else if sameIgnoringAsciiCase text "false".toList then .ok (.boolean false)
  else .error .notBoolean

def readInt32 (text : List Char) : Except LiteralFault Value :=
  match readSigned maxInt32 text with
  | .ok value => .ok (.int32 (Int32.ofInt value))
  | .error fault => .error (.integer fault)

def readInt64 (text : List Char) : Except LiteralFault Value :=
  match readSigned maxInt64 text with
  | .ok value => .ok (.int64 (Int64.ofInt value))
  | .error fault => .error (.integer fault)

def readFloat64 (text : List Char) : Except LiteralFault Value :=
  match Double.read text with
  | .ok value =>
    if value.isNaN then .error .notComparable else .ok (.float64 value)
  | .error fault => .error (.double fault)

def readDate (text : List Char) : Except LiteralFault Value :=
  match Date.read text with
  | .ok value => .ok (.date value)
  | .error fault => .error (.date fault)

def readDateTime (text : List Char) : Except LiteralFault Value :=
  match Instant.read? text with
  | some value => .ok (.dateTime value)
  | none => .error .notTimestamp

def readGuid (text : List Char) : Except LiteralFault Value :=
  match Guid.read text with
  | .ok value => .ok (.guid value)
  | .error fault => .error (.guid fault)

/-- The variant with a number. -/
def variantAt? (variants : List String) (text : List Char) : Option String :=
  match readNatural maxNat64 text with
  | .ok ordinal => variants[ordinal]?
  | .error _ => none

/-- A variant by its name, or else by its number. -/
def readEnum (variants : List String) (text : List Char) :
    Except LiteralFault Value :=
  match variants.find? (sameIgnoringAsciiCase ·.toList text) with
  | some name => .ok (.enum name)
  | none =>
    match variantAt? variants text with
    | some name => .ok (.enum name)
    | none => .error (.notVariant variants)

end Literal

/-- The value of a literal of the type. -/
def FieldType.read (type : FieldType) (text : String) :
    Except LiteralFault Value :=
  let trimmed := trim text.toList
  match type with
  | .string => .ok (.string text)
  | .boolean => Literal.readBoolean trimmed
  | .int32 => Literal.readInt32 trimmed
  | .int64 => Literal.readInt64 trimmed
  | .float64 => Literal.readFloat64 trimmed
  | .date => Literal.readDate trimmed
  | .dateTime => Literal.readDateTime trimmed
  | .guid => Literal.readGuid trimmed
  | .enum variants => Literal.readEnum variants trimmed

end RecordFilter

import RecordFilter.Json.Reader
import RecordFilter.Rows.Declaration
import RecordFilter.Schema
import RecordFilter.Value.Literal

/-!
# JSON rows

Rows are the objects of a JSON array. A declared field of a row is the member of
the same name; a member that is not there, or that does not hold a value of the
declared type, reads as null.
-/

namespace RecordFilter

/-- The signed integer of a number that is one of 64 bits. -/
def JsonNumeral.int64? : JsonNumeral → Option Int
  | .integer value => if fitsSigned maxInt64 value then some value else none
  | .double _ => none

def JsonNumeral.toDouble : JsonNumeral → Double
  | .integer value => .ofInt value
  | .double value => value

namespace JsonValue

/-- A literal of a type; null if the text is none. -/
def readLiteral (type : FieldType) (text : String) : Value :=
  match type.read text with
  | .ok value => value
  | .error _ => .null

def readNumber (type : FieldType) (numeral : JsonNumeral) : Value :=
  match type, numeral.int64? with
  | .int32, some value =>
    if fitsSigned maxInt32 value then .int32 (Int32.ofInt value) else .null
  | .int64, some value => .int64 (Int64.ofInt value)
  | .float64, _ => .float64 numeral.toDouble
  | _, _ => .null

def readString (type : FieldType) (text : String) : Value :=
  match type with
  | .string => .string text
  | .date | .dateTime | .guid => readLiteral type text
  | _ => .null

/-- The value of a type that a JSON value stands for, or null. -/
def readAs (type : FieldType) : JsonValue → Value
  | .bool value => if type = .boolean then .boolean value else .null
  | .number numeral => readNumber type numeral
  | .string text => readString type text
  | _ => .null

end JsonValue

inductive RowsError where
  | notJson
  | notArray (found : JsonValue)
  | notObject (position : Nat) (found : JsonValue)

def RowsError.message : RowsError → String
  | .notJson => "Failed to parse input as JSON"
  | .notArray found =>
    "expected a JSON array of objects, got " ++ found.describe
  | .notObject position found =>
    "element " ++ toString position ++ " is " ++ found.describe ++
      ", expected an object"

namespace Rows

/-- The objects among items that have been counted from a position on; all of
them must be objects. -/
def objects (position : Nat) :
    List JsonValue → Except RowsError (List JsonMembers)
  | [] => .ok []
  | .object members :: rest => (objects (position + 1) rest).map (members :: ·)
  | found :: _ => .error (.notObject position found)

def ofText (text : String) : Except RowsError (List JsonMembers) :=
  match JsonValue.read? text.toList with
  | none => .error .notJson
  | some (.array items) => objects 0 items
  | some found => .error (.notArray found)

/-- A field that reads the member of its name. -/
def field (declaration : FieldDeclaration) : Field JsonMembers where
  name := declaration.name
  type := declaration.type
  read row :=
    match JsonMembers.value? declaration.name row with
    | some value => value.readAs declaration.type
    | none => .null

def schema (declarations : List FieldDeclaration) :
    Except SchemaError (Schema JsonMembers) :=
  Schema.build (declarations.map field)

end Rows

end RecordFilter

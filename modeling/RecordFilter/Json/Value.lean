import RecordFilter.Number.Double

/-!
# JSON values

The values of a JSON document. The members of an object are kept in the order of
their keys, each key once.
-/

namespace RecordFilter

/-- A number of a document: an integer of 64 bits, signed or unsigned, or a
finite number of double precision. -/
inductive JsonNumeral where
  | integer (value : Int)
  | double (value : Double)
  deriving DecidableEq

inductive JsonValue where
  | null
  | bool (value : Bool)
  | number (value : JsonNumeral)
  | string (value : String)
  | array (items : List JsonValue)
  | object (members : List (String × JsonValue))

/-- The members of an object, in the order of their keys. -/
abbrev JsonMembers := List (String × JsonValue)

namespace JsonMembers

/-- Adds a member, in place of the one with the same key if there is one. -/
def insert (key : String) (value : JsonValue) : JsonMembers → JsonMembers
  | [] => [(key, value)]
  | (other, present) :: rest =>
    if key = other then (key, value) :: rest
    else if key < other then (key, value) :: (other, present) :: rest
    else (other, present) :: insert key value rest

/-- The value of a member. -/
def value? (key : String) (members : JsonMembers) : Option JsonValue :=
  List.lookup key members

end JsonMembers

/-- What a value is called in error messages. -/
def JsonValue.describe : JsonValue → String
  | .null => "null"
  | .bool _ => "a boolean"
  | .number _ => "a number"
  | .string _ => "a string"
  | .array _ => "an array"
  | .object _ => "an object"

end RecordFilter

import RecordFilter.Text.Blank
import RecordFilter.Value.FieldType

/-!
# Field declarations

A field of JSON rows is declared by its name, a colon and the name of its type.
Names of types may be written in any case, and some types have two names.
-/

namespace RecordFilter

structure FieldDeclaration where
  name : String
  type : FieldType
  deriving DecidableEq

inductive DeclarationError where
  | noColon (text : String)
  | noName (text : String)
  | unknownType (name : String)
  deriving DecidableEq

def DeclarationError.message : DeclarationError → String
  | .noColon text => "expected NAME:TYPE, got '" ++ text ++ "'"
  | .noName text => "missing field name in '" ++ text ++ "'"
  | .unknownType name => "unknown field type '" ++ name ++ "'"

namespace FieldType

/-- The names of the types that a declaration can give. -/
def declarable : List (String × FieldType) :=
  [("bool", .boolean), ("boolean", .boolean), ("int32", .int32),
    ("int", .int32), ("int64", .int64), ("long", .int64),
    ("float64", .float64), ("double", .float64), ("string", .string),
    ("date", .date), ("datetime", .dateTime), ("guid", .guid),
    ("uuid", .guid)]

def ofName (name : String) : Except DeclarationError FieldType :=
  match declarable.lookup (String.ofList (name.toList.map Char.toLower)) with
  | some type => .ok type
  | none => .error (.unknownType name)

end FieldType

namespace FieldDeclaration

/-- What stands before and after the last colon of a text. -/
def splitAtLastColon? : List Char → Option (List Char × List Char)
  | [] => none
  | c :: rest =>
    match splitAtLastColon? rest with
    | some (before, after) => some (c :: before, after)
    | none => if c = ':' then some ([], rest) else none

def ofText (text : String) : Except DeclarationError FieldDeclaration :=
  match splitAtLastColon? text.toList with
  | none => .error (.noColon text)
  | some (before, after) =>
    let name := trim before
    if name = [] then .error (.noName text)
    else
      (FieldType.ofName (String.ofList (trim after))).map fun type =>
        ⟨String.ofList name, type⟩

end FieldDeclaration

end RecordFilter

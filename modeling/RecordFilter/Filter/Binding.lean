import RecordFilter.Filter.Basic
import RecordFilter.Query.Expr
import RecordFilter.Value.Literal

/-!
# From expressions to filters

The comparisons of an expression are bound to a schema one by one, from left to
right, and the first one that cannot be bound is reported.
-/

namespace RecordFilter

inductive BindError where
  | lookup (error : LookupError)
  | unknownOperator (operator : String)
  | unsupportedOperator (operator field : String) (type : FieldType)
  | invalidValue (text : String) (type : FieldType) (fault : LiteralFault)
  deriving DecidableEq

def BindError.message : BindError → String
  | .lookup error => error.message
  | .unknownOperator operator => "Unknown operator: " ++ operator
  | .unsupportedOperator operator field type =>
    "Operator '" ++ operator ++ "' is not supported for field '" ++ field ++
      "' of type " ++
      type.describe
  | .invalidValue text type fault =>
    "Cannot convert '" ++ text ++ "' to " ++ type.describe ++ ": " ++
      fault.message

namespace Schema

variable {α : Type}

/-- The operator of a comparison with a field. -/
def bindOperator (field : Field α) (operator : Token) :
    Except BindError Operator :=
  match Operator.ofLexeme? operator.text with
  | none => .error (.unknownOperator operator.text)
  | some op =>
    if op.supports field.type then .ok op
    else .error (.unsupportedOperator operator.text field.name field.type)

/-- The value of a comparison with a field. -/
def bindValue (field : Field α) (value : Token) : Except BindError Value :=
  match field.type.read value.literal with
  | .ok value => .ok value
  | .error fault => .error (.invalidValue value.literal field.type fault)

def bindComparison (schema : Schema α) (property operator value : Token) :
    Except BindError (Comparison α) :=
  match schema.lookup property.text with
  | .error error => .error (.lookup error)
  | .ok field => do
    let operator ← bindOperator field operator
    let value ← bindValue field value
    .ok ⟨field, operator, value⟩

def bind (schema : Schema α) : Expr → Except BindError (Filter α)
  | .comparison property operator value =>
    (schema.bindComparison property operator value).map .comparison
  | .logical connective left right => do
    let left ← schema.bind left
    let right ← schema.bind right
    .ok (.logical connective left right)

end Schema

end RecordFilter

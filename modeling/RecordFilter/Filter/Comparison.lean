import RecordFilter.Query.Operator
import RecordFilter.Schema

/-!
# Comparisons

A comparison asks for the value of one field of a record and holds it against a
fixed value. A field that has no value in a record differs from everything, and
no other comparison with it holds.
-/

namespace RecordFilter

namespace Operator

/-- Whether fields of a type may be compared with the operator. -/
def supports (op : Operator) (type : FieldType) : Bool :=
  if op.isOrdering then type.isOrdered
  else if op.isTextual then type == .string
  else true

/-- Whether a text occurs within another. -/
def occursIn (part : List Char) : List Char → Bool
  | [] => part.isEmpty
  | c :: rest => part.isPrefixOf (c :: rest) || occursIn part rest

/-- What an ordering operator makes of the order of two values; without an order
it does not hold. -/
def holdsOrdered : Operator → Option Ordering → Bool
  | .greater, order => order == some .gt
  | .greaterOrEqual, order => order == some .gt || order == some .eq
  | .less, order => order == some .lt
  | .lessOrEqual, order => order == some .lt || order == some .eq
  | _, _ => false

/-- What a textual operator makes of two texts. -/
def holdsTextual : Operator → List Char → List Char → Bool
  | .startsWith, actual, expected => expected.isPrefixOf actual
  | .endsWith, actual, expected => expected.isSuffixOf actual
  | .contains, actual, expected => occursIn expected actual
  | _, _, _ => false

/-- Whether a textual operator holds of two values; of anything but two texts it
does not. -/
def holdsOfTexts (op : Operator) (actual expected : Value) : Bool :=
  match actual.text?, expected.text? with
  | some actual, some expected => op.holdsTextual actual.toList expected.toList
  | _, _ => false

/-- Whether the value of a field compares with a fixed value. -/
def holds (op : Operator) (actual expected : Value) : Bool :=
  if actual.isNull then op == .notEqual
  else if op == .equal then actual.equals expected
  else if op == .notEqual then !actual.equals expected
  else if op.isOrdering then op.holdsOrdered (actual.order? expected)
  else op.holdsOfTexts actual expected

end Operator

structure Comparison (α : Type) where
  field : Field α
  operator : Operator
  value : Value

namespace Comparison

variable {α : Type}

/-- Whether a record satisfies the comparison. A value that does not fit the
type of the field satisfies none. -/
def evaluate (comparison : Comparison α) (record : α) : Bool :=
  let actual := comparison.field.read record
  actual.fits comparison.field.type &&
    comparison.operator.holds actual comparison.value

/-- Whether two comparisons ask the same of the same field. -/
def isSame (left right : Comparison α) : Bool :=
  left.field.isSame right.field && left.operator == right.operator &&
    left.value.equals right.value

end Comparison

end RecordFilter

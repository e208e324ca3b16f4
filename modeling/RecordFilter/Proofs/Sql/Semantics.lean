import RecordFilter.Proofs.Sql.Pattern

/-!
# The meaning of SQL conditions

The reference semantics of the conditions a filter is written as. Conditions are
evaluated in the three-valued logic of SQL on a row of named columns, and the
question marks take the parameters from left to right. Asking for a column that
the row does not have, running out of parameters and matching something that is
no text have no value at all.
-/

namespace RecordFilter

namespace Sql

/-! ## Three truth values -/

inductive Truth where
  | true
  | false
  | unknown
  deriving DecidableEq

namespace Truth

def ofBool : Bool → Truth
  | .true => .true
  | .false => .false

def and : Truth → Truth → Truth
  | .false, _ => .false
  | _, .false => .false
  | .true, .true => .true
  | _, _ => .unknown

def or : Truth → Truth → Truth
  | .true, _ => .true
  | _, .true => .true
  | .false, .false => .false
  | _, _ => .unknown

@[simp]
theorem ofBool_eq_true_iff {answer : Bool} :
    ofBool answer = .true ↔ answer = Bool.true := by
  cases answer <;> simp [ofBool]

@[simp]
theorem and_eq_true_iff {left right : Truth} :
    left.and right = .true ↔ left = .true ∧ right = .true := by
  cases left <;> cases right <;> simp [and]

@[simp]
theorem or_eq_true_iff {left right : Truth} :
    left.or right = .true ↔ left = .true ∨ right = .true := by
  cases left <;> cases right <;> simp [or]

end Truth

/-! ## Tests of single values -/

/-- Whether two values that are not null stand in a relation. -/
def Relation.holds : Relation → Value → Value → Bool
  | .greater, left, right => left.order? right == some .gt
  | .greaterOrEqual, left, right =>
      left.order? right == some .gt || left.order? right == some .eq
  | .less, left, right => left.order? right == some .lt
  | .lessOrEqual, left, right =>
      left.order? right == some .lt || left.order? right == some .eq
  | .equal, left, right => left.equals right
  | .notEqual, left, right => !left.equals right

def Relation.truth (relation : Relation) (left right : Value) : Truth :=
  if left.isNull || right.isNull then .unknown
  else .ofBool (relation.holds left right)

/-- The truth of a LIKE test, which only texts can take. -/
def likeTruth? (actual pattern : Value) : Option Truth :=
  if actual.isNull || pattern.isNull then some .unknown
  else
    match actual.text?, pattern.text? with
    | some actual, some pattern =>
        (like? actual.toList pattern.toList).map .ofBool
    | _, _ => none

/-! ## Conditions -/

/-- The values of the columns of a row. -/
abbrev Row := String → Option Value

/-- The truth of a condition on a row, with the parameters that it leaves to
what comes after it. -/
def Condition.evaluate? (row : Row) :
    Condition → List Value → Option (Truth × List Value)
  | .compare _ _, [] => none
  | .compare column relation, parameter :: parameters =>
      (row column).map fun actual =>
        (relation.truth actual parameter, parameters)
  | .like _, [] => none
  | .like column, parameter :: parameters =>
      (row column).bind fun actual =>
        (likeTruth? actual parameter).map fun truth => (truth, parameters)
  | .isNull column, parameters =>
      (row column).map fun actual => (.ofBool actual.isNull, parameters)
  | .and left right, parameters =>
      (left.evaluate? row parameters).bind fun (leftTruth, parameters) =>
        (right.evaluate? row parameters).map fun (rightTruth, parameters) =>
          (leftTruth.and rightTruth, parameters)
  | .or left right, parameters =>
      (left.evaluate? row parameters).bind fun (leftTruth, parameters) =>
        (right.evaluate? row parameters).map fun (rightTruth, parameters) =>
          (leftTruth.or rightTruth, parameters)

/-- The truth of joined conditions. -/
def joinTruths : Connective → Truth → Truth → Truth
  | .and => .and
  | .or => .or

theorem joinTruths_eq_true_iff {connective : Connective} {left right : Truth}
    {leftAnswer rightAnswer : Bool} (hleft : left = .true ↔ leftAnswer = true)
    (hright : right = .true ↔ rightAnswer = true) :
    joinTruths connective left right = .true ↔
      connective.combine leftAnswer rightAnswer = true := by
  cases connective with
  | and => simp [joinTruths, Connective.combine, hleft, hright]
  | or => simp [joinTruths, Connective.combine, hleft, hright]

theorem evaluate?_joinConditions (row : Row) (connective : Connective)
    {left right : Condition} {leftTruth rightTruth : Truth}
    {parameters further rest : List Value}
    (hleft : left.evaluate? row parameters = some (leftTruth, further))
    (hright : right.evaluate? row further = some (rightTruth, rest)) :
    (joinConditions connective left right).evaluate? row parameters =
      some (joinTruths connective leftTruth rightTruth, rest) := by
  cases connective with
  | and => simp [joinConditions, joinTruths, Condition.evaluate?, hleft, hright]
  | or => simp [joinConditions, joinTruths, Condition.evaluate?, hleft, hright]

end Sql

/-- A record as a row, with the fields of its schema as columns. -/
def Schema.row {α : Type} (schema : Schema α) (record : α) : Sql.Row :=
  fun column =>
    (schema.fields.find? (·.name == column)).map (·.read record)

end RecordFilter

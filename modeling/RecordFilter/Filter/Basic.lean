import RecordFilter.Filter.Comparison
import RecordFilter.Query.Connective
import RecordFilter.Value.Text

/-!
# Filters

A filter is an expression of which every comparison has been given a field and a
value of the field's type. It can be asked about records, compared with other
filters and written down as a query.
-/

namespace RecordFilter

inductive Filter (α : Type) where
  | comparison (leaf : Comparison α)
  | logical (connective : Connective) (left right : Filter α)

namespace Filter

variable {α : Type}

/-- Whether a record satisfies the filter. The right part is looked at only if
the left part leaves the answer open. -/
def evaluate : Filter α → α → Bool
  | .comparison leaf, record => leaf.evaluate record
  | .logical .and left right, record =>
    left.evaluate record && right.evaluate record
  | .logical .or left right, record =>
    left.evaluate record || right.evaluate record

/-- The comparisons from left to right. -/
def comparisons : Filter α → List (Comparison α)
  | .comparison leaf => [leaf]
  | .logical _ left right => left.comparisons ++ right.comparisons

/-- The number of levels; a comparison alone has one. -/
def depth : Filter α → Nat
  | .comparison _ => 1
  | .logical _ left right => 1 + max left.depth right.depth

/-- Whether two filters have the same shape and ask the same at every place. -/
def isSame : Filter α → Filter α → Bool
  | .comparison left, .comparison right => left.isSame right
  | .logical connective left right,
      .logical otherConnective otherLeft otherRight =>
    connective == otherConnective && left.isSame otherLeft &&
      right.isSame otherRight
  | _, _ => false

/-- The filter as a query, with a pair of brackets around every connective. -/
def render : Filter α → String
  | .comparison leaf =>
    leaf.field.name ++ " " ++ leaf.operator.lexeme ++ " '" ++
      leaf.value.text ++ "'"
  | .logical connective left right =>
    "(" ++ left.render ++ " " ++ connective.lexeme ++ " " ++ right.render ++ ")"

end Filter

end RecordFilter

import RecordFilter.Query.Connective
import RecordFilter.Query.Token

/-!
# Expressions

The tree of a query before its names and values are given a meaning: a
comparison still holds the three tokens it was written with.
-/

namespace RecordFilter

inductive Expr where
  | comparison (property operator value : Token)
  | logical (connective : Connective) (left right : Expr)
  deriving DecidableEq

namespace Expr

def comparisonCount : Expr → Nat
  | .comparison .. => 1
  | .logical _ left right => left.comparisonCount + right.comparisonCount

/-- The three tokens of each comparison, from left to right. -/
def comparisons : Expr → List (Token × Token × Token)
  | .comparison property operator value => [(property, operator, value)]
  | .logical _ left right => left.comparisons ++ right.comparisons

/-- The number of levels; a comparison alone has one. -/
def depth : Expr → Nat
  | .comparison .. => 1
  | .logical _ left right => 1 + max left.depth right.depth

/-- The expression as a query, with a pair of brackets around every
connective. -/
def render : Expr → String
  | .comparison property operator value =>
    property.text ++ " " ++ operator.text ++ " " ++ value.text
  | .logical connective left right =>
    "(" ++ left.render ++ " " ++ connective.lexeme ++ " " ++ right.render ++ ")"

end Expr

end RecordFilter

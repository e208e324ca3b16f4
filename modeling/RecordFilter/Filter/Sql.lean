import RecordFilter.Filter.Basic

/-!
# Filters as SQL conditions

A filter is written as the condition of a WHERE clause, in which a question mark
stands for each fixed value. The values are parameters of the statement, in the
order of the question marks, and never part of its text. A field without a value
differs from everything, so a test for inequality also admits NULL. Tests within
texts become patterns.
-/

namespace RecordFilter

namespace Sql

inductive Relation where
  | greater
  | greaterOrEqual
  | less
  | lessOrEqual
  | equal
  | notEqual
  deriving DecidableEq

def Relation.lexeme : Relation → String
  | .greater => ">"
  | .greaterOrEqual => ">="
  | .less => "<"
  | .lessOrEqual => "<="
  | .equal => "="
  | .notEqual => "<>"

inductive Condition where
  /-- A column stands in a relation to the next parameter. -/
  | compare (column : String) (relation : Relation)
  /-- A column matches the pattern that is the next parameter. -/
  | like (column : String)
  | isNull (column : String)
  | and (left right : Condition)
  | or (left right : Condition)
  deriving DecidableEq

/-- A column name between double quotes; a quote within it is written twice. -/
def quoteIdentifier (name : String) : String :=
  String.ofList
    ('"' ::
      (name.toList.flatMap (fun c => if c = '"' then ['"', '"'] else [c]) ++
        ['"']))

namespace Condition

def render : Condition → String
  | .compare column relation =>
    quoteIdentifier column ++ " " ++ relation.lexeme ++ " ?"
  | .like column => quoteIdentifier column ++ " LIKE ? ESCAPE '\\'"
  | .isNull column => quoteIdentifier column ++ " IS NULL"
  | .and left right => "(" ++ left.render ++ " AND " ++ right.render ++ ")"
  | .or left right => "(" ++ left.render ++ " OR " ++ right.render ++ ")"

end Condition

/-- A condition and the values for its question marks, from left to right. -/
structure Statement where
  condition : Condition
  parameters : List Value

namespace Statement

/-- The text of the condition. -/
def clause (statement : Statement) : String := statement.condition.render

/-- The parameters as a JSON array. -/
def parametersJson (statement : Statement) : String :=
  (JsonValue.array (statement.parameters.map Value.toJson)).compact

end Statement

/-- The character that takes the special meaning from the one after it. -/
def escapeChar : Char := '\\'

/-- A pattern that matches exactly a text. -/
def escapeLike (text : List Char) : List Char :=
  text.flatMap fun c =>
    if c = escapeChar ∨ c = '%' ∨ c = '_' then [escapeChar, c] else [c]

/-- How an operator is tested. -/
inductive Test where
  | relation (relation : Relation)
  /-- Parts of the text before and after the value may be of any length, as
  told. -/
  | pattern (openStart openEnd : Bool)

def Test.ofOperator : Operator → Test
  | .greater => .relation .greater
  | .greaterOrEqual => .relation .greaterOrEqual
  | .less => .relation .less
  | .lessOrEqual => .relation .lessOrEqual
  | .equal => .relation .equal
  | .notEqual => .relation .notEqual
  | .startsWith => .pattern false true
  | .endsWith => .pattern true false
  | .contains => .pattern true true

/-- The pattern for a text that may go on before its start or after its end. -/
def likePattern (openStart openEnd : Bool) (text : List Char) : List Char :=
  (if openStart then ['%'] else []) ++ escapeLike text ++
    (if openEnd then ['%'] else [])

def ofComparison (column : String) (operator : Operator) (value : Value) :
    Statement :=
  match Test.ofOperator operator with
  | .relation .notEqual =>
    ⟨.or (.compare column .notEqual) (.isNull column), [value]⟩
  | .relation relation => ⟨.compare column relation, [value]⟩
  | .pattern openStart openEnd =>
    let text := (value.text?.getD "").toList
    ⟨.like column,
      [.string (String.ofList (likePattern openStart openEnd text))]⟩

/-- The condition of two joined statements. -/
def joinConditions : Connective → Condition → Condition → Condition
  | .and => .and
  | .or => .or

end Sql

/-- The condition that a filter amounts to, with the names of fields as names of
columns. -/
def Filter.toSql {α : Type} : Filter α → Sql.Statement
  | .comparison leaf =>
    Sql.ofComparison leaf.field.name leaf.operator leaf.value
  | .logical connective left right =>
    let left := left.toSql
    let right := right.toSql
    ⟨Sql.joinConditions connective left.condition right.condition,
      left.parameters ++ right.parameters⟩

end RecordFilter

/-!
# Comparison operators

The nine operators that may stand between a field and a value. Every lexeme has
two characters, so none is the beginning of another and the order of the list
does not matter to a reader of queries.
-/

namespace RecordFilter

inductive Operator where
  | greater
  | greaterOrEqual
  | less
  | lessOrEqual
  | equal
  | notEqual
  | startsWith
  | endsWith
  | contains
  deriving DecidableEq

namespace Operator

def all : List Operator :=
  [.greater, .greaterOrEqual, .less, .lessOrEqual, .equal, .notEqual,
    .startsWith, .endsWith, .contains]

theorem mem_all (op : Operator) : op ∈ all := by
  cases op <;> decide

def lexeme : Operator → String
  | .greater => ">>"
  | .greaterOrEqual => ">="
  | .less => "<<"
  | .lessOrEqual => "<="
  | .equal => "=="
  | .notEqual => "!="
  | .startsWith => "@="
  | .endsWith => "=@"
  | .contains => "%%"

/-- The operator's name in diagnostics. -/
def label : Operator → String
  | .greater => "GreaterThan"
  | .greaterOrEqual => "GreaterThanOrEqual"
  | .less => "LessThan"
  | .lessOrEqual => "LessThanOrEqual"
  | .equal => "Equal"
  | .notEqual => "NotEqual"
  | .startsWith => "StartsWith"
  | .endsWith => "EndsWith"
  | .contains => "Contains"

def ofLexeme? (lexeme : String) : Option Operator :=
  all.find? (·.lexeme == lexeme)

/-- Asks for the order of two values. -/
def isOrdering : Operator → Bool
  | .greater | .greaterOrEqual | .less | .lessOrEqual => true
  | _ => false

/-- Looks inside a text. -/
def isTextual : Operator → Bool
  | .startsWith | .endsWith | .contains => true
  | _ => false

@[simp]
theorem ofLexeme?_lexeme (op : Operator) : ofLexeme? op.lexeme = some op := by
  cases op <;> decide

theorem lexeme_injective {op other : Operator}
    (heq : op.lexeme = other.lexeme) : op = other := by
  have hother := ofLexeme?_lexeme other
  rw [← heq, ofLexeme?_lexeme] at hother
  exact Option.some.inj hother

theorem ofLexeme?_eq_some_iff {lexeme : String} {op : Operator} :
    ofLexeme? lexeme = some op ↔ op.lexeme = lexeme := by
  constructor
  · intro hop
    simpa [ofLexeme?] using List.find?_some hop
  · rintro rfl
    exact ofLexeme?_lexeme op

end Operator

end RecordFilter

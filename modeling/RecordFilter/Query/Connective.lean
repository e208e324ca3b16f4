/-!
# Connectives

Comparisons are joined by `&&` and `||`. The two have the same precedence.
-/

namespace RecordFilter

inductive Connective where
  | and
  | or
  deriving DecidableEq

namespace Connective

def all : List Connective := [.and, .or]

def lexeme : Connective → String
  | .and => "&&"
  | .or => "||"

/-- The connective's name in diagnostics. -/
def label : Connective → String
  | .and => "And"
  | .or => "Or"

def ofLexeme? (lexeme : String) : Option Connective :=
  all.find? (·.lexeme == lexeme)

/-- The truth value of two joined conditions. -/
def combine : Connective → Bool → Bool → Bool
  | .and, left, right => left && right
  | .or, left, right => left || right

@[simp]
theorem ofLexeme?_lexeme (connective : Connective) :
    ofLexeme? connective.lexeme = some connective := by
  cases connective <;> decide

theorem ofLexeme?_eq_some_iff {lexeme : String} {connective : Connective} :
    ofLexeme? lexeme = some connective ↔ connective.lexeme = lexeme := by
  constructor
  · intro hconnective
    simpa [ofLexeme?] using List.find?_some hconnective
  · rintro rfl
    exact ofLexeme?_lexeme connective

end Connective

end RecordFilter

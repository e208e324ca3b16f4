/-!
# Tokens

A token carries its text as written and the bytes it covers in the query, so
that errors can point into the query and rendered trees keep the spelling of the
query.
-/

namespace RecordFilter

/-- The character around a value. -/
def tick : Char := '\x27'

/-- The texts that the lexer takes for an operator, in the order in which it
tries them. -/
def operatorLexemes : List String :=
  [">>", ">=", "<<", "<=", "==", "!=", "@=", "=@", "%%"]

/-- The texts that the lexer takes for a connective. -/
def connectiveLexemes : List String := ["&&", "||"]

inductive TokenKind where
  | property
  | operator
  | connective
  | openBracket
  | closeBracket
  | value
  deriving DecidableEq

/-- The kind as error messages name it. -/
def TokenKind.describe : TokenKind → String
  | .property => "property"
  | .operator => "operator"
  | .connective => "logical operator"
  | .openBracket => "'('"
  | .closeBracket => "')'"
  | .value => "value"

/-- A range of bytes; `stop` is the first byte after it. -/
structure Span where
  start : Nat
  stop : Nat
  deriving DecidableEq

namespace Span

def length (span : Span) : Nat := span.stop - span.start

def isEmpty (span : Span) : Bool := span.start == span.stop

end Span

structure Token where
  kind : TokenKind
  text : String
  span : Span
  deriving DecidableEq

/-- What stands between two ticks, if the text has one at each end. -/
def unquote? : List Char → Option (List Char)
  | [] => none
  | c :: rest =>
    if c = tick ∧ rest.getLast? = some tick then some rest.dropLast else none

namespace Token

/-- The text of a value without its ticks; any other text is left as it is. -/
def literal (token : Token) : String :=
  match unquote? token.text.toList with
  | some inner => String.ofList inner
  | none => token.text

/-- The token as error messages name it. -/
def describe (token : Token) : String :=
  token.kind.describe ++ " '" ++ token.text ++ "'"

end Token

theorem unquote?_quoted (inner : List Char) :
    unquote? (tick :: (inner ++ [tick])) = some inner := by
  simp [unquote?]

end RecordFilter

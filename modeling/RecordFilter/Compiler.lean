import RecordFilter.Filter.Binding
import RecordFilter.Filter.Predicate
import RecordFilter.Query.Folding
import RecordFilter.Query.Lexicon

/-!
# Compiling queries

A compiler takes the queries of one schema all the way from text to predicate,
within limits.
-/

namespace RecordFilter

inductive CompileError where
  | lex (error : LexError)
  | parse (error : ParseError)
  | bind (error : BindError)
  | queryTooLong (length limit : Nat)
  deriving DecidableEq

def CompileError.message : CompileError → String
  | .lex error => error.message
  | .parse error => error.message
  | .bind error => error.message
  | .queryTooLong length limit =>
    "Query is " ++ toString length ++ " bytes long, limit is " ++ toString limit

structure CompilerOptions where
  limits : Limits := {}
  /-- The greatest number of bytes of a query, if there is one. -/
  maxLength : Option Nat := none
  deriving DecidableEq

structure Compiler (α : Type) where
  schema : Schema α
  options : CompilerOptions := {}

namespace Compiler

variable {α : Type}

def lexicon (compiler : Compiler α) : Lexicon := .ofNames compiler.schema.names

def tokenize (compiler : Compiler α) (query : String) :
    Except CompileError (List Token) :=
  match compiler.options.maxLength with
  | some limit =>
    let length := utf8Length query.toList
    if limit < length then .error (.queryTooLong length limit)
    else (compiler.lexicon.tokenize query).mapError .lex
  | none => (compiler.lexicon.tokenize query).mapError .lex

def parse (compiler : Compiler α) (query : String) :
    Except CompileError Expr := do
  let tokens ← compiler.tokenize query
  (Expr.ofTokens compiler.options.limits tokens).mapError .parse

def bind (compiler : Compiler α) (query : String) :
    Except CompileError (Filter α) := do
  let expr ← compiler.parse query
  (compiler.schema.bind expr).mapError .bind

def compile (compiler : Compiler α) (query : String) :
    Except CompileError (Predicate α) := do
  let filter ← compiler.bind query
  .ok ((Predicate.ofFilter filter).withSource query)

end Compiler

end RecordFilter

import RecordFilter.CommandLine.Options
import RecordFilter.Proofs.Outcome

/-!
# What command lines ask for

A request is a query over declared fields together with an input, and it can be
made in three modes. Command lines that are read as the same request in
different modes differ in what they print. Every request whose fields are
declared by texts has a command line in each mode.
-/

namespace RecordFilter.CommandLine

/-- What a run prints. -/
inductive Mode where
  | rows
  | count
  | sql
  deriving DecidableEq

/-- What a run works on. -/
structure Request where
  query : String
  fields : List FieldDeclaration
  input : Option String

/-- The options of a request, without debugging. -/
def Request.options (request : Request) (mode : Mode) : Options where
  query := request.query
  fields := request.fields
  input := request.input
  sql := mode = .sql
  count := mode = .count
  debug := false

variable {given next : Given} {option : ValueOption} {name value : String}

end RecordFilter.CommandLine

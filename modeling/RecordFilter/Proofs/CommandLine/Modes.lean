import RecordFilter.Proofs.CommandLine.Printing
import RecordFilter.Proofs.CommandLine.Requests
import RecordFilter.Proofs.Compiler.Stages
import RecordFilter.Proofs.Rows.Reading
import RecordFilter.Proofs.Selection
import RecordFilter.Proofs.Sql.Parameters

/-!
# What the modes of a request have in common

A request fails at the first stage that fails: the schema, the query, or the
rows. Printing the rows and counting them go through the same stages, so both
fail with the same report or both answer for the same rows of the input, of
which one prints a text that is read as these rows and the other the number.
Printing SQL goes through the first two stages only, whatever the input is.
-/

namespace RecordFilter

namespace CommandLine

/-! ## Stages -/

/-- The schema builds and the query compiles to the predicate. -/
def Request.Compiles (request : Request) (predicate : Predicate JsonMembers) :
    Prop :=
  ∃ schema, Rows.schema request.fields = .ok schema ∧
    (Compiler.mk schema {}).compile request.query = .ok predicate

/-- The schema does not build, or it builds and the query does not compile. -/
inductive Request.FailsToCompile (request : Request) : Failure → Prop
  | schema {error : SchemaError}
    (herror : Rows.schema request.fields = .error error) :
    FailsToCompile request (.schema error)
  | query {schema : Schema JsonMembers} {error : CompileError}
    (hschema : Rows.schema request.fields = .ok schema)
    (herror : (Compiler.mk schema {}).compile request.query = .error error) :
    FailsToCompile request (.query request.query error)

/-- The text of the input is the standard input or the content of a file. -/
inductive Request.Reads (request : Request) (surroundings : Surroundings) :
    String → Prop
  | standardInput (hinput : request.input = none ∨ request.input = some "-") :
    Reads request surroundings surroundings.standardInput
  | file {name content : String} (hinput : request.input = some name)
    (hname : name ≠ "-") (hentry : surroundings.entry name = .file content) :
    Reads request surroundings content

/-- The input is the text of an array of these rows. -/
def Request.Finds (request : Request) (surroundings : Surroundings)
    (rows : List JsonMembers) : Prop :=
  ∃ text, request.Reads surroundings text ∧
    JsonValue.read? text.toList = some (.array (rows.map .object))

/-- The input is a directory, it cannot be opened, or its text holds no rows. -/
inductive Request.FailsToRead (request : Request)
    (surroundings : Surroundings) : Failure → Prop
  | directory {name : String} (hinput : request.input = some name)
    (hname : name ≠ "-") (hentry : surroundings.entry name = .directory) :
    FailsToRead request surroundings (.directory name)
  | unreadable {name reason : String} (hinput : request.input = some name)
    (hname : name ≠ "-")
    (hentry : surroundings.entry name = .unreadable reason) :
    FailsToRead request surroundings (.unreadable name reason)
  | rows {text : String} {error : RowsError}
    (hreads : request.Reads surroundings text)
    (hfault : Rows.IsFaultOf text error) :
    FailsToRead request surroundings (.rows error)

variable {request : Request} {mode : Mode} {surroundings : Surroundings}
  {predicate : Predicate JsonMembers} {rows : List JsonMembers}
  {failure : Failure}

/-- The failure of the first stage that fails. -/
inductive Request.FailsFirst (request : Request)
    (surroundings : Surroundings) : Failure → Prop
  | compiling {failure : Failure} (hfails : request.FailsToCompile failure) :
    FailsFirst request surroundings failure
  | reading {predicate : Predicate JsonMembers} {failure : Failure}
    (hcompiles : request.Compiles predicate)
    (hfails : request.FailsToRead surroundings failure) :
    FailsFirst request surroundings failure

/-- How a command that lists rows and one that counts them end. -/
inductive Request.Answers (request : Request) (surroundings : Surroundings) :
    Ending → Ending → Prop
  | failed {failure : Failure}
    (hfails : request.FailsFirst surroundings failure)
    (hreport : failure.IsReport failure.report) :
    Answers request surroundings ⟨1, "", failure.report⟩
      ⟨1, "", failure.report⟩
  | printed {predicate : Predicate JsonMembers} {rows chosen : List JsonMembers}
    (hcompiles : request.Compiles predicate)
    (hrows : request.Finds surroundings rows)
    (hchosen : IsSelection (predicate.accepts · = true) rows chosen)
    (hlisting : IsListing chosen (printRows chosen)) :
    Answers request surroundings ⟨0, printRows chosen, ""⟩
      ⟨0, toString chosen.length ++ "\n", ""⟩

end CommandLine

namespace Weighing

open CommandLine

end Weighing

end RecordFilter

import RecordFilter.CommandLine.Options
import RecordFilter.Compiler
import RecordFilter.Rows.Rows

/-!
# Running the command

A run builds the schema, compiles the query and reads the rows, in this order,
and the first failure is reported. Printing SQL needs no rows. Nothing is
printed by a run that fails.
-/

namespace RecordFilter.CommandLine

/-- What the name of an input stands for. -/
inductive Entry where
  | file (content : String)
  | directory
  /-- It cannot be opened, for a reason. -/
  | unreadable (reason : String)

/-- What a run can read. -/
structure Surroundings where
  standardInput : String
  entry : String → Entry

inductive Failure where
  | schema (error : SchemaError)
  | query (text : String) (error : CompileError)
  | directory (name : String)
  | unreadable (name reason : String)
  | rows (error : RowsError)

namespace Failure

def message : Failure → String
  | .schema _ => "Invalid field declarations"
  | .query text _ => "Failed to compile query '" ++ text ++ "'"
  | .directory name => name ++ " is a directory"
  | .unreadable name _ => "Failed to open input file " ++ name
  | .rows error => error.message

/-- What lies behind the failure, if its message does not tell it. -/
def cause? : Failure → Option String
  | .schema error => some error.message
  | .query _ error => some error.message
  | .directory _ => none
  | .unreadable _ reason => some reason
  | .rows _ => none

/-- What stands in front of every line of a cause. -/
def indentation : List Char := "    ".toList

/-- A character of a cause, and behind a line break the start of the next
line. -/
def indentChar (c : Char) : List Char :=
  if c = '\n' then c :: indentation else [c]

def indent (text : String) : String :=
  String.ofList (indentation ++ text.toList.flatMap indentChar)

/-- The message and the cause. -/
def report (failure : Failure) : String :=
  "Error: " ++ failure.message ++ "\n" ++
    (match failure.cause? with
    | none => ""
    | some cause => "\nCaused by:\n" ++ indent cause ++ "\n")

end Failure

def readInput (surroundings : Surroundings) (input : Option String) :
    Except Failure String :=
  match input with
  | none => .ok surroundings.standardInput
  | some name =>
    if name = "-" then .ok surroundings.standardInput
    else
      match surroundings.entry name with
      | .file content => .ok content
      | .directory => .error (.directory name)
      | .unreadable reason => .error (.unreadable name reason)

def readRows (surroundings : Surroundings) (input : Option String) :
    Except Failure (List JsonMembers) := do
  let text ← readInput surroundings input
  (Rows.ofText text).mapError .rows

def compilerFor (options : Options) : Except Failure (Compiler JsonMembers) :=
  match Rows.schema options.fields with
  | .ok schema => .ok { schema := schema }
  | .error error => .error (.schema error)

def filterFor (options : Options) : Except Failure (Filter JsonMembers) := do
  let compiler ← compilerFor options
  (compiler.bind options.query).mapError (.query options.query)

def predicateFor (options : Options) :
    Except Failure (Predicate JsonMembers) := do
  let compiler ← compilerFor options
  (compiler.compile options.query).mapError (.query options.query)

/-- The condition on one line and its parameters on the next. -/
def printSql (statement : Sql.Statement) : String :=
  statement.clause ++ "\n" ++ statement.parametersJson ++ "\n"

def printRows (rows : List JsonMembers) : String :=
  (JsonValue.array (rows.map .object)).pretty 0 ++ "\n"

/-- The output of a run. -/
def run (options : Options) (surroundings : Surroundings) :
    Except Failure String := do
  if options.sql then
    let filter ← filterFor options
    return printSql filter.toSql
  else
    let predicate ← predicateFor options
    let rows ← readRows surroundings options.input
    if options.count then return toString (predicate.count rows) ++ "\n"
    else return printRows (predicate.select rows)

/-- The input that a command reads, where no name is the standard input; none if
it ends before. -/
def inputWanted? (arguments : List String) : Option (Option String) :=
  match Options.ofArguments arguments with
  | .error _ => none
  | .ok options =>
    match options.sql, predicateFor options with
    | false, .ok _ =>
      some (if options.input = some "-" then none else options.input)
    | _, _ => none

/-- How a command ends. -/
structure Ending where
  exitCode : Nat
  output : String
  report : String

def helpText : String :=
  "Filter the rows of a JSON array with a query such as " ++
  "Age >> '30' && Name @= 'A'\n\n" ++
  "Usage: record-filter [OPTIONS] --query <QUERY> --field <NAME:TYPE>\n\n" ++
  "Options:\n" ++
  "  -q, --query <QUERY>      Query to apply\n" ++
  "  -f, --field <NAME:TYPE>  Field of the rows " ++
  "(bool, int32, int64, float64, string, date, datetime, guid)\n" ++
  "  -i, --input <INPUT>      JSON file with an array of objects; " ++
  "standard input without it or for -\n" ++
  "      --sql                Print the SQL condition and its parameters\n" ++
  "      --count              " ++
  "Print only the number of rows that satisfy the query\n" ++
  "  -d, --debug              Print what is being done\n" ++
  "  -h, --help               Print help\n" ++
  "  -V, --version            Print version\n"

def versionText : String := "record-filter 0.1.0\n"

def usageText : String :=
  "error: invalid usage\n\nFor more information, try '--help'.\n"

/-- The whole command for the words of a command line. -/
def execute (arguments : List String) (surroundings : Surroundings) : Ending :=
  match Options.ofArguments arguments with
  | .error .usageError => ⟨2, "", usageText⟩
  | .error .help => ⟨0, helpText, ""⟩
  | .error .version => ⟨0, versionText, ""⟩
  | .ok options =>
    match run options surroundings with
    | .ok output => ⟨0, output, ""⟩
    | .error failure => ⟨1, "", failure.report⟩

end RecordFilter.CommandLine

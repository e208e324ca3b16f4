import RecordFilter.CommandLine.Run
import RecordFilter.Proofs.Compiler.Messages
import RecordFilter.Proofs.Json.Documents

/-!
# What a command prints

Rows are printed as a text that is read as the array of them; numbers of many
digits may be read as neighbours. A report has the message of a failure, which
names the stage that failed, and behind it the lines of what the stage says of
the cause.
-/

namespace RecordFilter

/-! ## Rows -/

namespace CommandLine

/-- The text is read as the array of the rows. Every number is read as it is
where it has been written once, so rows whose numbers are short are read as they
are. -/
structure IsListing (rows : List JsonMembers) (text : String) : Prop where
  read_text : JsonValue.read? text.toList =
    some (.array (rows.map fun row => (JsonValue.object row).reread))
  read_exactly :
    (∀ row ∈ rows,
      (JsonValue.object row).Fits JsonNumeral.IsShort JsonBuild.maxDepth) →
    JsonValue.read? text.toList = some (.array (rows.map .object))

/-- The text has these lines. -/
structure HasLines (text : String) (lines : List String) : Prop where
  nonempty : lines ≠ []
  newline_notMem : ∀ line ∈ lines, '\n' ∉ line.toList
  eq_intercalate : text = "\n".intercalate lines

namespace Failure

/-- The message of a failure tells the stage that failed and what it failed on.
Behind it may stand the message of an error, which mentions all that the error
is about, or the reason why a file cannot be opened. -/
inductive IsToldAs : Failure → String → Option String → Prop
  | schema {error : SchemaError}
    (hsubjects : ∀ subject ∈ error.subjects, Mentions error.message subject) :
    IsToldAs (.schema error) "Invalid field declarations" (some error.message)
  | query {text : String} {error : CompileError}
    (hsubjects : ∀ subject ∈ error.subjects, Mentions error.message subject) :
    IsToldAs (.query text error) ("Failed to compile query '" ++ text ++ "'")
      (some error.message)
  | directory (name : String) :
    IsToldAs (.directory name) (name ++ " is a directory") none
  | unreadable (name reason : String) :
    IsToldAs (.unreadable name reason) ("Failed to open input file " ++ name)
      (some reason)
  | notJson : IsToldAs (.rows .notJson) "Failed to parse input as JSON" none
  | notArray (found : JsonValue) :
    IsToldAs (.rows (.notArray found))
      ("expected a JSON array of objects, got " ++ found.describe) none
  | notObject (position : Nat) (found : JsonValue) :
    IsToldAs (.rows (.notObject position found))
      ("element " ++ toString position ++ " is " ++ found.describe ++
        ", expected an object") none

/-- The text reports the failure by its message and by every line of the
cause. -/
inductive IsReport (failure : Failure) : String → Prop
  | message {message : String} (htold : failure.IsToldAs message none) :
    IsReport failure ("Error: " ++ message ++ "\n")
  | cause {message cause : String} {lines : List String}
    (htold : failure.IsToldAs message (some cause))
    (hlines : HasLines cause lines) :
    IsReport failure ("Error: " ++ message ++ "\n" ++ "\nCaused by:\n" ++
      "\n".intercalate (lines.map ("    " ++ ·)) ++ "\n")

end Failure

/-! ### Lines -/

namespace Failure

end Failure

end CommandLine

end RecordFilter

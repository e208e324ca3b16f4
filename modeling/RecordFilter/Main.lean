import RecordFilter.CommandLine.Run

/-!
# The command

Reads the input that a run asks for and prints what it answers.
-/

namespace RecordFilter.CommandLine

/-- What the name of a file that cannot be read stands for. -/
def entryOfError (error : IO.Error) : Entry :=
  match error with
  | .inappropriateType .. => .directory
  | .noFileOrDirectory .. =>
    .unreadable "No such file or directory (os error 2)"
  | .permissionDenied .. => .unreadable "Permission denied (os error 13)"
  | other => .unreadable (toString other)

def entryOnDisk (name : String) : IO Entry := do
  try
    return .file (← IO.FS.readFile name)
  catch error =>
    return entryOfError error

/-- Only what a run reads is looked up. -/
def surroundingsFor (arguments : List String) : IO Surroundings := do
  match inputWanted? arguments with
  | none => return ⟨"", fun _ => .directory⟩
  | some none => return ⟨← (← IO.getStdin).readToEnd, fun _ => .directory⟩
  | some (some name) =>
    let entry ← entryOnDisk name
    return ⟨"", fun _ => entry⟩

end RecordFilter.CommandLine

open RecordFilter.CommandLine in
def main (arguments : List String) : IO UInt32 := do
  let outcome := execute arguments (← surroundingsFor arguments)
  (← IO.getStdout).putStr outcome.output
  (← IO.getStderr).putStr outcome.report
  return outcome.exitCode.toUInt32

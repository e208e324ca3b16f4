import RecordFilter.Rows.Declaration

/-!
# Command line options

The words of a command line are taken one at a time. An option with a value
takes it from its own word or from the next one; short options without a value
may share a word. Only fields may be declared more than once.
-/

namespace RecordFilter.CommandLine

/-- What the command is to do. -/
structure Options where
  query : String
  fields : List FieldDeclaration
  /-- The file to read, or the standard input. -/
  input : Option String
  sql : Bool
  count : Bool
  debug : Bool

/-- The command ends without having been run. -/
inductive Stop where
  | usageError
  | help
  | version
  deriving DecidableEq

inductive ValueOption where
  | query
  | field
  | input
  deriving DecidableEq

inductive Switch where
  | sql
  | count
  | debug
  | help
  | version
  deriving DecidableEq

inductive OptionName where
  | withValue (option : ValueOption)
  | switch (switch : Switch)
  deriving DecidableEq

def OptionName.ofLong? (name : String) : Option OptionName :=
  [("query", OptionName.withValue .query), ("field", .withValue .field),
    ("input", .withValue .input), ("sql", .switch .sql),
    ("count", .switch .count),
    ("debug", .switch .debug), ("help", .switch .help),
    ("version", .switch .version)].lookup name

def OptionName.ofShort? (letter : Char) : Option OptionName :=
  [('q', OptionName.withValue .query), ('f', .withValue .field),
    ('i', .withValue .input),
    ('d', .switch .debug), ('h', .switch .help),
    ('V', .switch .version)].lookup letter

/-- What has been given so far. -/
structure Given where
  query : Option String := none
  fields : List FieldDeclaration := []
  input : Option String := none
  sql : Bool := false
  count : Bool := false
  debug : Bool := false

/-- A value that may be given once. -/
def once (given : Option String) (value : String) :
    Except Stop (Option String) :=
  if given.isSome then .error .usageError else .ok (some value)

/-- A switch that may be given once. -/
def onceSwitched (given : Bool) : Except Stop Bool :=
  if given then .error .usageError else .ok true

def Given.setValue (given : Given) (option : ValueOption) (value : String) :
    Except Stop Given :=
  match option with
  | .query => (once given.query value).map ({ given with query := · })
  | .input =>
    if value.isEmpty then .error .usageError
    else (once given.input value).map ({ given with input := · })
  | .field =>
    match FieldDeclaration.ofText value with
    | .ok field => .ok { given with fields := given.fields ++ [field] }
    | .error _ => .error .usageError

def Given.setSwitch (given : Given) : Switch → Except Stop Given
  | .sql => (onceSwitched given.sql).map ({ given with sql := · })
  | .count => (onceSwitched given.count).map ({ given with count := · })
  | .debug => (onceSwitched given.debug).map ({ given with debug := · })
  | .help => .error .help
  | .version => .error .version

/-- What has been given, and the option whose value must be the next word. -/
structure Progress where
  given : Given := {}
  awaiting : Option ValueOption := none

/-- The name and the value of a word such as `--name=value`. -/
def splitAtEquals (text : List Char) : List Char × Option (List Char) :=
  match text.dropWhile (· != '=') with
  | [] => (text, none)
  | _ :: value => (text.takeWhile (· != '='), some value)

/-- An option by its long name. -/
def takeLong (given : Given) (text : List Char) : Except Stop Progress :=
  let (name, value) := splitAtEquals text
  match OptionName.ofLong? (String.ofList name), value with
  | some (.withValue option), some value =>
    (given.setValue option (String.ofList value)).map (⟨·, none⟩)
  | some (.withValue option), none => .ok ⟨given, some option⟩
  | some (.switch switch), none => (given.setSwitch switch).map (⟨·, none⟩)
  | some (.switch _), some _ => .error .usageError
  | none, _ => .error .usageError

/-- Options by their letters; the rest of the word behind an option with a value
is its value. -/
def takeShort (given : Given) : List Char → Except Stop Progress
  | [] => .ok ⟨given, none⟩
  | letter :: rest =>
    match OptionName.ofShort? letter, rest with
    | some (.switch switch), rest =>
      match given.setSwitch switch with
      | .ok given => takeShort given rest
      | .error stop => .error stop
    | some (.withValue option), [] => .ok ⟨given, some option⟩
    | some (.withValue option), '=' :: value =>
      (given.setValue option (String.ofList value)).map (⟨·, none⟩)
    | some (.withValue option), value =>
      (given.setValue option (String.ofList value)).map (⟨·, none⟩)
    | none, _ => .error .usageError

/-- A word that does not start an option. -/
def takePlain (progress : Progress) (word : String) : Except Stop Progress :=
  match progress.awaiting with
  | some option => (progress.given.setValue option word).map (⟨·, none⟩)
  | none => .error .usageError

/-- The options of some words. Behind two hyphens no options follow, and the
command takes no other words. -/
def take (progress : Progress) : List String → Except Stop Progress
  | [] => .ok progress
  | word :: rest =>
    let started (option : Except Stop Progress) : Except Stop Progress :=
      if progress.awaiting.isSome then .error .usageError else option
    let taken := match word.toList with
      | ['-'] => takePlain progress word
      | ['-', '-'] =>
        started (if rest.isEmpty then .ok progress else .error .usageError)
      | '-' :: '-' :: long => started (takeLong progress.given long)
      | '-' :: short => started (takeShort progress.given short)
      | _ => takePlain progress word
    match taken with
    | .ok progress => take progress rest
    | .error stop => .error stop

/-- A query and a field are needed, and a run prints either SQL or a number. -/
def Given.finish (given : Given) : Except Stop Options :=
  match given.query with
  | none => .error .usageError
  | some query =>
    if given.fields.isEmpty ∨ (given.sql ∧ given.count) then .error .usageError
    else
      .ok
        ⟨query, given.fields, given.input, given.sql, given.count, given.debug⟩

def Options.ofArguments (arguments : List String) : Except Stop Options :=
  match take {} arguments with
  | .error stop => .error stop
  | .ok progress =>
    if progress.awaiting.isSome then .error .usageError
    else progress.given.finish

end RecordFilter.CommandLine

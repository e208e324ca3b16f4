import RecordFilter.Json.Value
import RecordFilter.Number.Integer
import RecordFilter.Number.Style

/-!
# Writing JSON

A document is written on one line without blanks, or with one item or member a
line and two blanks for each level.
-/

namespace RecordFilter

/-- Numbers are positional from five zeros behind the point up to sixteen digits
before it. -/
def JsonNumeral.style : NumberStyle where
  positional place := -5 ≤ place && place ≤ 15
  pointZero := true
  exponentSign := true
  tie := .toEven

def JsonNumeral.text : JsonNumeral → String
  | .integer value => String.ofList (integerText value)
  | .double value => style.text value

namespace JsonText

/-- One character of a string; only quotes, backslashes and controls are
escaped. -/
def escape (c : Char) : List Char :=
  if c = '"' then ['\\', '"']
  else if c = '\\' then ['\\', '\\']
  else if c = '\x08' then ['\\', 'b']
  else if c = '\t' then ['\\', 't']
  else if c = '\n' then ['\\', 'n']
  else if c = '\x0c' then ['\\', 'f']
  else if c = '\r' then ['\\', 'r']
  else if c.toNat < 0x20 then
    ['\\', 'u', '0', '0', Nat.digitChar (c.toNat / 16),
      Nat.digitChar (c.toNat % 16)]
  else [c]

def quoted (text : String) : String :=
  String.ofList ('"' :: (text.toList.flatMap escape ++ ['"']))

def inBrackets (parts : List String) : String :=
  "[" ++ ",".intercalate parts ++ "]"

def inBraces (parts : List String) : String :=
  "\x7b" ++ ",".intercalate parts ++ "\x7d"

/-- The start of a line of a level. -/
def indentation (level : Nat) : String :=
  String.ofList (List.replicate (2 * level) ' ')

/-- Parts on lines of their own between two brackets; nothing between brackets
without parts. -/
def onLines (opening closing : String) (level : Nat) (parts : List String) :
    String :=
  if parts.isEmpty then opening ++ closing
  else
    opening ++ "\n" ++
      ",\n".intercalate (parts.map (indentation (level + 1) ++ ·)) ++ "\n" ++
      indentation level ++ closing

end JsonText

namespace JsonValue

mutual

def compact : JsonValue → String
  | .null => "null"
  | .bool value => if value then "true" else "false"
  | .number value => value.text
  | .string value => JsonText.quoted value
  | .array items => JsonText.inBrackets (compactItems items)
  | .object members => JsonText.inBraces (compactMembers members)

def compactItems : List JsonValue → List String
  | [] => []
  | item :: rest => compact item :: compactItems rest

def compactMembers : List (String × JsonValue) → List String
  | [] => []
  | (key, value) :: rest =>
    (JsonText.quoted key ++ ":" ++ compact value) :: compactMembers rest

end

mutual

/-- The text of a value that starts on a line of a level. -/
def pretty (level : Nat) : JsonValue → String
  | .null => "null"
  | .bool value => if value then "true" else "false"
  | .number value => value.text
  | .string value => JsonText.quoted value
  | .array items =>
    JsonText.onLines "[" "]" level (prettyItems (level + 1) items)
  | .object members =>
    JsonText.onLines "\x7b" "\x7d" level (prettyMembers (level + 1) members)

def prettyItems (level : Nat) : List JsonValue → List String
  | [] => []
  | item :: rest => pretty level item :: prettyItems level rest

def prettyMembers (level : Nat) : List (String × JsonValue) → List String
  | [] => []
  | (key, value) :: rest =>
    (JsonText.quoted key ++ ": " ++ pretty level value) ::
      prettyMembers level rest

end

end JsonValue

end RecordFilter

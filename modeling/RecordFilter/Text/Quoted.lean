import RecordFilter.Text.Plain

/-!
# Quoted text

The written form of a text in diagnostics: between double quotes, with a
backslash before a quote or a backslash, with letters for the common controls,
and with the code of every other character that is not plain.
-/

namespace RecordFilter.Quoted

/-- One character between double quotes. -/
def escape (c : Char) : String :=
  if c = '\x00' then "\\0"
  else if c = '\t' then "\\t"
  else if c = '\r' then "\\r"
  else if c = '\n' then "\\n"
  else if c = '\\' then "\\\\"
  else if c = '"' then "\\\""
  else if isPlain c then c.toString
  else "\\u\x7b" ++ String.ofList (Nat.toDigits 16 c.toNat) ++ "\x7d"

def quote (text : String) : String :=
  "\"" ++ String.join (text.toList.map escape) ++ "\""

/-- Items between brackets. -/
def bracketed (items : List String) : String :=
  "[" ++ ", ".intercalate items ++ "]"

def quoteList (texts : List String) : String :=
  bracketed (texts.map quote)

end RecordFilter.Quoted

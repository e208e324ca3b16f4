import RecordFilter.Calendar.Date
import RecordFilter.Number.Integer
import RecordFilter.Text.Blank

/-!
# Dates as text

A date is a year, a month and a day with hyphens between them. Blanks may stand
before each number. A year has at most four digits unless it has a sign. A
number that no date can have is refused as soon as it is read; whether the day
exists is asked when the whole text has been read.
-/

namespace RecordFilter

inductive DateFault where
  | tooShort
  | invalid
  | outOfRange
  | trailing
  deriving DecidableEq

def DateFault.message : DateFault → String
  | .tooShort => "premature end of input"
  | .invalid => "input contains invalid characters"
  | .outOfRange => "input is out of range"
  | .trailing => "trailing input"

namespace DateText

/-- A part of a text that has been read, and the rest of the text. -/
abbrev Scanned (α : Type) := α × List Char

/-- A number of at least one and at most so many digits. -/
def digits (most : Nat) (text : List Char) : Except DateFault (Scanned Nat) :=
  let found := (text.take most).takeWhile Char.isDigit
  if text = [] then .error .tooShort
  else if found = [] then .error .invalid
  else .ok (Nat.ofDigitChars 10 found 0, text.drop found.length)

def character (expected : Char) : List Char → Except DateFault (List Char)
  | [] => .error .tooShort
  | c :: rest => if c = expected then .ok rest else .error .invalid

/-- A number of one or two digits within bounds. -/
def field (low high : Nat) (text : List Char) :
    Except DateFault (Scanned Nat) := do
  let (value, rest) ← digits 2 (trimStart text)
  if low ≤ value ∧ value ≤ high then .ok (value, rest) else .error .outOfRange

/-- A year with its sign; years beyond 32 bits are refused at once. -/
def year (text : List Char) : Except DateFault (Scanned Int) := do
  let (value, rest) ← match trimStart text with
    | '-' :: unsigned =>
      (digits unsigned.length unsigned).map fun (n, rest) => (-(n : Int), rest)
    | '+' :: unsigned =>
      (digits unsigned.length unsigned).map fun (n, rest) => ((n : Int), rest)
    | unsigned => (digits 4 unsigned).map fun (n, rest) => ((n : Int), rest)
  if fitsSigned maxInt32 value then .ok (value, rest) else .error .outOfRange

/-- A year, a month and a day, which need not exist together. -/
def yearMonthDay (text : List Char) :
    Except DateFault (Scanned (Int × Nat × Nat)) := do
  let (year, rest) ← year text
  let rest ← character '-' rest
  let (month, rest) ← field 1 12 rest
  let rest ← character '-' rest
  let (day, rest) ← field 1 31 rest
  .ok ((year, month, day), rest)

end DateText

namespace Date

def read (text : List Char) : Except DateFault Date := do
  let ((year, month, day), rest) ← DateText.yearMonthDay text
  if rest = [] then
    match of? year month day with
    | some date => .ok date
    | none => .error .outOfRange
  else .error .trailing

/-- Four digits, or a sign and at least four digits where four digits alone
would not do. -/
def yearText (year : Int) : List Char :=
  if 0 ≤ year ∧ year ≤ 9999 then paddedDigits 4 year.toNat
  else (if year < 0 then '-' else '+') :: paddedDigits 4 year.natAbs

def text (date : Date) : List Char :=
  yearText date.year ++ '-' ::
    (paddedDigits 2 date.month ++ '-' :: paddedDigits 2 date.day)

end Date

end RecordFilter

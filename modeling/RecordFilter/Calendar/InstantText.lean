import RecordFilter.Calendar.DateText
import RecordFilter.Calendar.Instant

/-!
# Instants as text

An instant is read in one of four forms. The timestamp has a fixed number of
digits and ends with the offset of its clock from universal time. The other
forms mean universal time: a date and a time with blanks or with the letter T
between them, and a date alone, which means its midnight.
-/

namespace RecordFilter

namespace TimeText

open DateText

/-- Digits after a decimal point, of which nine count. -/
def nanoseconds (text : List Char) : Except DateFault (Scanned Nat) := do
  let (value, rest) ← digits 9 text
  .ok (value * powerOfTen (9 - (text.length - rest.length)),
    rest.dropWhile Char.isDigit)

/-- Nothing, or a point and digits. -/
def fraction : List Char → Except DateFault (Scanned Nat)
  | '.' :: rest => nanoseconds rest
  | rest => .ok (0, rest)

/-- The second of the day and the nanosecond; the sixtieth second of a minute is
a leap second. -/
def ofFields (hour minute second nanosecond : Nat) : Nat × Nat :=
  if second = 60 then ((hour * 60 + minute) * 60 + 59, 1000000000 + nanosecond)
  else ((hour * 60 + minute) * 60 + second, nanosecond)

/-- Hour, minute and second with colons between them, and a fraction. -/
def clock (text : List Char) : Except DateFault (Scanned (Nat × Nat)) := do
  let (hour, rest) ← field 0 23 text
  let rest ← character ':' rest
  let (minute, rest) ← field 0 59 rest
  let rest ← character ':' rest
  let (second, rest) ← field 0 60 rest
  let (nanosecond, rest) ← fraction rest
  .ok (ofFields hour minute second nanosecond, rest)

end TimeText

namespace Timestamp

/-- A number of exactly so many digits. -/
def exactly? (count : Nat) (text : List Char) : Option (Nat × List Char) :=
  let found := text.take count
  if found.length = count ∧ found.all Char.isDigit then
    some (Nat.ofDigitChars 10 found 0, text.drop count)
  else none

def character? (expected : Char) : List Char → Option (List Char)
  | [] => none
  | c :: rest => if c = expected then some rest else none

/-- A number of two digits within bounds. -/
def field? (low high : Nat) (text : List Char) : Option (Nat × List Char) :=
  (exactly? 2 text).filter fun (value, _) => low ≤ value ∧ value ≤ high

/-- What may stand between the date and the time. -/
def separator? : List Char → Option (List Char)
  | [] => none
  | c :: rest => if c = 'T' ∨ c = 't' ∨ c = ' ' then some rest else none

/-- Hours and minutes by which a clock runs ahead, in seconds. -/
def offsetMagnitude? (text : List Char) : Option Nat := do
  let (hours, rest) ← field? 0 23 text
  let rest ← character? ':' rest
  let (minutes, rest) ← field? 0 59 rest
  if rest = [] then some ((hours * 60 + minutes) * 60) else none

/-- The offset that a timestamp ends with: a letter for none, or a sign and a
magnitude. The minus sign may be a hyphen or the mathematical sign. -/
def offset? : List Char → Option Int
  | [] => none
  | c :: rest =>
    if c = 'Z' ∨ c = 'z' then (if rest = [] then some 0 else none)
    else if c = '+' then
      (offsetMagnitude? rest).map fun seconds => (seconds : Int)
    else if c = '-' ∨ c = '\u2212' then
      (offsetMagnitude? rest).map fun seconds => -(seconds : Int)
    else none

def read? (text : List Char) : Option Instant := do
  let (year, rest) ← exactly? 4 text
  let rest ← character? '-' rest
  let (month, rest) ← field? 1 12 rest
  let rest ← character? '-' rest
  let (day, rest) ← field? 1 31 rest
  let rest ← separator? rest
  let (hour, rest) ← field? 0 23 rest
  let rest ← character? ':' rest
  let (minute, rest) ← field? 0 59 rest
  let rest ← character? ':' rest
  let (second, rest) ← field? 0 60 rest
  let (nanosecond, rest) ← (TimeText.fraction rest).toOption
  let offset ← offset? rest
  let date ← Date.of? year month day
  let (clockSecond, nanosecond) :=
    TimeText.ofFields hour minute second nanosecond
  Instant.ofClock? date clockSecond nanosecond offset

end Timestamp

namespace Instant

/-- A date and a time of which the part between them has been given. -/
def readSeparated? (separator : List Char → Except DateFault (List Char))
    (text : List Char) :
    Option Instant := do
  let ((year, month, day), rest) ← (DateText.yearMonthDay text).toOption
  let rest ← (separator rest).toOption
  let ((second, nanosecond), rest) ← (TimeText.clock rest).toOption
  if rest = [] then
    let date ← Date.of? year month day
    of? date second nanosecond
  else none

/-- The form with any number of blanks between date and time, also none. -/
def readBlankSeparated? : List Char → Option Instant :=
  readSeparated? fun rest => .ok (trimStart rest)

/-- The form with a capital T between date and time. -/
def readLetterSeparated? : List Char → Option Instant :=
  readSeparated? (DateText.character 'T')

/-- The form without a time. -/
def readMidnight? (text : List Char) : Option Instant :=
  (Date.read text).toOption.map midnight

def read? (text : List Char) : Option Instant :=
  Timestamp.read? text <|> readBlankSeparated? text
    <|> readLetterSeparated? text
    <|> readMidnight? text

/-- A point and the nanoseconds in groups of three digits, as many as it takes;
nothing for none. -/
def fractionText (nanosecond : Nat) : List Char :=
  if nanosecond = 0 then []
  else if nanosecond % 1000000 = 0 then
    '.' :: paddedDigits 3 (nanosecond / 1000000)
  else if nanosecond % 1000 = 0 then '.' :: paddedDigits 6 (nanosecond / 1000)
  else '.' :: paddedDigits 9 nanosecond

/-- Date and time of day without an offset; a leap second is written as the
second 60. -/
def clockText (instant : Instant) : List Char :=
  let leap := 1000000000 ≤ instant.nanosecond
  let second := instant.second % 60 + (if leap then 1 else 0)
  let nanosecond :=
    if leap then instant.nanosecond - 1000000000 else instant.nanosecond
  instant.date.text ++ 'T' :: (paddedDigits 2 (instant.second / 3600) ++ ':' ::
    (paddedDigits 2 (instant.second / 60 % 60) ++ ':' ::
      (paddedDigits 2 second ++ fractionText nanosecond)))

/-- The timestamp with the offset in digits. -/
def text (instant : Instant) : List Char :=
  instant.clockText ++ "+00:00".toList

/-- The timestamp with the offset as a letter. -/
def shortText (instant : Instant) : List Char :=
  instant.clockText ++ ['Z']

end Instant

end RecordFilter

/-!
# Dates

Days of the Gregorian calendar, continued to the years before it was introduced
and with a year zero. Years are bounded far beyond any date in use.
-/

namespace RecordFilter

def isLeapYear (year : Int) : Bool :=
  year % 4 == 0 && (year % 100 != 0 || year % 400 == 0)

def daysInMonth (year : Int) (month : Nat) : Nat :=
  if month = 2 then (if isLeapYear year then 29 else 28)
  else if month = 4 ∨ month = 6 ∨ month = 9 ∨ month = 11 then 30
  else 31

/-- The calendar has this day and its year is within bounds. -/
def IsDay (year : Int) (month day : Nat) : Prop :=
  (-262143 ≤ year ∧ year ≤ 262142) ∧ (1 ≤ month ∧ month ≤ 12) ∧
    1 ≤ day ∧ day ≤ daysInMonth year month

instance (year : Int) (month day : Nat) : Decidable (IsDay year month day) :=
  inferInstanceAs (Decidable (_ ∧ _ ∧ _ ∧ _))

structure Date where
  year : Int
  month : Nat
  day : Nat
  isDay : IsDay year month day
  deriving DecidableEq

namespace Date

def of? (year : Int) (month day : Nat) : Option Date :=
  if h : IsDay year month day then some ⟨year, month, day, h⟩ else none

def order (left right : Date) : Ordering :=
  (compare left.year right.year).then
    ((compare left.month right.month).then (compare left.day right.day))

/-- The day after; none after the last day of the calendar. -/
def next? (date : Date) : Option Date :=
  if date.day < daysInMonth date.year date.month then
    of? date.year date.month (date.day + 1)
  else if date.month < 12 then of? date.year (date.month + 1) 1
  else of? (date.year + 1) 1 1

/-- The day before; none before the first day of the calendar. -/
def previous? (date : Date) : Option Date :=
  if 1 < date.day then of? date.year date.month (date.day - 1)
  else if 1 < date.month then
    of? date.year (date.month - 1) (daysInMonth date.year (date.month - 1))
  else of? (date.year - 1) 12 31

/-- The day with a number of days from the first of January 1970. Counting
starts at the first of March of year zero, so that a leap day is the last of its
year, of four years, and of four centuries. -/
def ofEpochDay? (epochDay : Int) : Option Date :=
  let marchDay := epochDay + 719468
  let era := Int.fdiv marchDay 146097
  let eraDay := (marchDay - era * 146097).toNat
  let eraYear :=
    (eraDay - eraDay / 1460 + eraDay / 36524 - eraDay / 146096) / 365
  let yearDay := eraDay - (365 * eraYear + eraYear / 4 - eraYear / 100)
  let marchMonth := (5 * yearDay + 2) / 153
  let day := yearDay - (153 * marchMonth + 2) / 5 + 1
  let month := if marchMonth < 10 then marchMonth + 3 else marchMonth - 9
  of? (eraYear + era * 400 + (if month ≤ 2 then 1 else 0)) month day

end Date

end RecordFilter

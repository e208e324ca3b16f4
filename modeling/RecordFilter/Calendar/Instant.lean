import RecordFilter.Calendar.Date

/-!
# Instants

A point in universal time: a day, a second of the day and a fraction of the
second. A leap second is counted as the second thousand million nanoseconds of
the last second of its minute, so it comes after all of that second and before
the next one.
-/

namespace RecordFilter

structure Instant where
  date : Date
  /-- The second of the day. -/
  second : Nat
  nanosecond : Nat
  second_lt : second < 86400
  nanosecond_lt : nanosecond < 2000000000
  leap : 1000000000 ≤ nanosecond → second % 60 = 59
  deriving DecidableEq

namespace Instant

def of? (date : Date) (second nanosecond : Nat) : Option Instant :=
  if h : second < 86400 ∧ nanosecond < 2000000000 ∧
      (1000000000 ≤ nanosecond → second % 60 = 59) then
    some ⟨date, second, nanosecond, h.1, h.2.1, h.2.2⟩
  else none

def midnight (date : Date) : Instant where
  date := date
  second := 0
  nanosecond := 0
  second_lt := by decide
  nanosecond_lt := by decide
  leap := by decide

def order (left right : Instant) : Ordering :=
  (left.date.order right.date).then
    ((compare left.second right.second).then
      (compare left.nanosecond right.nanosecond))

/-- An instant given by a clock that runs ahead of universal time by less than a
day. -/
def ofClock? (date : Date) (second nanosecond : Nat) (ahead : Int) :
    Option Instant :=
  let universal := (second : Int) - ahead
  if universal < 0 then
    date.previous?.bind (of? · (universal + 86400).toNat nanosecond)
  else if 86400 ≤ universal then
    date.next?.bind (of? · (universal - 86400).toNat nanosecond)
  else of? date universal.toNat nanosecond

/-- An instant given by the seconds since the start of 1970. -/
def ofEpochSecond? (epochSecond : Int) (nanosecond : Nat) : Option Instant :=
  (Date.ofEpochDay? (Int.fdiv epochSecond 86400)).bind
    (of? · (Int.fmod epochSecond 86400).toNat nanosecond)

end Instant

end RecordFilter

import Mathlib.Data.List.DropRight
import Mathlib.Data.List.TakeWhile
import RecordFilter.Proofs.Calendar.InstantText
import RecordFilter.Proofs.Outcome

/-!
# One form for each instant

The four forms of an instant begin with the same date, also where the timestamp
asks for a fixed number of digits. What comes after the date is a time with a
zone, a time, the letter and a time, or nothing. A clock starts with a digit
after its blanks and leaves the same rest whatever the form, so this text tells
the form, and it does not matter which form is tried first.
-/

namespace RecordFilter

/-! ## Numbers that all forms read alike -/

namespace DateText

theorem exists_isDigit_of_digits {most : Nat} {text : List Char}
    {scanned : Scanned Nat} (hread : digits most text = .ok scanned) :
    ∃ c rest, text = c :: rest ∧ c.isDigit = true := by
  cases text with
  | nil => contradiction
  | cons c rest =>
      refine ⟨c, rest, rfl, ?_⟩
      by_contra hother
      cases most <;> simp [digits, hother] at hread

/-- So many digits as the reader takes need nothing that ends them. -/
theorem digits_append_of_length {found : List Char} (hfound : AllDigits found)
    (hne : found ≠ []) (rest : List Char) :
    digits found.length (found ++ rest) =
      .ok (Nat.ofDigitChars 10 found 0, rest) := by
  have hall : found.takeWhile Char.isDigit = found :=
    List.takeWhile_eq_self_iff.mpr hfound
  have hsome : found ++ rest ≠ [] := by
    simp [hne]
  simp only [digits, List.take_left, hall, hsome, hne, if_false, List.drop_left]

theorem eq_cons_of_character {expected : Char} {text rest : List Char}
    (hread : character expected text = .ok rest) : text = expected :: rest := by
  cases text with
  | nil => contradiction
  | cons c tail =>
      by_cases hsame : c = expected
      · rw [character, if_pos hsame] at hread
        cases hread
        rw [hsame]
      · rw [character, if_neg hsame] at hread
        contradiction

end DateText

namespace Timestamp

open DateText

variable {text rest : List Char} {n : Nat}

theorem exists_append_of_exactly? {count : Nat}
    (hread : exactly? count text = some (n, rest)) :
    ∃ found, found.length = count ∧ AllDigits found ∧
      Nat.ofDigitChars 10 found 0 = n ∧ found ++ rest = text := by
  simp only [exactly?, Option.ite_none_right_eq_some, Option.some.injEq,
    Prod.mk.injEq] at hread
  rcases hread with ⟨⟨hlength, hdigits⟩, hn, hrest⟩
  refine ⟨_, hlength, List.all_eq_true.mp hdigits, hn, ?_⟩
  rw [← hrest, List.take_append_drop]

theorem digits_of_exactly? {count : Nat} (hcount : 0 < count)
    (hread : exactly? count text = some (n, rest)) :
    digits count text = .ok (n, rest) := by
  rcases exists_append_of_exactly? hread with
    ⟨found, hlength, hdigits, hn, htext⟩
  have hne : found ≠ [] := by
    rintro rfl
    exact hcount.ne hlength
  rw [← hlength, ← hn, ← htext]
  exact digits_append_of_length hdigits hne rest

theorem year_of_exactly? (hread : exactly? 4 text = some (n, rest)) :
    year text = .ok ((n : Int), rest) := by
  have hdigits := digits_of_exactly? (by decide) hread
  have hfits : fitsSigned maxInt32 n = true := by
    rcases exists_append_of_exactly? hread with
      ⟨found, hlength, hfound, hn, -⟩
    have hbound := ofDigitChars_lt hfound 0
    rw [hn, hlength] at hbound
    exact fitsSigned_maxInt32 (by omega) (by omega)
  rcases exists_isDigit_of_digits hdigits with ⟨c, tail, rfl, hc⟩
  rw [year_of_isDigit hc, hdigits]
  exact if_pos hfits

theorem field_of_field? {low high : Nat}
    (hread : field? low high text = some (n, rest)) :
    field low high text = .ok (n, rest) := by
  rcases Option.filter_eq_some_iff.mp hread with ⟨hexact, hbounds⟩
  have hdigits := digits_of_exactly? (by decide) hexact
  rcases exists_isDigit_of_digits hdigits with ⟨c, tail, rfl, hc⟩
  rw [field, trimStart_cons_of_isInk (isInk_of_isDigit hc), hdigits]
  exact if_pos (of_decide_eq_true hbounds)

theorem character_of_character? {expected : Char} {tail : List Char}
    (hread : character? expected text = some tail) :
    character expected text = .ok tail := by
  cases text with
  | nil => contradiction
  | cons c rest =>
      simp only [character?, Option.ite_none_right_eq_some,
        Option.some.injEq] at hread
      rw [character, if_pos hread.1, hread.2]

theorem exists_cons_of_separator? (hread : separator? text = some rest) :
    ∃ mark, text = mark :: rest ∧ (mark = 'T' ∨ mark = 't' ∨ mark = ' ') := by
  cases text with
  | nil => contradiction
  | cons mark tail =>
      simp only [separator?, Option.ite_none_right_eq_some,
        Option.some.injEq] at hread
      exact ⟨mark, by rw [hread.2], hread.1⟩

/-- A timestamp is a date and a time in the sense of the other forms, and there
is a zone behind the time. -/
theorem exists_of_read? {instant : Instant}
    (hread : read? text = some instant) :
    ∃ ymd mark time reading zone,
      yearMonthDay text = .ok (ymd, mark :: time) ∧
      (mark = 'T' ∨ mark = 't' ∨ mark = ' ') ∧
      TimeText.clock time = .ok (reading, zone) ∧ zone ≠ [] := by
  rcases Option.bind_eq_some_iff.mp hread with ⟨⟨year, afterYear⟩, hyear, hread⟩
  rcases Option.bind_eq_some_iff.mp hread with ⟨afterHyphen, hhyphen, hread⟩
  rcases Option.bind_eq_some_iff.mp hread with
    ⟨⟨month, afterMonth⟩, hmonth, hread⟩
  rcases Option.bind_eq_some_iff.mp hread with
    ⟨afterSecondHyphen, hsecondHyphen, hread⟩
  rcases Option.bind_eq_some_iff.mp hread with ⟨⟨day, afterDay⟩, hday, hread⟩
  rcases Option.bind_eq_some_iff.mp hread with ⟨time, hseparator, hread⟩
  rcases Option.bind_eq_some_iff.mp hread with ⟨⟨hour, afterHour⟩, hhour, hread⟩
  rcases Option.bind_eq_some_iff.mp hread with ⟨afterColon, hcolon, hread⟩
  rcases Option.bind_eq_some_iff.mp hread with
    ⟨⟨minute, afterMinute⟩, hminute, hread⟩
  rcases Option.bind_eq_some_iff.mp hread with
    ⟨afterSecondColon, hsecondColon, hread⟩
  rcases Option.bind_eq_some_iff.mp hread with
    ⟨⟨second, afterSecond⟩, hsecond, hread⟩
  rcases Option.bind_eq_some_iff.mp hread with
    ⟨⟨nanosecond, zone⟩, hfraction, hread⟩
  rcases Option.bind_eq_some_iff.mp hread with ⟨offset, hoffset, -⟩
  rw [Outcome.toOption_eq_some_iff] at hfraction
  rcases exists_cons_of_separator? hseparator with ⟨mark, rfl, hmark⟩
  refine ⟨(year, month, day), mark, time,
    TimeText.ofFields hour minute second nanosecond, zone, ?_, hmark, ?_, ?_⟩
  · simp only [yearMonthDay, year_of_exactly? hyear,
      character_of_character? hhyphen, field_of_field? hmonth,
      character_of_character? hsecondHyphen, field_of_field? hday, bind,
      Except.bind]
  · simp only [TimeText.clock, field_of_field? hhour,
      character_of_character? hcolon, field_of_field? hminute,
      character_of_character? hsecondColon, field_of_field? hsecond, hfraction,
      bind, Except.bind]
  · rintro rfl
    contradiction

end Timestamp

/-! ## Clocks -/

namespace TimeText

open DateText

theorem clock_trimStart (text : List Char) :
    clock (trimStart text) = clock text := by
  have hfield : field 0 23 (trimStart text) = field 0 23 text := by
    rw [field, field, trimStart, trimStart, List.dropWhile_idempotent]
  rw [clock, clock, hfield]

theorem clock_cons_of_isBlank {c : Char} (hblank : isBlank c = true)
    (text : List Char) : clock (c :: text) = clock text := by
  have htrim : trimStart (c :: text) = trimStart text :=
    List.dropWhile_cons_of_pos hblank
  rw [← clock_trimStart (c :: text), htrim, clock_trimStart]

theorem exists_isDigit_of_clock {text : List Char}
    {scanned : Scanned (Nat × Nat)} (hclock : clock text = .ok scanned) :
    ∃ c rest, trimStart text = c :: rest ∧ c.isDigit = true := by
  rcases Outcome.bind_eq_ok_iff.mp hclock with ⟨hour, hfield, -⟩
  rcases Outcome.bind_eq_ok_iff.mp hfield with ⟨number, hdigits, -⟩
  exact exists_isDigit_of_digits hdigits

/-- A letter between date and time belongs to no clock. -/
theorem exists_error_of_letter {letter : Char}
    (hletter : letter = 'T' ∨ letter = 't') (rest : List Char) :
    ∃ fault, clock (letter :: rest) = .error fault := by
  have hblank : isBlank letter = false := by
    rcases hletter with rfl | rfl <;> decide
  have hother : letter.isDigit = false := by
    rcases hletter with rfl | rfl <;> decide
  cases hclock : clock (letter :: rest) with
  | error fault => exact ⟨fault, rfl⟩
  | ok scanned =>
      rcases exists_isDigit_of_clock hclock with ⟨c, tail, htrim, hdigit⟩
      simp only [trimStart, List.dropWhile_cons, hblank] at htrim
      cases htrim
      rw [hother] at hdigit
      contradiction

end TimeText

/-! ## What comes after the date -/

/-- The forms in which instants are read. -/
inductive InstantForm where
  | timestamp
  | blankSeparated
  | letterSeparated
  | dateAlone
  deriving DecidableEq

namespace InstantForm

/-- The text may come after the date of an instant in this form. -/
inductive FollowsDate : InstantForm → List Char → Prop
  | timestamp {mark : Char} (hmark : mark = 'T' ∨ mark = 't' ∨ mark = ' ')
      {time zone : List Char} {reading : Nat × Nat}
      (hclock : TimeText.clock time = .ok (reading, zone)) (hzone : zone ≠ []) :
    FollowsDate .timestamp (mark :: time)
  | blankSeparated {time : List Char} {reading : Nat × Nat}
      (hclock : TimeText.clock time = .ok (reading, [])) :
    FollowsDate .blankSeparated time
  | letterSeparated {time : List Char} {reading : Nat × Nat}
      (hclock : TimeText.clock time = .ok (reading, [])) :
    FollowsDate .letterSeparated ('T' :: time)
  | dateAlone : FollowsDate .dateAlone []

/-- The only form in which the text may come after the date. -/
def following (rest : List Char) : InstantForm :=
  if rest = [] then .dateAlone
  else
    match TimeText.clock rest, TimeText.clock rest.tail with
    | .ok (_, []), _ => .blankSeparated
    | .error _, .ok (_, []) => .letterSeparated
    | _, _ => .timestamp

theorem following_cons_of_error {mark : Char} {time : List Char}
    {fault : DateFault} (herror : TimeText.clock (mark :: time) = .error fault)
    {reading : Nat × Nat} {zone : List Char}
    (hclock : TimeText.clock time = .ok (reading, zone)) :
    following (mark :: time) =
      if zone = [] then .letterSeparated else .timestamp := by
  cases zone <;> simp [following, herror, hclock]

theorem following_of_clock {rest : List Char} {reading : Nat × Nat}
    {zone : List Char} (hclock : TimeText.clock rest = .ok (reading, zone)) :
    following rest = if zone = [] then .blankSeparated else .timestamp := by
  rcases TimeText.exists_isDigit_of_clock hclock with ⟨c, tail, htrim, -⟩
  have hne : rest ≠ [] := by
    rintro rfl
    contradiction
  cases zone <;> simp [following, hne, hclock]

/-- What comes after the date tells the form. -/
theorem FollowsDate.following_eq {form : InstantForm} {rest : List Char}
    (hrest : form.FollowsDate rest) : following rest = form := by
  cases hrest with
  | dateAlone => rfl
  | blankSeparated hclock => exact following_of_clock hclock
  | letterSeparated hclock =>
      rcases TimeText.exists_error_of_letter (.inl rfl) _ with ⟨fault, herror⟩
      exact following_cons_of_error herror hclock
  | timestamp hmark hclock hzone =>
      rcases or_assoc.mpr hmark with hletter | rfl
      · rcases TimeText.exists_error_of_letter hletter _ with ⟨fault, herror⟩
        rw [following_cons_of_error herror hclock, if_neg hzone]
      · -- The clock skips the blank, so only the zone tells the form.
        rw [← TimeText.clock_cons_of_isBlank (by decide : isBlank ' ' = true)]
          at hclock
        rw [following_of_clock hclock, if_neg hzone]

/-! ## The forms -/

/-- The forms in the order in which they are tried. -/
def all : List InstantForm :=
  [.timestamp, .blankSeparated, .letterSeparated, .dateAlone]

def read? : InstantForm → List Char → Option Instant
  | .timestamp => Timestamp.read?
  | .blankSeparated => Instant.readBlankSeparated?
  | .letterSeparated => Instant.readLetterSeparated?
  | .dateAlone => Instant.readMidnight?

theorem exists_of_readSeparated?
    {separator : List Char → Except DateFault (List Char)} {text : List Char}
    {instant : Instant}
    (hread : Instant.readSeparated? separator text = some instant) :
    ∃ ymd rest time reading, DateText.yearMonthDay text = .ok (ymd, rest) ∧
      separator rest = .ok time ∧
      TimeText.clock time = .ok (reading, []) := by
  simp only [Instant.readSeparated?, bind, Option.bind_eq_some_iff, Prod.exists,
    Outcome.toOption_eq_some_iff, Option.ite_none_right_eq_some] at hread
  rcases hread with
    ⟨year, month, day, rest, hdate, time, hseparator, second, nanosecond, zone,
      hclock, rfl, -⟩
  exact ⟨_, rest, time, _, hdate, hseparator, hclock⟩

/-- An instant in one of the forms is a date with a text of the form after
it. -/
theorem exists_followsDate_of_read? {form : InstantForm} {text : List Char}
    {instant : Instant} (hread : form.read? text = some instant) :
    ∃ ymd rest, DateText.yearMonthDay text = .ok (ymd, rest) ∧
      form.FollowsDate rest := by
  cases form with
  | timestamp =>
      rcases Timestamp.exists_of_read? hread with
        ⟨ymd, mark, time, reading, zone, hdate, hmark, hclock, hzone⟩
      exact ⟨ymd, _, hdate, .timestamp hmark hclock hzone⟩
  | blankSeparated =>
      simp only [read?, Instant.readBlankSeparated?] at hread
      rcases exists_of_readSeparated? hread with
        ⟨ymd, rest, time, reading, hdate, hseparator, hclock⟩
      cases hseparator
      rw [TimeText.clock_trimStart] at hclock
      exact ⟨ymd, rest, hdate, .blankSeparated hclock⟩
  | letterSeparated =>
      simp only [read?, Instant.readLetterSeparated?] at hread
      rcases exists_of_readSeparated? hread with
        ⟨ymd, rest, time, reading, hdate, hseparator, hclock⟩
      rw [DateText.eq_cons_of_character hseparator] at hdate
      exact ⟨ymd, _, hdate, .letterSeparated hclock⟩
  | dateAlone =>
      rcases Option.map_eq_some_iff.mp hread with ⟨date, hdate, -⟩
      have hparts := Outcome.toOption_eq_some_iff.mp hdate
      rcases Outcome.bind_eq_ok_iff.mp hparts with ⟨⟨ymd, rest⟩, hymd, hend⟩
      have hrest : rest = [] := by
        by_contra hne
        simp [hne] at hend
      rw [hrest] at hymd
      exact ⟨ymd, [], hymd, .dateAlone⟩

theorem eq_of_read? {form other : InstantForm} {text : List Char}
    (hform : (form.read? text).isSome = true)
    (hother : (other.read? text).isSome = true) : form = other := by
  rcases Option.isSome_iff_exists.mp hform with ⟨instant, hinstant⟩
  rcases Option.isSome_iff_exists.mp hother with ⟨found, hfound⟩
  rcases exists_followsDate_of_read? hinstant with ⟨ymd, rest, hdate, hrest⟩
  rcases exists_followsDate_of_read? hfound with ⟨_, _, hsame, hothers⟩
  cases hdate.symm.trans hsame
  exact hrest.following_eq.symm.trans hothers.following_eq

/-! ## The order of the attempts -/

section Order

variable {order : List InstantForm} {text : List Char} {instant : Instant}

/-- Reads an instant in the first of the forms that accepts the text. -/
def readFirst? (order : List InstantForm) (text : List Char) :
    Option Instant :=
  order.findSome? (·.read? text)

theorem readFirst?_all (text : List Char) :
    readFirst? all text = Instant.read? text := by
  unfold readFirst? all Instant.read?
  simp only [List.findSome?_cons, List.findSome?_nil, read?]
  cases Timestamp.read? text <;>
    cases Instant.readBlankSeparated? text <;>
    cases Instant.readLetterSeparated? text <;>
    cases Instant.readMidnight? text <;> rfl

theorem mem_all (form : InstantForm) : form ∈ all := by
  cases form <;> decide

theorem readFirst?_eq_some_iff (horder : ∀ form : InstantForm, form ∈ order) :
    readFirst? order text = some instant ↔
      ∃ form : InstantForm, form.read? text = some instant := by
  constructor
  · intro hfirst
    rcases List.exists_of_findSome?_eq_some hfirst with ⟨form, -, hread⟩
    exact ⟨form, hread⟩
  · rintro ⟨form, hread⟩
    cases hfirst : readFirst? order text with
    | none =>
        have hnone := List.findSome?_eq_none_iff.mp hfirst form (horder form)
        rw [hread] at hnone
        contradiction
    | some found =>
        rcases List.exists_of_findSome?_eq_some hfirst with
          ⟨other, -, hother⟩
        have hsame : form = other :=
          eq_of_read? (Option.isSome_of_eq_some hread)
            (Option.isSome_of_eq_some hother)
        rw [← hsame] at hother
        exact hother.symm.trans hread

theorem read?_eq_some_iff :
    Instant.read? text = some instant ↔
      ∃ form : InstantForm, form.read? text = some instant := by
  rw [← readFirst?_all, readFirst?_eq_some_iff mem_all]

theorem readFirst?_eq_of_perm (horder : order.Perm all) :
    readFirst? order text = Instant.read? text := by
  have hmem : ∀ form : InstantForm, form ∈ order := by
    intro form
    exact horder.mem_iff.mpr (mem_all form)
  apply Option.ext
  intro instant
  rw [readFirst?_eq_some_iff hmem, read?_eq_some_iff]

end Order

/-! ## Literals -/

theorem read_dateTime_of_read_date {text : String} {date : Date}
    (hdate : FieldType.date.read text = .ok (.date date)) :
    FieldType.dateTime.read text = .ok (.dateTime (Instant.midnight date)) := by
  have hread : Date.read (trim text.toList) = .ok date := by
    simp only [FieldType.read, Literal.readDate] at hdate
    split at hdate
    case h_1 found hfound =>
      cases hdate
      exact hfound
    case h_2 => contradiction
  have hform : InstantForm.dateAlone.read? (trim text.toList) =
      some (Instant.midnight date) := by
    simp only [read?, Instant.readMidnight?, hread, Except.toOption,
      Option.map]
  simp only [FieldType.read, Literal.readDateTime,
    read?_eq_some_iff.mpr ⟨_, hform⟩]

/-- A literal has at most one of the forms, so any order of the forms reads the
same value, and the literal of a date is also that of its midnight. -/
theorem unambiguous (text : String) :
    (∀ form other : InstantForm,
      (form.read? (trim text.toList)).isSome = true →
        (other.read? (trim text.toList)).isSome = true → form = other) ∧
    (∀ order : List InstantForm, order.Perm all →
      FieldType.dateTime.read text =
        match readFirst? order (trim text.toList) with
        | some instant => .ok (.dateTime instant)
        | none => .error .notTimestamp) ∧
    (∀ date, FieldType.date.read text = .ok (.date date) →
      FieldType.dateTime.read text =
        .ok (.dateTime (Instant.midnight date))) := by
  refine ⟨fun form other => eq_of_read?, ?_, fun date =>
    read_dateTime_of_read_date⟩
  intro order horder
  rw [readFirst?_eq_of_perm horder]
  rfl

def firstOfMay : Date := ⟨2024, 5, 1, by decide⟩

/-- A date is not taken for anything else if it is tried before the other
forms. -/
theorem unambiguous_firstOfMay :
    FieldType.dateTime.read " 2024-5- 1 " =
      .ok (.dateTime (Instant.midnight firstOfMay)) ∧
    readFirst? all.reverse (trim " 2024-5- 1 ".toList) =
      some (Instant.midnight firstOfMay) ∧
    ∀ form : InstantForm,
      (form.read? (trim " 2024-5- 1 ".toList)).isSome = true →
        form = .dateAlone := by
  rcases unambiguous " 2024-5- 1 " with ⟨hunique, horder, hmidnight⟩
  have hdate : FieldType.date.read " 2024-5- 1 " = .ok (.date firstOfMay) := by
    decide +kernel
  have halone : (InstantForm.dateAlone.read?
      (trim " 2024-5- 1 ".toList)).isSome = true := by
    decide +kernel
  have hread := hmidnight firstOfMay hdate
  refine ⟨hread, ?_, fun form hform => hunique form _ hform halone⟩
  rw [horder all.reverse (List.reverse_perm all)] at hread
  split at hread
  case h_1 instant hfirst =>
    cases hread
    exact hfirst
  case h_2 => contradiction

end InstantForm

end RecordFilter

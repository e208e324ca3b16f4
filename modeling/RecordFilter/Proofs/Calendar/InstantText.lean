import RecordFilter.Proofs.Calendar.DateText
import RecordFilter.Value.Literal
import RecordFilter.Value.Text

/-!
# Instants read back

An instant has two texts, which differ in how they write that the clock does not
run ahead. Both are timestamps if the year has four digits, and then they are
read as the same instant, also within a leap second. A year that needs a sign
fits none of the four forms that are read: the timestamp has no place for the
sign, and the other forms have none for what comes after the clock.
-/

namespace RecordFilter

/-! ## Parts of a timestamp -/

namespace Timestamp

theorem exactly?_append {found : List Char} (hfound : AllDigits found)
    (rest : List Char) :
    exactly? found.length (found ++ rest) =
      some (Nat.ofDigitChars 10 found 0, rest) := by
  have hall : found.all Char.isDigit = true := List.all_eq_true.mpr hfound
  simp only [exactly?, List.take_left, List.drop_left, hall, and_self, if_true]

theorem exactly?_paddedDigits {width n : Nat} (hwidth : 0 < width)
    (hn : n < 10 ^ width) (rest : List Char) :
    exactly? width (paddedDigits width n ++ rest) = some (n, rest) := by
  have hexact := exactly?_append (allDigits_paddedDigits width n) rest
  rw [length_paddedDigits hwidth hn, ofDigitChars_paddedDigits] at hexact
  exact hexact

theorem field?_paddedDigits {low high n : Nat} (hlow : low ≤ n)
    (hhigh : n ≤ high) (hhundred : n < 10 ^ 2) (rest : List Char) :
    field? low high (paddedDigits 2 n ++ rest) = some (n, rest) := by
  have hexact := exactly?_paddedDigits Nat.zero_lt_two hhundred rest
  simp [field?, hexact, hlow, hhigh]

theorem exactly?_cons_eq_none {c : Char} (hc : c.isDigit = false)
    (count : Nat) (rest : List Char) :
    exactly? (count + 1) (c :: rest) = none := by
  simp [exactly?, hc]

end Timestamp

namespace TimeText

open DateText

theorem nanoseconds_paddedDigits {width n : Nat} (hwidth : 0 < width)
    (hnine : width ≤ 9) (hn : n < 10 ^ width) {rest : List Char}
    (hrest : EndsDigits rest) :
    nanoseconds (paddedDigits width n ++ rest) =
      .ok (n * 10 ^ (9 - width), rest) := by
  have hdigits := digits_paddedDigits hwidth hn hnine hrest
  have hlength := length_paddedDigits hwidth hn
  have htail : rest.dropWhile Char.isDigit = rest := by
    cases rest with
    | nil => rfl
    | cons c rest => simp [hrest c rfl]
  have hcount : (paddedDigits width n ++ rest).length - rest.length =
      width := by
    rw [List.length_append, hlength, Nat.add_sub_cancel]
  rw [nanoseconds, hdigits]
  simp only [bind, Except.bind, hcount, htail]
  rfl

/-- Trailing zeros may be left out, and the reader puts them back. -/
theorem fraction_point_paddedDigits (width : Nat) (hwidth : 0 < width)
    (hnine : width ≤ 9) {nanosecond : Nat} (hbound : nanosecond < 10 ^ 9)
    (hzeros : 10 ^ (9 - width) ∣ nanosecond) {rest : List Char}
    (hrest : EndsDigits rest) :
    fraction ('.' :: (paddedDigits width (nanosecond / 10 ^ (9 - width)) ++
        rest)) =
      .ok (nanosecond, rest) := by
  have hshort : nanosecond / 10 ^ (9 - width) < 10 ^ width := by
    apply Nat.div_lt_of_lt_mul
    rw [← Nat.pow_add, Nat.sub_add_cancel hnine]
    exact hbound
  rw [fraction, nanoseconds_paddedDigits hwidth hnine hshort hrest,
    Nat.div_mul_cancel hzeros]

theorem fraction_fractionText {nanosecond : Nat}
    (hbound : nanosecond < 10 ^ 9) {rest : List Char}
    (hrest : EndsDigits rest) (hpoint : rest.head? ≠ some '.') :
    fraction (Instant.fractionText nanosecond ++ rest) =
      .ok (nanosecond, rest) := by
  unfold Instant.fractionText
  by_cases hzero : nanosecond = 0
  · subst nanosecond
    rw [if_pos rfl, List.nil_append]
    unfold fraction
    split
    · exact absurd rfl hpoint
    · rfl
  · rw [if_neg hzero]
    by_cases hmilli : nanosecond % 1000000 = 0
    · rw [if_pos hmilli]
      exact fraction_point_paddedDigits 3 (by omega) (by omega)
        hbound (Nat.dvd_of_mod_eq_zero hmilli) hrest
    · rw [if_neg hmilli]
      by_cases hmicro : nanosecond % 1000 = 0
      · rw [if_pos hmicro]
        exact fraction_point_paddedDigits 6 (by omega) (by omega)
          hbound (Nat.dvd_of_mod_eq_zero hmicro) hrest
      · rw [if_neg hmicro]
        have hread := fraction_point_paddedDigits 9 (by omega)
          (Nat.le_refl 9) hbound (Nat.one_dvd nanosecond) hrest
        rw [Nat.sub_self, Nat.pow_zero, Nat.div_one] at hread
        exact hread

end TimeText

/-! ## The clock of an instant -/

namespace Instant

open DateText

def shownSecond (instant : Instant) : Nat :=
  instant.second % 60 + (if 1000000000 ≤ instant.nanosecond then 1 else 0)

def shownNanosecond (instant : Instant) : Nat :=
  if 1000000000 ≤ instant.nanosecond then instant.nanosecond - 1000000000
  else instant.nanosecond

/-- Hour, minute, second and fraction as they are shown. -/
def timeText (instant : Instant) : List Char :=
  paddedDigits 2 (instant.second / 3600) ++ ':' ::
    (paddedDigits 2 (instant.second / 60 % 60) ++ ':' ::
      (paddedDigits 2 instant.shownSecond ++
        fractionText instant.shownNanosecond))

theorem clockText_eq (instant : Instant) :
    instant.clockText = instant.date.text ++ 'T' :: instant.timeText := rfl

theorem shownSecond_le (instant : Instant) : instant.shownSecond ≤ 60 := by
  unfold shownSecond
  split <;> omega

theorem shownNanosecond_lt (instant : Instant) :
    instant.shownNanosecond < 10 ^ 9 := by
  have hbound := instant.nanosecond_lt
  unfold shownNanosecond
  split <;> omega

/-- Only a leap second is shown as the second 60. -/
theorem ofFields_shown (instant : Instant) :
    TimeText.ofFields (instant.second / 3600) (instant.second / 60 % 60)
        instant.shownSecond instant.shownNanosecond =
      (instant.second, instant.nanosecond) := by
  have hleap := instant.leap
  unfold TimeText.ofFields shownSecond shownNanosecond
  by_cases hshown : 1000000000 ≤ instant.nanosecond
  · have hlast := hleap hshown
    rw [if_pos hshown, if_pos hshown, if_pos (by omega), Prod.mk.injEq]
    constructor <;> omega
  · rw [if_neg hshown, if_neg hshown, if_neg (by omega), Prod.mk.injEq]
    constructor <;> omega

theorem of?_eq_some (instant : Instant) :
    of? instant.date instant.second instant.nanosecond = some instant := by
  rw [of?, dif_pos ⟨instant.second_lt, instant.nanosecond_lt, instant.leap⟩]

/-- The two ways to write that a clock does not run ahead. -/
def IsUniversal (zone : List Char) : Prop :=
  zone = "+00:00".toList ∨ zone = ['Z']

theorem IsUniversal.ends {zone : List Char} (hzone : IsUniversal zone) :
    EndsDigits zone ∧ zone.head? ≠ some '.' ∧ zone ≠ [] := by
  rcases hzone with hdigits | hletter
  · subst zone
    simp [EndsDigits]
  · subst zone
    simp [EndsDigits]

theorem IsUniversal.offset?_eq {zone : List Char} (hzone : IsUniversal zone) :
    Timestamp.offset? zone = some 0 := by
  rcases hzone with hdigits | hletter
  · subst zone
    decide
  · subst zone
    decide

theorem fractionText_shape (nanosecond : Nat) :
    fractionText nanosecond = [] ∨
      ∃ width n, fractionText nanosecond = '.' :: paddedDigits width n := by
  unfold fractionText
  split
  · exact .inl rfl
  · split
    · exact .inr ⟨3, _, rfl⟩
    · split
      · exact .inr ⟨6, _, rfl⟩
      · exact .inr ⟨9, _, rfl⟩

theorem fraction_shown (instant : Instant) {zone : List Char}
    (hzone : IsUniversal zone) :
    TimeText.fraction (fractionText instant.shownNanosecond ++ zone) =
      .ok (instant.shownNanosecond, zone) := by
  rcases hzone.ends with ⟨hends, hpoint, -⟩
  exact TimeText.fraction_fractionText instant.shownNanosecond_lt hends hpoint

/-! ## Years of four digits -/

def HasFourDigitYear (instant : Instant) : Prop :=
  0 ≤ instant.date.year ∧ instant.date.year ≤ 9999

instance (instant : Instant) : Decidable instant.HasFourDigitYear :=
  inferInstanceAs (Decidable (_ ∧ _))

theorem timestamp_read?_clockText_append {instant : Instant}
    (hyear : instant.HasFourDigitYear) {zone : List Char}
    (hzone : IsUniversal zone) :
    Timestamp.read? (instant.clockText ++ zone) = some instant := by
  rcases instant.date.isDay with ⟨-, ⟨hmonthLow, hmonthHigh⟩, hdayLow, hdayHigh⟩
  have hdays := daysInMonth_le instant.date.year instant.date.month
  have hsecond := instant.second_lt
  have hshown := instant.shownSecond_le
  have htoNat : (instant.date.year.toNat : Int) = instant.date.year :=
    Int.toNat_of_nonneg hyear.1
  have hyearText : Date.yearText instant.date.year =
      paddedDigits 4 instant.date.year.toNat := by
    unfold Date.yearText
    exact if_pos hyear
  have hyearBound : instant.date.year.toNat < 10 ^ 4 := by
    have hhigh := hyear.2
    omega
  have hyearRead := Timestamp.exactly?_paddedDigits (by omega) hyearBound
  have hmonthRead :=
    Timestamp.field?_paddedDigits hmonthLow hmonthHigh (by omega)
  have hdayRead :=
    Timestamp.field?_paddedDigits hdayLow (by omega : _ ≤ 31) (by omega)
  have hhourRead := Timestamp.field?_paddedDigits (Nat.zero_le _)
    (by omega : instant.second / 3600 ≤ 23) (by omega)
  have hminuteRead := Timestamp.field?_paddedDigits (Nat.zero_le _)
    (by omega : instant.second / 60 % 60 ≤ 59) (by omega)
  have hsecondRead := Timestamp.field?_paddedDigits (Nat.zero_le _)
    hshown (by omega)
  have hclock : ofClock? instant.date instant.second instant.nanosecond 0 =
      some instant := by
    have hstart : ¬ (instant.second : Int) - 0 < 0 := by omega
    have hstop : ¬ 86400 ≤ (instant.second : Int) - 0 := by omega
    have hsame : ((instant.second : Int) - 0).toNat = instant.second := by omega
    simp only [ofClock?, hstart, hstop, if_false, hsame]
    exact instant.of?_eq_some
  simp only [clockText_eq, Date.text, hyearText, timeText, List.append_assoc,
    List.cons_append, Timestamp.read?, Timestamp.character?,
    Timestamp.separator?, hyearRead, hmonthRead, hdayRead, hhourRead,
    hminuteRead, hsecondRead, instant.fraction_shown hzone,
    hzone.offset?_eq, Except.toOption, bind, Option.bind, if_true, true_or,
    htoNat, Date.of?_eq_some, ofFields_shown, hclock]

/-! ## Years with a sign -/

theorem endsDigits_letter (rest : List Char) : EndsDigits ('T' :: rest) := by
  rintro c ⟨⟩
  rfl

theorem endsDigits_colon (rest : List Char) : EndsDigits (':' :: rest) := by
  rintro c ⟨⟩
  rfl

theorem timestamp_read?_of_signed {instant : Instant}
    (hyear : ¬ instant.HasFourDigitYear) (zone : List Char) :
    Timestamp.read? (instant.clockText ++ zone) = none := by
  have hsign : ∃ sign digits, Date.yearText instant.date.year =
      sign :: digits ∧ sign.isDigit = false := by
    unfold Date.yearText
    refine ⟨_, _, if_neg hyear, ?_⟩
    split <;> rfl
  rcases hsign with ⟨sign, digits, hyearText, hsign⟩
  have hnone := Timestamp.exactly?_cons_eq_none hsign 3
  simp only [clockText_eq, Date.text, hyearText, List.cons_append,
    Timestamp.read?, hnone, bind, Option.bind]

/-- Behind the date the form with blanks finds the letter, which is no
digit. -/
theorem readBlankSeparated?_clockText_append (instant : Instant)
    (zone : List Char) :
    readBlankSeparated? (instant.clockText ++ zone) = none := by
  have hscan := yearMonthDay_text instant.date
    (endsDigits_letter (instant.timeText ++ zone))
  have hletter : IsInk 'T' := by
    unfold IsInk
    decide
  have htrim := trimStart_cons_of_isInk hletter (instant.timeText ++ zone)
  have hclock : TimeText.clock ('T' :: (instant.timeText ++ zone)) =
      .error .invalid := by
    simp [TimeText.clock, field, htrim, digits, bind, Except.bind]
  simp only [readBlankSeparated?, readSeparated?, clockText_eq,
    List.append_assoc, List.cons_append, hscan, htrim, hclock, Except.toOption,
    bind, Option.bind]

theorem clock_timeText_append (instant : Instant) {zone : List Char}
    (hzone : IsUniversal zone) :
    TimeText.clock (instant.timeText ++ zone) =
      .ok ((instant.second, instant.nanosecond), zone) := by
  have hsecond := instant.second_lt
  have hshown := instant.shownSecond_le
  have hfraction := instant.fraction_shown hzone
  have hends : EndsDigits
      (fractionText instant.shownNanosecond ++ zone) := by
    rcases hzone.ends with ⟨hends, -, -⟩
    rcases fractionText_shape instant.shownNanosecond with
      hnone | ⟨width, n, hsome⟩
    · rw [hnone]
      exact hends
    · rw [hsome]
      rintro c ⟨⟩
      rfl
  have hhourRead := fun rest => field_paddedDigits (Nat.zero_le _)
    (by omega : instant.second / 3600 ≤ 23) (by omega) (endsDigits_colon rest)
  have hminuteRead := fun rest => field_paddedDigits (Nat.zero_le _)
    (by omega : instant.second / 60 % 60 ≤ 59) (by omega)
    (endsDigits_colon rest)
  have hsecondRead := field_paddedDigits (Nat.zero_le _) hshown (by omega) hends
  simp only [TimeText.clock, timeText, List.append_assoc, List.cons_append,
    hhourRead, hminuteRead, hsecondRead, hfraction, character, bind,
    Except.bind, if_true, ofFields_shown]

/-- The form with the letter ends with the clock. -/
theorem readLetterSeparated?_clockText_append (instant : Instant)
    {zone : List Char} (hzone : IsUniversal zone) :
    readLetterSeparated? (instant.clockText ++ zone) = none := by
  have hscan := yearMonthDay_text instant.date
    (endsDigits_letter (instant.timeText ++ zone))
  have hclock := instant.clock_timeText_append hzone
  rcases hzone.ends with ⟨-, -, hsome⟩
  simp only [readLetterSeparated?, readSeparated?, clockText_eq,
    List.append_assoc, List.cons_append, hscan, character, hclock, hsome,
    Except.toOption, bind, Option.bind, if_true, if_false]

theorem readMidnight?_clockText_append (instant : Instant)
    (zone : List Char) :
    readMidnight? (instant.clockText ++ zone) = none := by
  have hscan := yearMonthDay_text instant.date
    (endsDigits_letter (instant.timeText ++ zone))
  simp only [readMidnight?, Date.read, clockText_eq, List.append_assoc,
    List.cons_append, hscan, bind, Except.bind, reduceCtorEq, if_false,
    Except.toOption, Option.map]

/-! ## The texts of an instant -/

theorem read?_clockText_append (instant : Instant) {zone : List Char}
    (hzone : IsUniversal zone) :
    read? (instant.clockText ++ zone) =
      if instant.HasFourDigitYear then some instant else none := by
  by_cases hyear : instant.HasFourDigitYear
  · rw [read?, timestamp_read?_clockText_append hyear hzone, if_pos hyear]
    rfl
  · rw [read?, timestamp_read?_of_signed hyear,
      readBlankSeparated?_clockText_append,
      readLetterSeparated?_clockText_append instant hzone,
      readMidnight?_clockText_append, if_neg hyear]
    rfl

theorem allInk_fractionText (nanosecond : Nat) :
    AllInk (fractionText nanosecond) := by
  have hpoint : IsInk '.' := ⟨by decide, by decide⟩
  rcases fractionText_shape nanosecond with hnone | ⟨width, n, hsome⟩
  · rw [hnone]
    simp [AllInk]
  · rw [hsome]
    exact AllInk.cons hpoint (allDigits_paddedDigits width n).allInk

theorem allInk_clockText_append (instant : Instant) {zone : List Char}
    (hzone : IsUniversal zone) : AllInk (instant.clockText ++ zone) := by
  have hcolon : IsInk ':' := ⟨by decide, by decide⟩
  have hletter : IsInk 'T' := ⟨by decide, by decide⟩
  have htwo := fun n => (allDigits_paddedDigits 2 n).allInk
  have htime : AllInk instant.timeText :=
    (htwo _).append (.cons hcolon ((htwo _).append (.cons hcolon
      ((htwo _).append (allInk_fractionText _)))))
  have hclock : AllInk instant.clockText :=
    instant.date.allInk_text.append (.cons hletter htime)
  apply hclock.append
  have hall : zone.all (fun c => !isBlank c && c != tick) = true := by
    rcases hzone with hdigits | hshort
    · subst zone
      decide
    · subst zone
      decide
  intro c hc
  simpa [IsInk] using List.all_eq_true.mp hall c hc

end Instant

/-! ## Literals -/

theorem FieldType.read_dateTime_clockText_append (instant : Instant)
    {zone : List Char} (hzone : Instant.IsUniversal zone) :
    FieldType.dateTime.read (String.ofList (instant.clockText ++ zone)) =
      if instant.HasFourDigitYear then .ok (.dateTime instant)
      else .error .notTimestamp := by
  have htrim := trim_of_allInk (instant.allInk_clockText_append hzone)
  simp only [FieldType.read, String.toList_ofList, htrim, Literal.readDateTime,
    instant.read?_clockText_append hzone]
  by_cases hyear : instant.HasFourDigitYear
  · simp only [if_pos hyear]
  · simp only [if_neg hyear]

theorem FieldType.exists_of_read_dateTime {text : String} {value : Value}
    (hread : FieldType.dateTime.read text = .ok value) :
    ∃ instant, value = .dateTime instant := by
  simp only [FieldType.read, Literal.readDateTime] at hread
  split at hread
  case h_1 instant hinstant =>
    cases hread
    exact ⟨instant, rfl⟩
  case h_2 => contradiction

/-- What a literal stands for can be written in a query and in JSON, and both
texts are read as the same value if its year has four digits. Otherwise neither
of them is a literal. -/
theorem FieldType.read_dateTime_written {text : String} {value : Value}
    (hread : FieldType.dateTime.read text = .ok value) :
    ∃ instant, value = .dateTime instant ∧
    ∃ json, value.toJson = .string json ∧
    ∀ written ∈ [value.text, json],
      FieldType.dateTime.read written =
        if instant.HasFourDigitYear then .ok value
        else .error .notTimestamp := by
  rcases exists_of_read_dateTime hread with ⟨instant, hvalue⟩
  subst value
  refine ⟨instant, rfl, String.ofList instant.shortText, rfl, ?_⟩
  intro written hwritten
  simp only [List.mem_cons, List.not_mem_nil, or_false] at hwritten
  rcases hwritten with hquery | hjson
  · subst written
    exact read_dateTime_clockText_append instant (.inl rfl)
  · subst written
    exact read_dateTime_clockText_append instant (.inr rfl)

/-- The leap second at the end of 2016, and half a second more. -/
def leapSecond : Instant where
  date := ⟨2016, 12, 31, by decide⟩
  second := 86399
  nanosecond := 1500000000
  second_lt := by decide
  nanosecond_lt := by decide
  leap := by decide

theorem read_dateTime_written_leapSecond :
    FieldType.dateTime.read "2017-01-01T00:59:60.5+01:00" =
      .ok (.dateTime leapSecond) ∧
    ∀ written ∈ ["2016-12-31T23:59:60.500+00:00", "2016-12-31T23:59:60.500Z"],
      FieldType.dateTime.read written = .ok (.dateTime leapSecond) := by
  have hread : FieldType.dateTime.read "2017-01-01T00:59:60.5+01:00" =
      .ok (.dateTime leapSecond) := by
    decide +kernel
  refine ⟨hread, ?_⟩
  rcases FieldType.read_dateTime_written hread with
    ⟨instant, hinstant, json, hjson, hwritten⟩
  cases hinstant
  cases hjson
  have hyear : leapSecond.HasFourDigitYear := by
    decide
  have hquery : (Value.dateTime leapSecond).text =
      "2016-12-31T23:59:60.500+00:00" := by
    decide +kernel
  have hshort : String.ofList leapSecond.shortText =
      "2016-12-31T23:59:60.500Z" := by
    decide +kernel
  rw [hquery, hshort, if_pos hyear] at hwritten
  exact hwritten

/-- The first day after the years of four digits. -/
def farDay : Date := ⟨10000, 1, 1, by decide⟩

/-- A date alone may have a year of any number of digits after a sign, the text
of its midnight may not. -/
theorem not_read_dateTime_farDay :
    FieldType.dateTime.read "+10000-01-01" =
      .ok (.dateTime (Instant.midnight farDay)) ∧
    FieldType.dateTime.read (Value.dateTime (Instant.midnight farDay)).text =
      .error .notTimestamp := by
  decide +kernel

end RecordFilter

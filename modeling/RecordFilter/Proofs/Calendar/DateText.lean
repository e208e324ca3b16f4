import RecordFilter.Calendar.DateText
import RecordFilter.Proofs.Text.Ink

/-!
# Dates read back

The text of a date is read as the same date. Each number is followed by a hyphen
or by the end of the text, or it has all the digits that the reader takes, so
every part of the reader is described by the digits in front of some rest. A
year beyond four digits has a sign, and then the reader takes any number of
digits.
-/

namespace RecordFilter

namespace DateText

/-- The text does not start with a digit. -/
def EndsDigits (rest : List Char) : Prop := ∀ c ∈ rest.head?, c.isDigit = false

theorem endsDigits_nil : EndsDigits [] := by
  simp [EndsDigits]

theorem endsDigits_hyphen (rest : List Char) : EndsDigits ('-' :: rest) := by
  rintro c ⟨⟩
  rfl

/-- A hyphen, or the end of the text, ends a number even if the reader would
take further digits. -/
theorem takeWhile_take_append {most : Nat} {found rest : List Char}
    (hfound : AllDigits found) (hmost : found.length ≤ most)
    (hrest : EndsDigits rest) :
    ((found ++ rest).take most).takeWhile Char.isDigit = found := by
  rw [List.take_append, List.take_of_length_le hmost,
    List.takeWhile_append_of_pos hfound]
  cases rest with
  | nil => simp
  | cons c rest =>
      have hc : c.isDigit = false := hrest c rfl
      cases most - found.length with
      | zero => simp
      | succ left => simp [hc]

theorem digits_append {most : Nat} {found rest : List Char}
    (hfound : AllDigits found) (hne : found ≠ []) (hmost : found.length ≤ most)
    (hrest : EndsDigits rest) :
    digits most (found ++ rest) =
      .ok (Nat.ofDigitChars 10 found 0, rest) := by
  have hsome : found ++ rest ≠ [] := by
    simp [hne]
  simp only [digits, takeWhile_take_append hfound hmost hrest, hsome, hne,
    if_false, List.drop_left]

/-! ## The numbers of a date -/

theorem daysInMonth_le (year : Int) (month : Nat) :
    daysInMonth year month ≤ 31 := by
  unfold daysInMonth
  split
  · split <;> omega
  · split <;> omega

theorem digits_paddedDigits {width most n : Nat} (hwidth : 0 < width)
    (hn : n < 10 ^ width) (hmost : width ≤ most) {rest : List Char}
    (hrest : EndsDigits rest) :
    digits most (paddedDigits width n ++ rest) = .ok (n, rest) := by
  have hlength := length_paddedDigits hwidth hn
  rw [digits_append (allDigits_paddedDigits width n)
    (paddedDigits_ne_nil width n) (by omega) hrest, ofDigitChars_paddedDigits]

theorem trimStart_append_of_allDigits {found : List Char}
    (hfound : AllDigits found) (hne : found ≠ []) (rest : List Char) :
    trimStart (found ++ rest) = found ++ rest := by
  cases found with
  | nil => exact absurd rfl hne
  | cons c found =>
      have hc := isInk_of_isDigit (hfound c List.mem_cons_self)
      exact trimStart_cons_of_isInk hc (found ++ rest)

theorem field_paddedDigits {low high n : Nat} (hlow : low ≤ n)
    (hhigh : n ≤ high) (hhundred : n < 10 ^ 2) {rest : List Char}
    (hrest : EndsDigits rest) :
    field low high (paddedDigits 2 n ++ rest) = .ok (n, rest) := by
  have hdigits := digits_paddedDigits (by decide) hhundred (Nat.le_refl 2) hrest
  rw [field, trimStart_append_of_allDigits (allDigits_paddedDigits 2 n)
    (paddedDigits_ne_nil 2 n), hdigits]
  exact if_pos ⟨hlow, hhigh⟩

theorem fitsSigned_maxInt32 {value : Int} (hlow : -262143 ≤ value)
    (hhigh : value ≤ 262142) : fitsSigned maxInt32 value = true := by
  rw [fitsSigned_iff, maxInt32]
  omega

theorem year_of_isDigit {c : Char} (hdigit : c.isDigit = true)
    (text : List Char) :
    year (c :: text) = (do
      let (value, rest) ← digits 4 (c :: text)
      if fitsSigned maxInt32 value then .ok ((value : Int), rest)
      else .error .outOfRange) := by
  rw [year, trimStart_cons_of_isInk (isInk_of_isDigit hdigit)]
  split
  next heq =>
    obtain ⟨rfl, -⟩ := List.cons.inj heq
    contradiction
  next heq =>
    obtain ⟨rfl, -⟩ := List.cons.inj heq
    contradiction
  next =>
    cases digits 4 (c :: text) with
    | error fault => rfl
    | ok scanned => rfl

theorem year_unsigned {n : Nat} (hn : n < 10 ^ 4) {rest : List Char}
    (hrest : EndsDigits rest) :
    year (paddedDigits 4 n ++ rest) = .ok ((n : Int), rest) := by
  have hdigits := digits_paddedDigits (by decide) hn (Nat.le_refl 4) hrest
  have hfits : fitsSigned maxInt32 n = true :=
    fitsSigned_maxInt32 (by omega) (by omega)
  cases hpadded : paddedDigits 4 n with
  | nil => exact absurd hpadded (paddedDigits_ne_nil 4 n)
  | cons c tail =>
      have hc : c.isDigit = true := by
        apply allDigits_paddedDigits 4 n
        rw [hpadded]
        exact List.mem_cons_self
      rw [hpadded] at hdigits
      rw [List.cons_append, year_of_isDigit hc, ← List.cons_append, hdigits]
      exact if_pos hfits

/-- After a sign the reader takes as many digits as there are. -/
theorem digits_all {n : Nat} {rest : List Char} (hrest : EndsDigits rest) :
    digits (paddedDigits 4 n ++ rest).length (paddedDigits 4 n ++ rest) =
      .ok (n, rest) := by
  have hmost :
      (paddedDigits 4 n).length ≤ (paddedDigits 4 n ++ rest).length := by
    simp
  rw [digits_append (allDigits_paddedDigits 4 n) (paddedDigits_ne_nil 4 n)
    hmost hrest, ofDigitChars_paddedDigits]

theorem year_minus {n : Nat} (hn : n ≤ 262143) {rest : List Char}
    (hrest : EndsDigits rest) :
    year ('-' :: (paddedDigits 4 n ++ rest)) = .ok (-(n : Int), rest) := by
  have hfits : fitsSigned maxInt32 (-(n : Int)) = true :=
    fitsSigned_maxInt32 (by omega) (by omega)
  rw [year, trimStart_cons_of_isInk ⟨by decide, by decide⟩]
  simp only [digits_all hrest]
  exact if_pos hfits

theorem year_plus {n : Nat} (hn : n ≤ 262142) {rest : List Char}
    (hrest : EndsDigits rest) :
    year ('+' :: (paddedDigits 4 n ++ rest)) = .ok ((n : Int), rest) := by
  have hfits : fitsSigned maxInt32 (n : Int) = true :=
    fitsSigned_maxInt32 (by omega) (by omega)
  rw [year, trimStart_cons_of_isInk ⟨by decide, by decide⟩]
  simp only [digits_all hrest]
  exact if_pos hfits

theorem year_yearText {year : Int} (hlow : -262143 ≤ year)
    (hhigh : year ≤ 262142) {rest : List Char} (hrest : EndsDigits rest) :
    DateText.year (Date.yearText year ++ rest) = .ok (year, rest) := by
  unfold Date.yearText
  by_cases hfour : 0 ≤ year ∧ year ≤ 9999
  · obtain ⟨n, rfl⟩ := Int.eq_ofNat_of_zero_le hfour.1
    rw [if_pos hfour]
    exact year_unsigned (by omega) hrest
  · rw [if_neg hfour]
    by_cases hnegative : year < 0
    · obtain ⟨n, hn⟩ :=
        Int.eq_ofNat_of_zero_le
          (Int.neg_nonneg_of_nonpos (Int.le_of_lt hnegative))
      obtain rfl : year = -(n : Int) := by omega
      rw [if_pos hnegative, Int.natAbs_neg, Int.natAbs_natCast]
      exact year_minus (by omega) hrest
    · obtain ⟨n, rfl⟩ := Int.eq_ofNat_of_zero_le (Int.not_lt.mp hnegative)
      rw [if_neg hnegative, Int.natAbs_natCast]
      exact year_plus (by omega) hrest

/-- The three numbers of a date, whatever comes after them. -/
theorem yearMonthDay_text (date : Date) {rest : List Char}
    (hrest : EndsDigits rest) :
    yearMonthDay (date.text ++ rest) =
      .ok ((date.year, date.month, date.day), rest) := by
  obtain ⟨year, month, day, hday⟩ := date
  obtain ⟨⟨hyearLow, hyearHigh⟩, ⟨hmonthLow, hmonthHigh⟩, hdayLow, hdayHigh⟩ :=
    hday
  have hdays := daysInMonth_le year month
  have hyear := year_yearText hyearLow hyearHigh (endsDigits_hyphen
    (paddedDigits 2 month ++ '-' :: (paddedDigits 2 day ++ rest)))
  have hmonth := field_paddedDigits hmonthLow hmonthHigh (by omega)
    (endsDigits_hyphen (paddedDigits 2 day ++ rest))
  have hday := field_paddedDigits hdayLow (by omega : day ≤ 31) (by omega) hrest
  simp only [yearMonthDay, Date.text, List.append_assoc, List.cons_append,
    hyear, character, hmonth, hday, bind, Except.bind, if_true]

end DateText

namespace Date

theorem of?_eq_some (date : Date) :
    of? date.year date.month date.day = some date := by
  rw [of?, dif_pos date.isDay]

theorem read_text (date : Date) : read date.text = .ok date := by
  have hscan := DateText.yearMonthDay_text date DateText.endsDigits_nil
  rw [List.append_nil] at hscan
  simp only [read, hscan, bind, Except.bind, if_true, of?_eq_some]

theorem allInk_yearText (year : Int) : AllInk (yearText year) := by
  unfold yearText
  split
  · exact (allDigits_paddedDigits _ _).allInk
  · apply AllInk.cons
    · split
      · exact ⟨by decide, by decide⟩
      · exact ⟨by decide, by decide⟩
    · exact (allDigits_paddedDigits _ _).allInk

theorem allInk_text (date : Date) : AllInk date.text := by
  have hhyphen : IsInk '-' := ⟨by decide, by decide⟩
  have hmonth := (allDigits_paddedDigits 2 date.month).allInk
  have hday := (allDigits_paddedDigits 2 date.day).allInk
  exact (allInk_yearText date.year).append
    (.cons hhyphen (hmonth.append (.cons hhyphen hday)))

end Date

end RecordFilter

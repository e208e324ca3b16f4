import RecordFilter.Json.Writer
import RecordFilter.Proofs.Calendar.DateText
import RecordFilter.Proofs.Json.Scaling
import RecordFilter.Proofs.Json.Scanning

/-!
# Numbers read back

A number is written in one of five layouts, each of which has the same parts:
digits before the point, perhaps digits behind it, and perhaps an exponent. The
parts are found again in the text, and their digits fit 64 bits, so an integer
is read exactly and any other number is rounded in two steps.
-/

namespace RecordFilter

theorem AllDigits.append {left right : List Char} (hleft : AllDigits left)
    (hright : AllDigits right) : AllDigits (left ++ right) := by
  intro c hc
  rcases List.mem_append.mp hc with hc | hc
  · exact hleft c hc
  · exact hright c hc

namespace JsonNumeral

open DateText

/-! ## Parts of a text -/

def Parts.exponentText : Option Int → List Char
  | none => []
  | some value =>
    'e' :: (if value < 0 then '-' else '+') :: Nat.toDigits 10 value.natAbs

def Parts.fractionText : Option (List Char) → List Char
  | none => []
  | some digits => '.' :: digits

def Parts.unsignedText (parts : Parts) : List Char :=
  parts.whole ++
    (Parts.fractionText parts.fraction ++ Parts.exponentText parts.exponent)

def Parts.text (parts : Parts) : List Char :=
  (if parts.negative then ['-'] else []) ++ parts.unsignedText

/-- The parts stand for a number as it may be written. -/
structure Parts.IsPlain (parts : Parts) : Prop where
  whole_digits : AllDigits parts.whole
  whole_ne_nil : parts.whole ≠ []
  no_zero : parts.whole.head? = some '0' → parts.whole = ['0']
  fraction : ∀ digits ∈ parts.fraction, AllDigits digits ∧ digits ≠ []

theorem takeWhile_isDigit_append {found rest : List Char}
    (hfound : AllDigits found) (hrest : EndsDigits rest) :
    (found ++ rest).takeWhile Char.isDigit = found := by
  rw [List.takeWhile_append_of_pos hfound]
  cases rest with
  | nil => simp
  | cons c rest => simp [hrest c rfl]

theorem dropWhile_isDigit_append {found rest : List Char}
    (hfound : AllDigits found) (hrest : EndsDigits rest) :
    (found ++ rest).dropWhile Char.isDigit = rest := by
  rw [List.dropWhile_append_of_pos hfound]
  cases rest with
  | nil => rfl
  | cons c rest => simp [hrest c rfl]

theorem endsDigits_exponentText (exponent : Option Int) :
    EndsDigits (Parts.exponentText exponent) := by
  cases exponent with
  | none => exact endsDigits_nil
  | some value =>
      rintro c ⟨⟩
      rfl

theorem unboundedSigned?_signed (value : Int) :
    unboundedSigned? ((if value < 0 then '-' else '+') ::
      Nat.toDigits 10 value.natAbs) = some value := by
  have hall : (Nat.toDigits 10 value.natAbs).all Char.isDigit = true :=
    List.all_eq_true.mpr (allDigits_toDigits value.natAbs)
  have hne : Nat.toDigits 10 value.natAbs ≠ [] := Nat.toDigits_ne_nil
  by_cases hnegative : value < 0
  · have hvalue : -(value.natAbs : Int) = value := by
      omega
    rw [if_pos hnegative]
    simp only [unboundedSigned?, hall, hne, Nat.ofDigitChars_ten_toDigits,
      hvalue, ne_eq, not_false_iff, and_self, if_true]
  · have hvalue : (value.natAbs : Int) = value := by
      omega
    rw [if_neg hnegative]
    simp [unboundedSigned?, hall, hne, hvalue]

theorem head?_text_of_not_negative {parts : Parts} (hplain : parts.IsPlain)
    (hsign : parts.negative = false) : parts.text.head? ≠ some '-' := by
  rcases parts with ⟨negative, whole, fraction, exponent⟩
  dsimp only at hsign
  subst hsign
  have hdigits := hplain.whole_digits
  cases whole with
  | nil => exact absurd rfl hplain.whole_ne_nil
  | cons c whole =>
      intro hhead
      have hdigit : c.isDigit = true := hdigits c List.mem_cons_self
      have hminus : c = '-' := Option.some.inj hhead
      rw [hminus] at hdigit
      contradiction

theorem parts?_text {parts : Parts} (hplain : parts.IsPlain) :
    parts? parts.text = some parts := by
  have hhead := head?_text_of_not_negative hplain
  rcases parts with ⟨negative, whole, fraction, exponent⟩
  rcases hplain with ⟨hdigits, hne, hzero, hfraction⟩
  dsimp only at hdigits hne hzero hfraction hhead
  have hends : EndsDigits
      (Parts.fractionText fraction ++ Parts.exponentText exponent) := by
    cases fraction with
    | none => exact endsDigits_exponentText exponent
    | some digits =>
        rintro c ⟨⟩
        rfl
  have htake := takeWhile_isDigit_append hdigits hends
  have hdrop := dropWhile_isDigit_append hdigits hends
  have hzero' : ¬ (whole = [] ∨ whole.head? = some '0' ∧ whole ≠ ['0']) := by
    rintro (hnil | ⟨hfirst, hother⟩)
    · exact hne hnil
    · exact hother (hzero hfirst)
  unfold parts?
  split
  case h_1 negative' unsigned hsplit =>
    have hsign : negative' = negative ∧ unsigned = whole ++
        (Parts.fractionText fraction ++ Parts.exponentText exponent) := by
      cases negative with
      | true =>
          cases hsplit
          exact ⟨rfl, rfl⟩
      | false =>
          have hminus := hhead rfl
          split at hsplit
          case h_1 rest htext =>
            rw [htext] at hminus
            exact absurd rfl hminus
          case h_2 =>
            cases hsplit
            exact ⟨rfl, rfl⟩
    rcases hsign with ⟨hnegative, hunsigned⟩
    subst hnegative
    subst hunsigned
    simp only [htake, hdrop, hzero', if_false]
    cases fraction with
    | none =>
        cases exponent with
        | none => simp [Parts.fractionText, Parts.exponentText]
        | some value =>
            simp [Parts.fractionText, Parts.exponentText,
              unboundedSigned?_signed value]
    | some digits =>
        have hbehind := hfraction digits rfl
        have htakeBehind := takeWhile_isDigit_append hbehind.1
          (endsDigits_exponentText exponent)
        have hdropBehind := dropWhile_isDigit_append hbehind.1
          (endsDigits_exponentText exponent)
        simp only [Parts.fractionText, List.cons_append, htakeBehind,
          hdropBehind, Option.some.injEq, hbehind.2, if_false]
        cases exponent with
        | none => rfl
        | some value =>
            simp [Parts.exponentText, unboundedSigned?_signed value]

/-! ## The number of the parts -/

/-- The decimal that the digits and the exponent stand for. -/
def Parts.decimal (parts : Parts) : Decimal :=
  ⟨Nat.ofDigitChars 10 (parts.whole ++ parts.fraction.getD []) 0,
    parts.exponent.getD 0 - (parts.fraction.getD []).length⟩

theorem accumulate_eq {digits : List Char} {value : Nat}
    (hbound : Nat.ofDigitChars 10 digits value ≤ maxNat64) :
    accumulate value digits = (Nat.ofDigitChars 10 digits value, []) := by
  induction digits generalizing value with
  | nil => rfl
  | cons c digits ih =>
      have hsplit : Nat.ofDigitChars 10 (c :: digits) value =
          Nat.ofDigitChars 10 digits (Nat.ofDigitChars 10 [c] value) :=
        Nat.ofDigitChars_append (l := [c]) value
      rw [hsplit] at hbound ⊢
      have hnext : Nat.ofDigitChars 10 [c] value ≤ maxNat64 :=
        (le_ofDigitChars digits _).trans hbound
      simp only [accumulate, hnext, if_true]
      exact ih hbound

theorem ofParts?_of_fits {parts : Parts}
    (hbound : parts.decimal.digits ≤ maxNat64) :
    ofParts? parts =
      if parts.fraction = none ∧ parts.exponent = none then
        match integer? parts.negative parts.decimal.digits with
        | some value => some (.integer value)
        | none => parts.decimal.roundedTwice?.map fun rank =>
          .double (Double.ofRank parts.negative rank)
      else parts.decimal.roundedTwice?.map fun rank =>
        .double (Double.ofRank parts.negative rank) := by
  rcases parts with ⟨negative, whole, fraction, exponent⟩
  have hdigits : Nat.ofDigitChars 10 (fraction.getD [])
      (Nat.ofDigitChars 10 whole 0) ≤ maxNat64 := by
    rw [← Nat.ofDigitChars_append]
    exact hbound
  have hwhole := accumulate_eq ((le_ofDigitChars _ _).trans hdigits)
  have hfraction := accumulate_eq hdigits
  have hexponent : (([] : List Char).length : Int) -
      (((fraction.getD []).length - ([] : List Char).length : Nat) : Int) +
        exponent.getD 0 = exponent.getD 0 - (fraction.getD []).length := by
    simp only [List.length_nil, Nat.sub_zero]
    omega
  simp only [ofParts?, hwhole, hfraction, hexponent, Parts.decimal,
    Nat.ofDigitChars_append, Decimal.roundedTwice?]
  cases fraction with
  | none =>
      cases exponent with
      | none =>
          cases hinteger : integer? negative (Nat.ofDigitChars 10 whole 0) <;>
            simp [hinteger]
      | some value => simp
  | some digits => simp

/-! ## Integers -/

def integerParts (value : Int) : Parts :=
  ⟨value < 0, Nat.toDigits 10 value.natAbs, none, none⟩

theorem text_integerParts (value : Int) :
    (integerParts value).text = integerText value := by
  cases value with
  | ofNat n => simp [integerParts, Parts.text, Parts.unsignedText,
      Parts.fractionText, Parts.exponentText, integerText]
  | negSucc n => simp [integerParts, Parts.text, Parts.unsignedText,
      Parts.fractionText, Parts.exponentText, integerText, Int.negSucc_lt_zero]

/-- Only zero itself starts with a zero. -/
theorem head?_toDigits {n : Nat} (hn : 0 < n) :
    (Nat.toDigits 10 n).head? ≠ some '0' := by
  induction n using Nat.strong_induction_on with
  | h n ih =>
      by_cases hsmall : n < 10
      · have htable : ∀ digit ∈ List.range 10, 0 < digit →
            Nat.digitChar digit ≠ '0' := by
          decide
        rw [Nat.toDigits_of_lt_base hsmall]
        simpa using htable n (List.mem_range.mpr hsmall) hn
      · have hlarge : 10 ≤ n := Nat.le_of_not_lt hsmall
        have hrest := ih (n / 10) (by omega) (by omega)
        rw [Nat.toDigits_of_base_le (by decide) hlarge,
          List.head?_append_of_ne_nil _ Nat.toDigits_ne_nil]
        exact hrest

theorem isPlain_integerParts (value : Int) :
    (integerParts value).IsPlain where
  whole_digits := allDigits_toDigits _
  whole_ne_nil := Nat.toDigits_ne_nil
  no_zero := by
    intro hhead
    have hzero : value.natAbs = 0 := by
      by_contra hpositive
      exact head?_toDigits (Nat.pos_of_ne_zero hpositive) hhead
    simp only [integerParts, hzero]
    rfl
  fraction := by
    intro digits hdigits
    contradiction

theorem ofParts?_integerParts {value : Int} (hlow : -(2 : Int) ^ 63 ≤ value)
    (hhigh : value < 2 ^ 64) :
    ofParts? (integerParts value) = some (.integer value) := by
  have hdecimal : (integerParts value).decimal.digits = value.natAbs := by
    simp [integerParts, Parts.decimal]
  have hbound : (integerParts value).decimal.digits ≤ maxNat64 := by
    rw [hdecimal, maxNat64]
    omega
  have hinteger : integer? (decide (value < 0)) value.natAbs = some value := by
    unfold integer?
    by_cases hnegative : value < 0
    · rw [decide_eq_true hnegative, if_pos rfl, maxInt64, if_neg (by omega)]
      congr 1
      omega
    · rw [decide_eq_false hnegative, if_neg (by decide)]
      congr 1
      omega
  rw [ofParts?_of_fits hbound, hdecimal]
  simp only [integerParts, and_self, if_true, hinteger]

/-! ## Layouts of other numbers -/

/-- The parts are those of an unsigned text that is no integer. -/
structure Parts.Spells (parts : Parts) (text : List Char) (decimal : Decimal) :
    Prop where
  plain : parts.IsPlain
  text_eq : parts.unsignedText = text
  decimal_eq : parts.decimal = decimal
  not_integer : ¬(parts.fraction = none ∧ parts.exponent = none)

theorem allDigits_zeros (count : Nat) :
    AllDigits (NumberStyle.zeros count) := by
  intro c hc
  rw [List.eq_of_mem_replicate hc]
  rfl

section Layouts

variable (negative : Bool) {n : Nat}

/-- Zeros up to the point, and one behind it. -/
theorem spells_whole (hn : 0 < n) (zeros : Nat) :
    Parts.Spells
      ⟨negative, Nat.toDigits 10 n ++ NumberStyle.zeros zeros, some ['0'], none⟩
      (Nat.toDigits 10 n ++ NumberStyle.zeros zeros ++ ['.', '0'])
      ⟨n * 10 ^ (zeros + 1), -1⟩ where
  plain.whole_digits :=
    AllDigits.append (allDigits_toDigits n) (allDigits_zeros zeros)
  plain.whole_ne_nil := by simp [Nat.toDigits_ne_nil]
  plain.no_zero := by
    intro hhead
    dsimp only at hhead
    rw [List.head?_append_of_ne_nil _ Nat.toDigits_ne_nil] at hhead
    exact absurd hhead (head?_toDigits hn)
  plain.fraction := by
    rintro digits ⟨⟩
    exact ⟨allDigits_zeros 1, by simp⟩
  text_eq := by
    simp [Parts.unsignedText, Parts.fractionText, Parts.exponentText]
  decimal_eq := by
    have hdigits : Nat.ofDigitChars 10
        (Nat.toDigits 10 n ++ NumberStyle.zeros zeros ++ ['0']) 0 =
        n * 10 ^ (zeros + 1) := by
      rw [Nat.ofDigitChars_append, Nat.ofDigitChars_append,
        Nat.ofDigitChars_ten_toDigits, NumberStyle.zeros,
        Nat.ofDigitChars_replicate_zero, Nat.ofDigitChars_cons,
        Nat.ofDigitChars_nil, Nat.pow_succ]
      ring_nf
      simp
    simp only [Parts.decimal, Option.getD_some, Option.getD_none, hdigits]
    rfl
  not_integer := by simp

/-- The point stands between two digits. -/
theorem spells_inner (hn : 0 < n) {places : Nat} (hplaces : 0 < places)
    (hlength : places < decimalLength n) :
    Parts.Spells
      ⟨negative, (Nat.toDigits 10 n).take (decimalLength n - places),
        some ((Nat.toDigits 10 n).drop (decimalLength n - places)), none⟩
      ((Nat.toDigits 10 n).take (decimalLength n - places) ++ '.' ::
        (Nat.toDigits 10 n).drop (decimalLength n - places))
      ⟨n, -places⟩ where
  plain.whole_digits := by
    intro c hc
    exact allDigits_toDigits n c (List.mem_of_mem_take hc)
  plain.whole_ne_nil := by
    rw [ne_eq, List.take_eq_nil_iff]
    simp only [Nat.toDigits_ne_nil, or_false]
    omega
  plain.no_zero := by
    intro hhead
    dsimp only at hhead
    rw [List.head?_take, if_neg (by omega)] at hhead
    exact absurd hhead (head?_toDigits hn)
  plain.fraction := by
    rintro digits ⟨⟩
    constructor
    · intro c hc
      exact allDigits_toDigits n c (List.mem_of_mem_drop hc)
    · rw [ne_eq, List.drop_eq_nil_iff]
      rw [decimalLength] at hlength ⊢
      omega
  text_eq := by
    simp [Parts.unsignedText, Parts.fractionText, Parts.exponentText]
  decimal_eq := by
    simp only [Parts.decimal, Option.getD_some, Option.getD_none,
      List.take_append_drop, Nat.ofDigitChars_ten_toDigits, List.length_drop,
      Decimal.mk.injEq, true_and]
    rw [decimalLength] at hlength ⊢
    omega
  not_integer := by simp

/-- All digits stand behind the point, after as many zeros as it takes. -/
theorem spells_small {places : Nat} (hlength : decimalLength n ≤ places) :
    Parts.Spells
      ⟨negative, ['0'], some (NumberStyle.zeros (places - decimalLength n) ++
        Nat.toDigits 10 n), none⟩
      ('0' :: '.' :: (NumberStyle.zeros (places - decimalLength n) ++
        Nat.toDigits 10 n))
      ⟨n, -places⟩ where
  plain.whole_digits := allDigits_zeros 1
  plain.whole_ne_nil := by simp
  plain.no_zero := fun _ => rfl
  plain.fraction := by
    rintro digits ⟨⟩
    constructor
    · exact AllDigits.append (allDigits_zeros _) (allDigits_toDigits n)
    · simp [Nat.toDigits_ne_nil]
  text_eq := by
    simp [Parts.unsignedText, Parts.fractionText, Parts.exponentText]
  decimal_eq := by
    have hdigits : Nat.ofDigitChars 10 (['0'] ++
        (NumberStyle.zeros (places - decimalLength n) ++ Nat.toDigits 10 n)) 0 =
        n := by
      rw [Nat.ofDigitChars_append, Nat.ofDigitChars_append, NumberStyle.zeros,
        Nat.ofDigitChars_replicate_zero, Nat.ofDigitChars_cons,
        Nat.ofDigitChars_nil]
      simp
    have hcount : (NumberStyle.zeros (places - decimalLength n) ++
        Nat.toDigits 10 n).length = places := by
      rw [decimalLength] at hlength ⊢
      simp [NumberStyle.zeros, hlength]
    simp only [Parts.decimal, Option.getD_some, Option.getD_none, hdigits,
      hcount]
    simp
  not_integer := by simp

/-- One digit stands before the point, and the place of this digit is the
exponent. -/
theorem spells_scientific (hn : 0 < n) (place : Int) :
    Parts.Spells
      ⟨negative, (Nat.toDigits 10 n).take 1,
        (if (Nat.toDigits 10 n).drop 1 = [] then none
          else some ((Nat.toDigits 10 n).drop 1)), some place⟩
      (style.scientific (Nat.toDigits 10 n) place)
      ⟨n, place - (decimalLength n - 1 : Nat)⟩ := by
  have hdigits := allDigits_toDigits n
  have hvalue : Nat.ofDigitChars 10 (Nat.toDigits 10 n) 0 = n :=
    Nat.ofDigitChars_ten_toDigits
  have hfirst : (Nat.toDigits 10 n).head? ≠ some '0' := head?_toDigits hn
  rw [decimalLength]
  cases htext : Nat.toDigits 10 n with
  | nil => exact absurd htext Nat.toDigits_ne_nil
  | cons c rest =>
      rw [htext] at hdigits hvalue hfirst
      have hrest : AllDigits rest :=
        fun d hd => hdigits d (List.mem_cons_of_mem c hd)
      constructor
      case plain =>
        constructor
        case whole_digits =>
          intro d hd
          rw [List.mem_singleton.mp hd]
          exact hdigits c List.mem_cons_self
        case whole_ne_nil => simp
        case no_zero =>
          intro hhead
          exact absurd hhead hfirst
        case fraction =>
          cases rest with
          | nil => simp
          | cons d rest => simpa using hrest
      case text_eq =>
        cases rest with
        | nil =>
            by_cases hnegative : place < 0 <;>
              simp [Parts.unsignedText, Parts.fractionText, Parts.exponentText,
                NumberStyle.scientific, style, hnegative]
        | cons d rest =>
            by_cases hnegative : place < 0 <;>
              simp [Parts.unsignedText, Parts.fractionText, Parts.exponentText,
                NumberStyle.scientific, style, hnegative]
      case decimal_eq =>
        cases rest with
        | nil => simp [Parts.decimal, hvalue]
        | cons d rest => simpa [Parts.decimal] using hvalue
      case not_integer => simp

end Layouts

/-- The decimal that a text spells: whole numbers have a zero behind the
point. -/
def spelled (decimal : Decimal) : Decimal :=
  if style.positional (decimal.exponent + decimalLength decimal.digits - 1) ∧
      0 ≤ decimal.exponent then
    ⟨decimal.digits * 10 ^ (decimal.exponent.toNat + 1), -1⟩
  else decimal

theorem exists_spells (negative : Bool) {decimal : Decimal}
    (hsome : 0 < decimal.digits) :
    ∃ parts : Parts, parts.negative = negative ∧
      parts.Spells (style.decimalText decimal) (spelled decimal) := by
  rcases decimal with ⟨n, exponent⟩
  dsimp only at hsome
  unfold spelled NumberStyle.decimalText
  dsimp only
  rw [decimalLength]
  cases hpositional :
    style.positional (exponent + (Nat.toDigits 10 n).length - 1) with
  | false =>
      have hscientific := spells_scientific negative hsome
        (exponent + (Nat.toDigits 10 n).length - 1)
      have hlength := decimalLength_pos n
      have hexponent : exponent + (Nat.toDigits 10 n).length - 1 -
          (decimalLength n - 1 : Nat) = exponent := by
        rw [decimalLength] at hlength ⊢
        omega
      rw [hexponent] at hscientific
      exact ⟨_, rfl, hscientific⟩
  | true =>
      unfold NumberStyle.placePoint
      by_cases hwhole : 0 ≤ exponent
      · have hspells := spells_whole negative hsome exponent.toNat
        simp only [hwhole, and_self, if_true]
        exact ⟨_, rfl, hspells⟩
      · have hexponent : -((exponent.natAbs : Nat) : Int) = exponent := by
          omega
        simp only [hwhole, and_false, if_true, if_false]
        by_cases hinner : exponent.natAbs < (Nat.toDigits 10 n).length
        · have hspells := spells_inner negative hsome (by omega) hinner
          rw [hexponent] at hspells
          rw [if_pos hinner]
          exact ⟨_, rfl, hspells⟩
        · have hspells := spells_small negative (Nat.le_of_not_lt hinner)
          rw [hexponent] at hspells
          rw [if_neg hinner]
          exact ⟨_, rfl, hspells⟩

theorem digits_spelled_le {decimal : Decimal} (hsome : 0 < decimal.digits)
    (hdigits : decimal.digits ≤ 10 ^ 17) :
    (spelled decimal).digits ≤ 10 ^ 17 := by
  rcases decimal with ⟨n, exponent⟩
  unfold spelled
  split
  case isTrue hwhole =>
    rcases hwhole with ⟨hpositional, hexponent⟩
    simp only [style, Bool.and_eq_true, decide_eq_true_eq] at hpositional
    dsimp only at hexponent
    have hlength := lt_pow_decimalLength n
    show n * 10 ^ (exponent.toNat + 1) ≤ 10 ^ 17
    calc
      _ ≤ 10 ^ decimalLength n * 10 ^ (exponent.toNat + 1) :=
        Nat.mul_le_mul_right _ hlength.le
      _ = 10 ^ (decimalLength n + (exponent.toNat + 1)) := by
        rw [Nat.pow_add 10 (decimalLength n)]
      _ ≤ 10 ^ 17 := by
        apply Nat.pow_le_pow_right
        · decide
        · omega
  case isFalse => exact hdigits

/-! ## Numbers of double precision -/

/-- The decimal that the text of a finite number spells. -/
def written (rank : Nat) : Decimal :=
  if rank = 0 then ⟨0, -1⟩ else spelled (Decimal.shortest .toEven rank)

theorem exists_spells_magnitude (negative : Bool) {rank : Nat}
    (hfinite : rank < Double.infinityRank) :
    ∃ parts : Parts, parts.negative = negative ∧
      parts.Spells (style.magnitudeText rank).toList (written rank) := by
  unfold NumberStyle.magnitudeText written
  by_cases hzero : rank = 0
  · have hlength : decimalLength 0 ≤ 1 := by
      decide
    rw [if_pos hzero, if_pos hzero, String.toList_ofList]
    exact ⟨_, rfl, spells_small negative hlength⟩
  · have hpositive := Nat.pos_of_ne_zero hzero
    rw [if_neg hzero, if_neg hzero, if_neg hfinite.ne, String.toList_ofList]
    exact exists_spells negative
      (Decimal.digits_shortest_pos hpositive hfinite .toEven)

theorem digits_written_le {rank : Nat} (hfinite : rank < Double.infinityRank) :
    (written rank).digits ≤ 10 ^ 17 := by
  unfold written
  by_cases hzero : rank = 0
  · rw [if_pos hzero]
    exact Nat.zero_le _
  · have hpositive := Nat.pos_of_ne_zero hzero
    rw [if_neg hzero]
    exact digits_spelled_le
      (Decimal.digits_shortest_pos hpositive hfinite .toEven)
      (Decimal.digits_shortest_le hpositive hfinite .toEven)

theorem roundedTwice?_written_isSome {rank : Nat}
    (hfinite : rank < Double.infinityRank) :
    (written rank).roundedTwice?.isSome = true := by
  unfold written
  by_cases hzero : rank = 0
  · rw [if_pos hzero]
    exact Double.scaled?_isSome_of_neg (by decide) _
  · rw [if_neg hzero, spelled]
    split
    case isTrue => exact Double.scaled?_isSome_of_neg (Int.negSucc_lt_zero 0) _
    case isFalse =>
      exact Decimal.roundedTwice?_shortest_isSome
        (Nat.pos_of_ne_zero hzero) hfinite

theorem Parts.Spells.ofParts?_eq {parts : Parts} {text : List Char}
    {decimal : Decimal} (hspells : parts.Spells text decimal)
    (hdigits : decimal.digits ≤ 10 ^ 17) :
    ofParts? parts = decimal.roundedTwice?.map fun rank =>
      .double (Double.ofRank parts.negative rank) := by
  have hdecimal := hspells.decimal_eq
  subst hdecimal
  have hbound : parts.decimal.digits ≤ maxNat64 := by
    rw [maxNat64]
    omega
  rw [ofParts?_of_fits hbound, if_neg hspells.not_integer]

/-! ## Numbers as tokens -/

theorem isNumeralChar_of_isDigit {c : Char} (hdigit : c.isDigit = true) :
    JsonScan.isNumeralChar c = true := by
  simp [JsonScan.isNumeralChar, hdigit]

theorem isNumeralChar_exponentText (exponent : Option Int) :
    ∀ c ∈ Parts.exponentText exponent, JsonScan.isNumeralChar c = true := by
  intro c hc
  cases exponent with
  | none => contradiction
  | some value =>
      rcases List.mem_cons.mp hc with hletter | hc
      · rw [hletter]
        rfl
      · rcases List.mem_cons.mp hc with hsign | hc
        · rw [hsign]
          split <;> rfl
        · exact isNumeralChar_of_isDigit (allDigits_toDigits _ c hc)

theorem isNumeralChar_fractionText {fraction : Option (List Char)}
    (hfraction : ∀ digits ∈ fraction, AllDigits digits ∧ digits ≠ []) :
    ∀ c ∈ Parts.fractionText fraction, JsonScan.isNumeralChar c = true := by
  intro c hc
  cases fraction with
  | none => contradiction
  | some digits =>
      rcases List.mem_cons.mp hc with hpoint | hc
      · rw [hpoint]
        rfl
      · exact isNumeralChar_of_isDigit ((hfraction digits rfl).1 c hc)

theorem scans_parts {parts : Parts} {numeral : JsonNumeral}
    (hplain : parts.IsPlain) (hread : ofParts? parts = some numeral) :
    JsonScan.Scans parts.text [.atom (.number numeral)] := by
  have htext : read? parts.text = some numeral := by
    rw [read?, parts?_text hplain, Option.bind_some, hread]
  have hunsigned : ∀ c ∈ parts.unsignedText,
      JsonScan.isNumeralChar c = true := by
    intro c hc
    rcases List.mem_append.mp hc with hwhole | hc
    · exact isNumeralChar_of_isDigit (hplain.whole_digits c hwhole)
    · rcases List.mem_append.mp hc with hfraction | hexponent
      · exact isNumeralChar_fractionText hplain.fraction c hfraction
      · exact isNumeralChar_exponentText parts.exponent c hexponent
  cases hnegative : parts.negative with
  | true =>
      have hsplit : parts.text = '-' :: parts.unsignedText := by
        rw [Parts.text, hnegative]
        rfl
      rw [hsplit] at htext ⊢
      exact JsonScan.scans_numeral (.inr rfl) hunsigned htext
  | false =>
      have hsplit : parts.text = parts.unsignedText := by
        rw [Parts.text, hnegative]
        rfl
      rw [hsplit] at htext ⊢
      cases hwhole : parts.whole with
      | nil => exact absurd hwhole hplain.whole_ne_nil
      | cons c whole =>
          have hdigit : c.isDigit = true := by
            apply hplain.whole_digits
            rw [hwhole]
            exact List.mem_cons_self
          rw [Parts.unsignedText, hwhole, List.cons_append] at htext hunsigned ⊢
          exact JsonScan.scans_numeral (.inl hdigit)
            (fun d hd => hunsigned d (List.mem_cons_of_mem c hd)) htext

theorem scans_integer {value : Int} (hlow : -(2 : Int) ^ 63 ≤ value)
    (hhigh : value < 2 ^ 64) :
    JsonScan.Scans (JsonNumeral.integer value).text.toList
      [.atom (.number (.integer value))] := by
  rw [text, String.toList_ofList, ← text_integerParts]
  exact scans_parts (isPlain_integerParts value)
    (ofParts?_integerParts hlow hhigh)

/-- A finite number is taken for the number that rounding in two steps finds for
its decimal. -/
theorem scans_double (negative : Bool) (rank : Fin (Double.infinityRank + 1))
    (hfinite : rank.val < Double.infinityRank) :
    ∃ found, (written rank.val).roundedTwice? = some found ∧
      JsonScan.Scans (JsonNumeral.double (.number negative rank)).text.toList
        [.atom (.number (.double (Double.ofRank negative found)))] := by
  rcases Option.isSome_iff_exists.mp (roundedTwice?_written_isSome hfinite) with
    ⟨found, hfound⟩
  rcases exists_spells_magnitude negative hfinite with
    ⟨parts, hnegative, hspells⟩
  have hread := hspells.ofParts?_eq (digits_written_le hfinite)
  rw [hfound, Option.map_some, hnegative] at hread
  have htext : (JsonNumeral.double (.number negative rank)).text.toList =
      parts.text := by
    rw [Parts.text, hspells.text_eq, hnegative, JsonNumeral.text,
      NumberStyle.text, String.toList_append]
    cases negative <;> rfl
  rw [htext]
  exact ⟨found, hfound, scans_parts hspells.plain hread⟩

end JsonNumeral

end RecordFilter

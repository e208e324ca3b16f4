import Mathlib.Algebra.Ring.Nat
import RecordFilter.Number.Integer

/-!
# Integers read back

An integer that has been written in decimal is read as itself, provided that it
is within the bounds of its type. Reading stops at the first digit that leads
beyond the bound, so the induction over the digits carries the number that all
of them spell, which no initial part of them exceeds.
-/

namespace RecordFilter

def AllDigits (text : List Char) : Prop := ∀ c ∈ text, c.isDigit = true

theorem allDigits_toDigits (n : Nat) : AllDigits (Nat.toDigits 10 n) := by
  intro c hc
  exact Nat.isDigit_of_mem_toDigits (by decide) (by decide) hc

/-! ## Reading digits -/

theorem le_ofDigitChars (digits : List Char) (value : Nat) :
    value ≤ Nat.ofDigitChars 10 digits value := by
  induction digits generalizing value with
  | nil => exact Nat.le_refl value
  | cons c digits ih =>
      rw [Nat.ofDigitChars_cons]
      have hrest := ih (10 * value + (c.toNat - '0'.toNat))
      omega

theorem ofDigitChars_lt {digits : List Char} (hdigits : AllDigits digits)
    (value : Nat) :
    Nat.ofDigitChars 10 digits value < (value + 1) * 10 ^ digits.length := by
  induction digits generalizing value with
  | nil => simp
  | cons c digits ih =>
      rw [Nat.ofDigitChars_cons]
      have hdigit : c.toNat - '0'.toNat ≤ 9 := by
        have hcode : 0x30 ≤ c.toNat ∧ c.toNat ≤ 0x39 :=
          Char.isDigit_iff_toNat.mp (hdigits c List.mem_cons_self)
        have hzero : '0'.toNat = 0x30 := rfl
        omega
      have hrest := ih (fun d hd => hdigits d (List.mem_cons_of_mem c hd))
        (10 * value + (c.toNat - '0'.toNat))
      calc
        _ < (10 * value + (c.toNat - '0'.toNat) + 1) * 10 ^ digits.length :=
          hrest
        _ ≤ (value + 1) * 10 * 10 ^ digits.length :=
          Nat.mul_le_mul_right _ (by omega)
        _ = (value + 1) * 10 ^ (c :: digits).length := by
          rw [List.length_cons, Nat.pow_succ', Nat.mul_assoc]

/-- One digit more of a number that is read. -/
def takeDigit (bound : Nat) (beyond : IntegerFault) (value : Nat) (c : Char) :
    Except IntegerFault Nat :=
  if c.isDigit then
    let next := Nat.ofDigitChars 10 [c] value
    if next ≤ bound then .ok next else .error beyond
  else .error .invalidDigit

theorem readBounded_eq_foldlM (bound : Nat) (beyond : IntegerFault)
    (digits : List Char) :
    readBounded bound beyond digits =
      digits.foldlM (takeDigit bound beyond) 0 := rfl

theorem takeDigit_of_le {bound value : Nat} {c : Char}
    (hdigit : c.isDigit = true)
    (hbound : Nat.ofDigitChars 10 [c] value ≤ bound) (beyond : IntegerFault) :
    takeDigit bound beyond value c = .ok (Nat.ofDigitChars 10 [c] value) := by
  simp only [takeDigit, hdigit, hbound, if_true]

theorem foldlM_takeDigit {bound : Nat} {digits : List Char}
    (hdigits : AllDigits digits) (beyond : IntegerFault) {value : Nat}
    (hbound : Nat.ofDigitChars 10 digits value ≤ bound) :
    digits.foldlM (takeDigit bound beyond) value =
      .ok (Nat.ofDigitChars 10 digits value) := by
  induction digits generalizing value with
  | nil => rfl
  | cons c digits ih =>
      have hdigit := hdigits c List.mem_cons_self
      have hrest : AllDigits digits :=
        fun d hd => hdigits d (List.mem_cons_of_mem c hd)
      have hsplit : Nat.ofDigitChars 10 (c :: digits) value =
          Nat.ofDigitChars 10 digits (Nat.ofDigitChars 10 [c] value) :=
        Nat.ofDigitChars_append (l := [c]) value
      rw [hsplit] at hbound ⊢
      have hnext : Nat.ofDigitChars 10 [c] value ≤ bound :=
        Nat.le_trans (le_ofDigitChars digits _) hbound
      rw [List.foldlM_cons, takeDigit_of_le hdigit hnext]
      exact ih hrest hbound

theorem readBounded_toDigits {bound n : Nat} (hbound : n ≤ bound)
    (beyond : IntegerFault) :
    readBounded bound beyond (Nat.toDigits 10 n) = .ok n := by
  have hvalue : Nat.ofDigitChars 10 (Nat.toDigits 10 n) 0 ≤ bound := by
    rw [Nat.ofDigitChars_ten_toDigits]
    exact hbound
  rw [readBounded_eq_foldlM,
    foldlM_takeDigit (allDigits_toDigits n) beyond hvalue,
    Nat.ofDigitChars_ten_toDigits]

/-! ## Reading integers with a sign -/

theorem exists_toDigits_eq_cons (n : Nat) :
    ∃ c digits, Nat.toDigits 10 n = c :: digits ∧ c.isDigit = true := by
  cases hdigits : Nat.toDigits 10 n with
  | nil => exact absurd hdigits Nat.toDigits_ne_nil
  | cons c digits =>
      have hc : c ∈ Nat.toDigits 10 n := by
        rw [hdigits]
        exact List.mem_cons_self
      exact ⟨c, digits, rfl, allDigits_toDigits n c hc⟩

theorem readSigned_toDigits {bound n : Nat} (hbound : n ≤ bound) :
    readSigned bound (Nat.toDigits 10 n) = .ok n := by
  have hread := readBounded_toDigits hbound .tooLarge
  obtain ⟨c, digits, hdigits, hdigit⟩ := exists_toDigits_eq_cons n
  rw [hdigits] at hread ⊢
  have hplus : c ≠ '+' := by
    rintro rfl
    contradiction
  have hminus : c ≠ '-' := by
    rintro rfl
    contradiction
  rw [readSigned, if_neg hplus, if_neg hminus, hread]
  rfl

theorem readSigned_minus_toDigits {bound n : Nat} (hbound : n ≤ bound + 1) :
    readSigned bound ('-' :: Nat.toDigits 10 n) = .ok (-(n : Int)) := by
  have hsome : (Nat.toDigits 10 n).isEmpty = false := by
    rw [List.isEmpty_eq_false_iff]
    exact Nat.toDigits_ne_nil
  rw [readSigned, if_neg (by decide), if_pos rfl, hsome,
    readBounded_toDigits hbound]
  rfl

theorem readSigned_integerText {bound : Nat} {value : Int}
    (hlow : -(bound : Int) - 1 ≤ value) (hhigh : value ≤ bound) :
    readSigned bound (integerText value) = .ok value := by
  cases value with
  | ofNat n =>
      have hbound : n ≤ bound := by
        rw [Int.ofNat_eq_natCast] at hhigh
        omega
      exact readSigned_toDigits hbound
  | negSucc n =>
      have hbound : n + 1 ≤ bound + 1 := by
        rw [Int.negSucc_eq] at hlow
        omega
      rw [Int.negSucc_eq]
      exact readSigned_minus_toDigits hbound

/-! ## Digits up to a width -/

theorem allDigits_paddedDigits (width n : Nat) :
    AllDigits (paddedDigits width n) := by
  intro c hc
  rcases List.mem_append.mp hc with hzero | hdigit
  · rw [List.eq_of_mem_replicate hzero]
    rfl
  · exact allDigits_toDigits n c hdigit

theorem ofDigitChars_paddedDigits (width n : Nat) :
    Nat.ofDigitChars 10 (paddedDigits width n) 0 = n := by
  simp only [paddedDigits]
  rw [Nat.ofDigitChars_append, Nat.ofDigitChars_replicate_zero, Nat.mul_zero,
    Nat.ofDigitChars_ten_toDigits]

theorem paddedDigits_ne_nil (width n : Nat) : paddedDigits width n ≠ [] := by
  have hdigits : Nat.toDigits 10 n ≠ [] := Nat.toDigits_ne_nil
  simp [paddedDigits, hdigits]

theorem length_paddedDigits {width n : Nat} (hwidth : 0 < width)
    (hn : n < 10 ^ width) : (paddedDigits width n).length = width := by
  have hdigits : (Nat.toDigits 10 n).length ≤ width :=
    (Nat.length_toDigits_le_iff (by decide) hwidth).mpr hn
  simp only [paddedDigits, List.length_append, List.length_replicate]
  omega

/-! ## Integers of 32 and 64 bits -/

theorem fitsSigned_iff {greatest : Nat} {value : Int} :
    fitsSigned greatest value = true ↔
      -(greatest : Int) - 1 ≤ value ∧ value ≤ greatest := by
  simp [fitsSigned]

theorem fitsSigned_toInt_int32 (value : Int32) :
    fitsSigned maxInt32 value.toInt = true := by
  have hlow := value.le_toInt
  have hhigh := value.toInt_lt
  rw [fitsSigned_iff, maxInt32]
  omega

theorem fitsSigned_toInt_int64 (value : Int64) :
    fitsSigned maxInt64 value.toInt = true := by
  have hlow := value.le_toInt
  have hhigh := value.toInt_lt
  rw [fitsSigned_iff, maxInt64]
  omega

theorem toInt_int32_of_fitsSigned {value : Int}
    (hfits : fitsSigned maxInt32 value = true) :
    (Int32.ofInt value).toInt = value := by
  rw [fitsSigned_iff, maxInt32] at hfits
  exact Int32.toInt_ofInt_of_le (by omega) (by omega)

theorem toInt_int64_of_fitsSigned {value : Int}
    (hfits : fitsSigned maxInt64 value = true) :
    (Int64.ofInt value).toInt = value := by
  rw [fitsSigned_iff, maxInt64] at hfits
  exact Int64.toInt_ofInt_of_le (by omega) (by omega)

end RecordFilter

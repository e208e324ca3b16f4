import RecordFilter.Proofs.Json.NumeralText

/-!
# Numbers written and read again

A number that was read from a document can be written and read again. An integer
comes back, and a number of double precision is read as the number that rounding
its decimal in two steps leads to. That is the number itself if its digits fit
the significand and the power of ten is exact.
-/

namespace RecordFilter

/-! ## Numbers of double precision -/

namespace Double

/-- Rounding the decimal of the number in two steps leads to the number. -/
def SurvivesJson : Double → Prop
  | .nan => False
  | .number _ rank =>
    rank.val < infinityRank ∧
      (JsonNumeral.written rank.val).roundedTwice? = some rank.val

instance : DecidablePred SurvivesJson
  | .nan => .isFalse id
  | .number _ rank => inferInstanceAs (Decidable
      (rank.val < infinityRank ∧
        (JsonNumeral.written rank.val).roundedTwice? = some rank.val))

/-- The number that is read where this one is written, if it is finite. -/
def reread : Double → Double
  | .nan => .nan
  | .number negative rank =>
    ofRank negative
      ((JsonNumeral.written rank.val).roundedTwice?.getD infinityRank)

/-- The digits fit the significand, and the power of ten is exact. -/
def IsShort : Double → Prop
  | .nan => False
  | .number _ rank =>
    rank.val < infinityRank ∧
      (JsonNumeral.written rank.val).digits < 2 ^ 53 ∧
        (JsonNumeral.written rank.val).exponent.natAbs ≤ Decimal.maxExactPower

theorem ofRank_equals_iff {negative : Bool} {found : Nat}
    {rank : Fin (infinityRank + 1)} (hfinite : rank.val < infinityRank) :
    (ofRank negative found).equals (.number negative rank) = true ↔
      found = rank.val := by
  simp only [equals, order?, ofRank, key?, beq_iff_eq, Option.some.injEq,
    compare_eq_iff_eq]
  cases negative with
  | false =>
      simp only [Bool.false_eq_true, if_false]
      omega
  | true =>
      simp only [if_true]
      omega

theorem reread_equals_iff {negative : Bool} {rank : Fin (infinityRank + 1)}
    (hfinite : rank.val < infinityRank) :
    (reread (.number negative rank)).equals (.number negative rank) = true ↔
      (Double.number negative rank).SurvivesJson := by
  obtain ⟨found, hfound⟩ := Option.isSome_iff_exists.mp
    (JsonNumeral.roundedTwice?_written_isSome hfinite)
  rw [reread, hfound, Option.getD_some, ofRank_equals_iff hfinite,
    SurvivesJson, hfound, Option.some.injEq, and_iff_right hfinite]

end Double

namespace JsonNumeral

/-! ## Numbers of documents -/

/-- A document can hold the number: an integer of 64 bits, signed or unsigned,
or a finite number of double precision. -/
def IsReadable : JsonNumeral → Prop
  | .integer value => -(2 : Int) ^ 63 ≤ value ∧ value < 2 ^ 64
  | .double .nan => False
  | .double (.number _ rank) => rank.val < Double.infinityRank

/-- The number that is read where this one is written. -/
def reread : JsonNumeral → JsonNumeral
  | .integer value => .integer value
  | .double value => .double value.reread

def IsShort : JsonNumeral → Prop
  | .integer _ => True
  | .double value => value.IsShort

theorem scans_text {numeral : JsonNumeral} (hreadable : numeral.IsReadable) :
    JsonScan.Scans numeral.text.toList [.atom (.number numeral.reread)] := by
  cases numeral with
  | integer value => exact scans_integer hreadable.1 hreadable.2
  | double value =>
      cases value with
      | nan => contradiction
      | number negative rank =>
          obtain ⟨found, hfound, hscans⟩ :=
            scans_double negative rank hreadable
          rw [reread, Double.reread, hfound, Option.getD_some]
          exact hscans

/-! ## What can be read -/

end JsonNumeral

end RecordFilter

import RecordFilter.Json.Numeral
import RecordFilter.Proofs.Number.Shortest

/-!
# Decimals rounded in two steps

A reader that rounds the digits of a decimal first and scales them afterwards
finds a finite number for the shortest decimal of every finite number. Each of
the two factors is too large by less than one part in 2 to the power of 52,
which matters only for the five greatest numbers, and these are tried one by
one.

Nothing is lost if the digits fit the significand and the power of ten does as
well. Then the only rounding is that of the last step.
-/

namespace RecordFilter

/-- The rank that a reader finds in two steps, if the number is finite. -/
def Decimal.roundedTwice? (decimal : Decimal) : Option Nat :=
  Double.scaled? (Double.rankOfQuotient decimal.digits 1) decimal.exponent

namespace Double

theorem scaled?_isSome_of_neg {exponent : Int} (hnegative : exponent < 0)
    (rank : Nat) : (scaled? rank exponent).isSome = true := by
  induction rank, exponent using scaled?.induct with
  | case1 rank exponent hnear hwhole => omega
  | case2 rank exponent hnear hwhole => omega
  | case3 rank exponent hnear hfraction =>
      rw [scaled?, if_pos hnear, if_neg hfraction]
      rfl
  | case4 exponent hfar =>
      rw [scaled?, if_neg hfar, if_pos rfl]
      rfl
  | case5 rank exponent hfar hsome hwhole => omega
  | case6 rank exponent hfar hsome hfraction ih =>
      rw [scaled?, if_neg hfar, if_neg hsome, if_neg hfraction]
      apply ih
      rw [maxPower] at hfar ⊢
      omega

theorem scaled?_of_nonneg {exponent : Nat} (hnear : exponent ≤ maxPower)
    (rank : Nat) :
    scaled? rank exponent =
      if productRank rank (powerRank exponent) < infinityRank then
        some (productRank rank (powerRank exponent))
      else none := by
  rw [scaled?, Int.natAbs_natCast, if_pos hnear, if_pos (Int.natCast_nonneg _)]

/-! ## Powers of ten -/

theorem powerRank_eq {exponent : Nat} (hnear : exponent ≤ maxPower) :
    powerRank exponent = rankOfQuotient (10 ^ exponent) 1 := by
  rw [maxPower] at hnear
  have hlength : decimalLength 1 = 1 := by
    decide
  have hmoderate : Decimal.IsModerate ⟨1, exponent⟩ := by
    refine ⟨Nat.one_ne_zero, ?_, ?_⟩
    · show -400 ≤ (decimalLength 1 : Int) + exponent
      omega
    · show (decimalLength 1 : Int) + exponent ≤ 400
      omega
  rw [powerRank, Decimal.rank_of_isModerate hmoderate]
  simp

theorem powerRank_lt_infinityRank {exponent : Nat}
    (hnear : exponent ≤ maxPower) : powerRank exponent < infinityRank := by
  rw [powerRank_eq hnear]
  apply rankOfQuotient_lt_infinityRank Nat.one_pos
  have hpower : 10 ^ exponent ≤ 10 ^ maxPower :=
    Nat.pow_le_pow_right (by decide) hnear
  have hgreatest : 10 ^ maxPower * 2 ^ unitPlaces ≤ maxUnits := by
    decide +kernel
  rw [Nat.mul_one]
  exact (Nat.mul_le_mul_right _ hpower).trans hgreatest

/-! ## Products -/

theorem productRank_eq (left right : Nat) :
    productRank left right =
      rankOfQuotient (units left * units right)
        (2 ^ unitPlaces * 2 ^ unitPlaces) := by
  rw [productRank, Nat.shiftLeft_eq, Nat.one_mul, Nat.two_mul, Nat.pow_add]

/-- The product of two rounded factors is finite if there is some room above
the exact product. -/
theorem productRank_lt_infinityRank {left right : Nat} (hleft : 0 < left)
    (hright : 0 < right) (hleftFinite : rankOfQuotient left 1 < infinityRank)
    (hrightFinite : rankOfQuotient right 1 < infinityRank)
    (hroom : left * right * 2 ^ unitPlaces ≤ (2 ^ 53 - 5) * 2 ^ maxShift) :
    productRank (rankOfQuotient left 1) (rankOfQuotient right 1) <
      infinityRank := by
  have hleftUnits := units_rankOfQuotient_le hleft hleftFinite
  have hrightUnits := units_rankOfQuotient_le hright hrightFinite
  have hproduct := Nat.mul_le_mul hleftUnits hrightUnits
  have hunit : 0 < 2 ^ unitPlaces := Nat.two_pow_pos _
  rw [productRank_eq]
  apply rankOfQuotient_lt_infinityRank (Nat.mul_pos hunit hunit)
  apply Nat.le_of_mul_le_mul_right _ (Nat.two_pow_pos 104)
  rw [maxUnits]
  generalize units (rankOfQuotient left 1) = leftUnits at *
  generalize units (rankOfQuotient right 1) = rightUnits at *
  generalize 2 ^ unitPlaces = unit at *
  generalize 2 ^ maxShift = top at *
  calc
    _ = leftUnits * 2 ^ 52 * (rightUnits * 2 ^ 52) * unit := by ring
    _ ≤ left * unit * (2 ^ 52 + 1) * (right * unit * (2 ^ 52 + 1)) * unit :=
      Nat.mul_le_mul_right _ hproduct
    _ = left * right * unit * ((2 ^ 52 + 1) ^ 2 * (unit * unit)) := by ring
    _ ≤ (2 ^ 53 - 5) * top * ((2 ^ 52 + 1) ^ 2 * (unit * unit)) :=
      Nat.mul_le_mul_right _ hroom
    _ = (2 ^ 53 - 5) * (2 ^ 52 + 1) ^ 2 * (top * (unit * unit)) := by ring
    _ ≤ (2 ^ 53 - 1) * 2 ^ 104 * (top * (unit * unit)) :=
      Nat.mul_le_mul_right _ (by decide)
    _ = (2 ^ 53 - 1) * top * (unit * unit) * 2 ^ 104 := by ring

/-! ## Quotients -/

end Double

/-! ## Shortest decimals -/

namespace Decimal

theorem isModerate_of_rank {decimal : Decimal} (hpositive : 0 < decimal.rank)
    (hfinite : decimal.rank < Double.infinityRank) : decimal.IsModerate := by
  have hsome := digits_ne_zero_of_rank hpositive
  simp only [rank, if_neg hsome] at hpositive hfinite
  refine ⟨hsome, ?_, ?_⟩
  · by_contra hsmall
    rw [if_neg (by omega), if_pos (by omega)] at hpositive
    exact absurd hpositive (Nat.lt_irrefl 0)
  · by_contra hlarge
    rw [if_pos (by omega)] at hfinite
    exact absurd hfinite (Nat.lt_irrefl _)

theorem rank_of_nonneg {digits exponent : Nat}
    (hmoderate : IsModerate ⟨digits, exponent⟩) :
    (⟨digits, exponent⟩ : Decimal).rank =
      Double.rankOfQuotient (digits * 10 ^ exponent) 1 := by
  rw [rank_of_isModerate hmoderate]
  simp

/-- A decimal that is rounded to a number is less than the next number. -/
theorem lt_units_succ_of_rank {digits exponent rank : Nat}
    (hrank : (⟨digits, exponent⟩ : Decimal).rank = rank) (hpositive : 0 < rank)
    (hfinite : rank < Double.infinityRank) :
    digits * 10 ^ exponent * 2 ^ Double.unitPlaces <
      Double.units (rank + 1) := by
  subst hrank
  have hquotient := rank_of_nonneg (isModerate_of_rank hpositive hfinite)
  by_contra hlarge
  have hbound : Double.units ((⟨digits, exponent⟩ : Decimal).rank + 1) * 1 ≤
      digits * 10 ^ exponent * 2 ^ Double.unitPlaces := by
    omega
  have hnext := Double.le_rankOfQuotient Nat.one_pos hfinite hbound
  omega

theorem roundedTwice?_shortest_of_top : ∀ gap ∈ List.range 5,
    (shortest .toEven
      (Double.infinityRank - 1 - gap)).roundedTwice?.isSome = true := by
  decide +kernel

theorem roundedTwice?_isSome_of_room {digits exponent : Nat}
    (hdigits : 0 < digits) (hlength : digits ≤ 10 ^ 17)
    (hroom : digits * 10 ^ exponent * 2 ^ Double.unitPlaces ≤
      (2 ^ 53 - 5) * 2 ^ Double.maxShift) :
    (⟨digits, exponent⟩ : Decimal).roundedTwice?.isSome = true := by
  have hexponent : exponent ≤ Double.maxPower := by
    by_contra hlarge
    have hpower : 10 ^ 309 ≤ 10 ^ exponent := by
      apply Nat.pow_le_pow_right
      · decide
      · rw [Double.maxPower] at hlarge
        omega
    have hbeyond : (2 ^ 53 - 5) * 2 ^ Double.maxShift <
        10 ^ 309 * 2 ^ Double.unitPlaces := by
      decide +kernel
    have hmore : 10 ^ 309 ≤ digits * 10 ^ exponent :=
      hpower.trans (Nat.le_mul_of_pos_left _ hdigits)
    have hproduct := Nat.mul_le_mul_right (2 ^ Double.unitPlaces) hmore
    omega
  have hfew : Double.rankOfQuotient digits 1 < Double.infinityRank := by
    apply Double.rankOfQuotient_lt_infinityRank Nat.one_pos
    have hmost : 10 ^ 17 * 2 ^ Double.unitPlaces ≤ Double.maxUnits * 1 := by
      decide +kernel
    exact (Nat.mul_le_mul_right _ hlength).trans hmost
  have hpower := Double.powerRank_lt_infinityRank hexponent
  rw [Double.powerRank_eq hexponent] at hpower
  have hproduct := Double.productRank_lt_infinityRank hdigits
    (Nat.pow_pos (by decide)) hfew hpower hroom
  rw [roundedTwice?, Double.scaled?_of_nonneg hexponent,
    Double.powerRank_eq hexponent, if_pos hproduct]
  rfl

/-- No shortest decimal is rounded to infinity. -/
theorem roundedTwice?_shortest_isSome {rank : Nat} (hpositive : 0 < rank)
    (hfinite : rank < Double.infinityRank) :
    (shortest .toEven rank).roundedTwice?.isSome = true := by
  by_cases htop : Double.infinityRank < rank + 1 + 5
  · have hmem : Double.infinityRank - 1 - rank ∈ List.range 5 := by
      rw [List.mem_range]
      omega
    have hrank :
        Double.infinityRank - 1 - (Double.infinityRank - 1 - rank) = rank := by
      omega
    have hsome := roundedTwice?_shortest_of_top _ hmem
    rw [hrank] at hsome
    exact hsome
  · have hread := rank_shortest hpositive hfinite .toEven
    have hdigits := digits_shortest_pos hpositive hfinite .toEven
    have hlength := digits_shortest_le hpositive hfinite .toEven
    generalize shortest .toEven rank = decimal at *
    rcases decimal with ⟨digits, exponent⟩
    by_cases hnegative : exponent < 0
    · exact Double.scaled?_isSome_of_neg hnegative _
    · rcases Int.eq_ofNat_of_zero_le (Int.not_lt.mp hnegative) with
        ⟨places, hplaces⟩
      subst hplaces
      have hbound := lt_units_succ_of_rank hread hpositive hfinite
      have hunits := Double.units_le_of_add_le 5 (by decide) (by decide)
        (Nat.le_of_not_lt htop)
      exact roundedTwice?_isSome_of_room hdigits hlength
        (hbound.le.trans hunits)

/-! ## Decimals of few digits -/

/-- Powers of ten up to this one fit the significand, if they are halved as
often as possible. -/
def maxExactPower : Nat := 22

end Decimal

end RecordFilter

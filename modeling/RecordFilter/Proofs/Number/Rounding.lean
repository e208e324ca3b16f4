import Mathlib.Algebra.Order.Ring.Nat
import Mathlib.Tactic.Ring
import RecordFilter.Number.Rounding

/-!
# Rounding to the nearest number

Every rank belongs to a significand of at most 53 digits that has been doubled
a number of times. A quotient that is nearer to such a number than a quarter of
the step to the next one is rounded to its rank, and 2 to the power of 54 is
enough to say so for all numbers at once. The quarter is needed only below a
power of two, where the step is half as large on one side.
-/

namespace RecordFilter

theorem nearestQuotient_eq {num den n : Nat}
    (hlow : 2 * (n * den) < 2 * num + den)
    (hhigh : 2 * num < 2 * (n * den) + den) : nearestQuotient num den = n := by
  have hden : 0 < den := by
    omega
  have hsplit : den * (num / den) + num % den = num := Nat.div_add_mod num den
  have hremainder : num % den < den := Nat.mod_lt num hden
  have hupper : num / den ≤ n := by
    apply Nat.le_of_lt_succ
    rw [Nat.div_lt_iff_lt_mul hden, Nat.succ_mul]
    omega
  have hlower : n ≤ num / den + 1 := by
    cases n with
    | zero => exact Nat.zero_le _
    | succ n =>
        rw [Nat.add_mul, Nat.one_mul] at hlow
        apply Nat.succ_le_succ
        rw [Nat.le_div_iff_mul_le hden]
        omega
  rcases Nat.lt_or_eq_of_le hupper with hbelow | hequal
  · have hnext : n = num / den + 1 := by
      omega
    rw [hnext, Nat.add_mul, Nat.one_mul, Nat.mul_comm (num / den)] at hlow
    simp only [nearestQuotient]
    rw [if_neg (by omega), if_pos (by omega), hnext]
  · rw [← hequal, Nat.mul_comm (num / den)] at hhigh
    simp only [nearestQuotient]
    rw [if_pos (by omega), hequal]

theorem nearestQuotient_mul_right {factor : Nat} (hfactor : 0 < factor)
    (num den : Nat) :
    nearestQuotient (num * factor) (den * factor) =
      nearestQuotient num den := by
  have hdouble : 2 * (num % den * factor) = 2 * (num % den) * factor :=
    (Nat.mul_assoc ..).symm
  simp only [nearestQuotient, Nat.mul_div_mul_right _ _ hfactor,
    Nat.mul_mod_mul_right, hdouble, Nat.mul_lt_mul_right hfactor]

/-- The quotient is rounded down or up. -/
theorem nearestQuotient_bounds (num den : Nat) :
    num / den ≤ nearestQuotient num den ∧
      nearestQuotient num den ≤ num / den + 1 := by
  simp only [nearestQuotient]
  split
  · omega
  · split
    · omega
    · split <;> omega

theorem nearestQuotient_le {num den bound : Nat} (hden : 0 < den)
    (hbound : num ≤ bound * den) : nearestQuotient num den ≤ bound := by
  have hsplit : den * (num / den) + num % den = num := Nat.div_add_mod num den
  have hupper : num / den ≤ bound := by
    rw [← Nat.mul_div_cancel bound hden]
    exact Nat.div_le_div_right hbound
  rcases Nat.lt_or_eq_of_le hupper with hbelow | hequal
  · exact (nearestQuotient_bounds num den).2.trans hbelow
  · rw [hequal, Nat.mul_comm] at hsplit
    have hzero : num % den = 0 := by
      omega
    simp only [nearestQuotient, hzero, hequal]
    rw [if_pos (by omega)]

theorem le_nearestQuotient {num den bound : Nat} (hden : 0 < den)
    (hbound : bound * den ≤ num) : bound ≤ nearestQuotient num den := by
  have hlower : bound ≤ num / den :=
    (Nat.le_div_iff_mul_le hden).mpr hbound
  exact hlower.trans (nearestQuotient_bounds num den).1

theorem nearestQuotient_mul_le (num den : Nat) :
    nearestQuotient num den * den ≤ num + den := by
  calc
    _ ≤ (num / den + 1) * den :=
      Nat.mul_le_mul_right _ (nearestQuotient_bounds num den).2
    _ = num / den * den + den := by ring
    _ ≤ num + den := Nat.add_le_add_right (Nat.div_mul_le_self num den) den

namespace Double

/-- The significand uses all its digits if it has been doubled at all. -/
structure IsScaled (shift significand : Nat) : Prop where
  lt : significand < 2 ^ 53
  full : 0 < shift → 2 ^ 52 ≤ significand

theorem exists_isScaled (rank : Nat) :
    ∃ shift significand, IsScaled shift significand ∧
      rank = shift * binade + significand ∧
      units rank = significand * 2 ^ shift := by
  unfold units
  by_cases hsmall : rank < binade
  · refine ⟨0, rank, ⟨?_, ?_⟩, ?_, ?_⟩
    · rw [binade] at hsmall
      omega
    · intro hshift
      contradiction
    · rw [Nat.zero_mul, Nat.zero_add]
    · rw [if_pos hsmall, Nat.pow_zero, Nat.mul_one]
  · have hrest : rank % binade < binade := Nat.mod_lt rank (by decide)
    refine ⟨rank / binade - 1, binade + rank % binade, ⟨?_, ?_⟩, ?_, ?_⟩
    · rw [binade] at hrest ⊢
      omega
    · intro hshift
      rw [binade]
      omega
    · rw [binade] at hsmall ⊢
      omega
    · rw [if_neg hsmall, Nat.shiftLeft_eq]

/-- A significand may also be rounded up to a power of two. -/
theorem units_of_significand {shift significand : Nat}
    (hle : significand ≤ 2 ^ 53) (hfull : 0 < shift → 2 ^ 52 ≤ significand) :
    units (shift * binade + significand) = significand * 2 ^ shift := by
  unfold units
  by_cases hsmall : shift * binade + significand < binade
  · have hshift : shift = 0 := by
      rw [binade] at hsmall
      omega
    rw [if_pos hsmall, hshift]
    omega
  · rw [if_neg hsmall, Nat.shiftLeft_eq]
    have hbinade : binade ≤ significand := by
      rw [binade] at hsmall ⊢
      by_cases hpositive : 0 < shift
      · exact hfull hpositive
      · omega
    by_cases htop : significand = 2 * binade
    · have hquotient : (shift * binade + significand) / binade - 1 =
          shift + 1 := by
        rw [binade] at htop ⊢
        omega
      have hremainder : (shift * binade + significand) % binade = 0 := by
        rw [binade] at htop ⊢
        omega
      rw [hquotient, hremainder, htop, Nat.pow_succ]
      ring
    · have hquotient : (shift * binade + significand) / binade - 1 =
          shift := by
        rw [binade] at hbinade htop ⊢
        omega
      have hremainder : binade + (shift * binade + significand) % binade =
          significand := by
        rw [binade] at hbinade htop ⊢
        omega
      rw [hquotient, hremainder]

/-- Each doubling makes a step at least twice as large. -/
theorem two_mul_step_le {less more : Nat} (hless : less < more) (den : Nat) :
    2 * (den * 2 ^ less) ≤ den * 2 ^ more := by
  calc
    _ = den * 2 ^ (less + 1) := by ring
    _ ≤ den * 2 ^ more :=
      Nat.mul_le_mul_left _ (Nat.pow_le_pow_right Nat.two_pos hless)

/-! ## Rounding a quotient -/

theorem log2_sub_eq {n shift : Nat} (hlow : 0 < shift → 2 ^ (52 + shift) ≤ n)
    (hhigh : n < 2 ^ (53 + shift)) : n.log2 - 52 = shift := by
  by_cases hzero : n = 0
  · have hshift : shift = 0 := by
      by_contra hpositive
      have hpower : 0 < 2 ^ (52 + shift) := Nat.two_pow_pos _
      have hfull := hlow (Nat.pos_of_ne_zero hpositive)
      omega
    rw [hzero, hshift]
    decide
  · have hlog := (Nat.log2_lt hzero).mpr hhigh
    by_cases hpositive : 0 < shift
    · have hleast := (Nat.le_log2 hzero).mpr (hlow hpositive)
      omega
    · omega

theorem rankOfQuotient_eq {num den shift : Nat} (hden : 0 < den)
    (hlow : 0 < shift → 2 ^ 52 * (den * 2 ^ shift) ≤ num * 2 ^ unitPlaces)
    (hhigh : num * 2 ^ unitPlaces < 2 ^ 53 * (den * 2 ^ shift)) :
    rankOfQuotient num den =
      min (shift * binade +
        nearestQuotient (num * 2 ^ unitPlaces) (den * 2 ^ shift))
        infinityRank := by
  have hpower : ∀ count, 2 ^ (count + shift) * den =
      2 ^ count * (den * 2 ^ shift) := by
    intro count
    rw [Nat.pow_add]
    ring
  have hshift : (num * 2 ^ unitPlaces / den).log2 - 52 = shift := by
    apply log2_sub_eq
    · intro hpositive
      rw [Nat.le_div_iff_mul_le hden, hpower]
      exact hlow hpositive
    · rw [Nat.div_lt_iff_lt_mul hden, hpower]
      exact hhigh
  simp only [rankOfQuotient, Nat.shiftLeft_eq, hshift]

theorem rankOfQuotient_mul_right {factor : Nat} (hfactor : 0 < factor)
    (num den : Nat) :
    rankOfQuotient (num * factor) (den * factor) = rankOfQuotient num den := by
  have hnum : num * factor * 2 ^ unitPlaces =
      num * 2 ^ unitPlaces * factor := Nat.mul_right_comm ..
  simp only [rankOfQuotient, Nat.shiftLeft_eq, hnum,
    Nat.mul_div_mul_right _ _ hfactor, Nat.mul_right_comm den factor,
    nearestQuotient_mul_right hfactor]

/-- Equal fractions are rounded alike. -/
theorem rankOfQuotient_congr {num den otherNum otherDen : Nat}
    (hden : 0 < den) (hother : 0 < otherDen)
    (hcross : num * otherDen = otherNum * den) :
    rankOfQuotient num den = rankOfQuotient otherNum otherDen := by
  rw [← rankOfQuotient_mul_right hother num den, hcross,
    Nat.mul_comm den otherDen, rankOfQuotient_mul_right hden]

/-- A quotient that differs from a number by less than one part in 2 to the
power of 54 is rounded to it. -/
theorem rankOfQuotient_of_near {rank num den : Nat}
    (hrank : rank ≤ infinityRank)
    (hlow : units rank * den * (2 ^ 54 - 1) < num * 2 ^ unitPlaces * 2 ^ 54)
    (hhigh : num * 2 ^ unitPlaces * 2 ^ 54 < units rank * den * (2 ^ 54 + 1)) :
    rankOfQuotient num den = rank := by
  have hden : 0 < den := by
    apply Nat.pos_of_ne_zero
    intro hzero
    rw [hzero, Nat.mul_zero, Nat.zero_mul] at hhigh
    exact absurd hhigh (Nat.not_lt_zero _)
  rcases exists_isScaled rank with
    ⟨shift, significand, hscaled, hsum, hunits⟩
  have hproduct : units rank * den = significand * (den * 2 ^ shift) := by
    rw [hunits]
    ring
  rw [hproduct] at hlow hhigh
  have hlt : significand * (den * 2 ^ shift) ≤
      (2 ^ 53 - 1) * (den * 2 ^ shift) :=
    Nat.mul_le_mul_right _ (Nat.le_sub_one_of_lt hscaled.lt)
  by_cases hsame : 0 < shift → 2 ^ 52 * (den * 2 ^ shift) ≤ num * 2 ^ unitPlaces
  · have hnearest : nearestQuotient (num * 2 ^ unitPlaces) (den * 2 ^ shift) =
        significand := by
      apply nearestQuotient_eq
      · omega
      · omega
    rw [rankOfQuotient_eq hden hsame (by omega), hnearest, ← hsum,
      Nat.min_eq_left hrank]
  · -- The number is a power of two, and the quotient lies below it.
    rw [Classical.not_imp] at hsame
    rcases hsame with ⟨hpositive, hbelow⟩
    have hpower : significand = 2 ^ 52 := by
      have hfull := hscaled.full hpositive
      by_contra hother
      have hmore : (2 ^ 52 + 1) * (den * 2 ^ shift) ≤
          significand * (den * 2 ^ shift) :=
        Nat.mul_le_mul_right _ (by omega)
      omega
    rcases Nat.exists_eq_succ_of_ne_zero hpositive.ne' with ⟨less, hless⟩
    have htwice : den * 2 ^ shift = 2 * (den * 2 ^ less) := by
      rw [hless, Nat.pow_succ]
      ring
    rw [hpower, htwice] at hlow hhigh
    have hunder : num * 2 ^ unitPlaces < 2 ^ 53 * (den * 2 ^ less) := by
      omega
    have hnearest : nearestQuotient (num * 2 ^ unitPlaces) (den * 2 ^ less) =
        2 ^ 53 := by
      apply nearestQuotient_eq
      · omega
      · omega
    have hrankLess : rank = less * binade + 2 ^ 53 := by
      rw [hsum, hpower, hless, Nat.succ_mul, binade]
      omega
    have hfull : 0 < less →
        2 ^ 52 * (den * 2 ^ less) ≤ num * 2 ^ unitPlaces := by
      intro _
      omega
    rw [rankOfQuotient_eq hden hfull hunder, hnearest, ← hrankLess,
      Nat.min_eq_left hrank]

/-- How often the significand of the greatest finite number is doubled. -/
def maxShift : Nat := 2045

/-- The greatest finite number as a multiple of the least positive one. -/
def maxUnits : Nat := (2 ^ 53 - 1) * 2 ^ maxShift

/-- How a quotient is rounded is told by the place of its first binary digit. -/
theorem exists_shift (num den : Nat) (hden : 0 < den) :
    ∃ shift, (0 < shift →
        2 ^ 52 * (den * 2 ^ shift) ≤ num * 2 ^ unitPlaces) ∧
      num * 2 ^ unitPlaces < 2 ^ 53 * (den * 2 ^ shift) := by
  have hpower : ∀ count shift, 2 ^ count * (den * 2 ^ shift) =
      2 ^ (count + shift) * den := by
    intro count shift
    rw [Nat.pow_add]
    ring
  refine ⟨(num * 2 ^ unitPlaces / den).log2 - 52, ?_, ?_⟩
  · intro hpositive
    have hsome : num * 2 ^ unitPlaces / den ≠ 0 := by
      intro hzero
      rw [hzero] at hpositive
      contradiction
    rw [hpower, ← Nat.le_div_iff_mul_le hden, ← Nat.le_log2 hsome]
    omega
  · rw [hpower, ← Nat.div_lt_iff_lt_mul hden]
    apply Nat.lt_of_lt_of_le Nat.lt_log2_self
    apply Nat.pow_le_pow_right
    · decide
    · omega

theorem units_pos {rank : Nat} (hpositive : 0 < rank) : 0 < units rank := by
  rcases exists_isScaled rank with
    ⟨shift, significand, hscaled, hsum, hunits⟩
  rw [hunits]
  apply Nat.mul_pos _ (Nat.two_pow_pos shift)
  by_contra hzero
  have hfull := hscaled.full
  rw [hsum, binade] at hpositive
  omega

theorem units_le_of_add_le (gap : Nat) (hgap : 0 < gap) (hsmall : gap ≤ 2 ^ 52)
    {rank : Nat} (hrank : rank + gap ≤ infinityRank) :
    units rank ≤ (2 ^ 53 - gap) * 2 ^ maxShift := by
  rcases exists_isScaled rank with
    ⟨shift, significand, hscaled, hsum, hunits⟩
  have hlt := hscaled.lt
  have hfull := hscaled.full
  rw [hsum, infinityRank, binade] at hrank
  rw [hunits]
  have hshift : shift ≤ maxShift := by
    rw [maxShift]
    omega
  rcases Nat.lt_or_eq_of_le hshift with hbelow | htop
  · have hpower := two_mul_step_le hbelow 1
    rw [Nat.one_mul, Nat.one_mul] at hpower
    have hmost : significand * 2 ^ shift ≤ 2 ^ 53 * 2 ^ shift :=
      Nat.mul_le_mul_right _ hlt.le
    have hleast : 2 ^ 52 * 2 ^ maxShift ≤ (2 ^ 53 - gap) * 2 ^ maxShift :=
      Nat.mul_le_mul_right _ (by omega)
    omega
  · rw [htop]
    apply Nat.mul_le_mul_right
    rw [maxShift] at htop
    omega

theorem units_le_maxUnits {rank : Nat} (hfinite : rank < infinityRank) :
    units rank ≤ maxUnits :=
  units_le_of_add_le 1 Nat.one_pos (by decide) hfinite

theorem rankOfQuotient_lt_infinityRank {num den : Nat} (hden : 0 < den)
    (hbound : num * 2 ^ unitPlaces ≤ maxUnits * den) :
    rankOfQuotient num den < infinityRank := by
  rcases exists_shift num den hden with ⟨shift, hlow, hhigh⟩
  rw [rankOfQuotient_eq hden hlow hhigh]
  apply Nat.lt_of_le_of_lt (Nat.min_le_left _ _)
  have hstep : 0 < den * 2 ^ shift := Nat.mul_pos hden (Nat.two_pow_pos shift)
  have hmax : maxUnits * den = (2 ^ 53 - 1) * (den * 2 ^ maxShift) := by
    rw [maxUnits]
    ring
  rw [hmax] at hbound
  have hshift : shift ≤ maxShift := by
    by_contra hlarge
    have hpower := two_mul_step_le (Nat.lt_of_not_le hlarge) den
    have hfull := hlow (by omega)
    omega
  rcases Nat.lt_or_eq_of_le hshift with hbelow | htop
  · have hnearest := nearestQuotient_le hstep hhigh.le
    rw [maxShift] at hbelow
    rw [infinityRank, binade]
    omega
  · rw [← htop] at hbound
    have hnearest := nearestQuotient_le hstep hbound
    rw [maxShift] at htop
    rw [infinityRank, binade]
    omega

theorem le_rankOfQuotient {rank num den : Nat} (hden : 0 < den)
    (hrank : rank ≤ infinityRank)
    (hbound : units rank * den ≤ num * 2 ^ unitPlaces) :
    rank ≤ rankOfQuotient num den := by
  rcases exists_isScaled rank with
    ⟨least, significand, hscaled, hsum, hunits⟩
  rcases exists_shift num den hden with ⟨shift, hlow, hhigh⟩
  have hstep : 0 < den * 2 ^ shift := Nat.mul_pos hden (Nat.two_pow_pos shift)
  rw [rankOfQuotient_eq hden hlow hhigh]
  apply Nat.le_min_of_le_of_le _ hrank
  have hproduct : units rank * den = significand * (den * 2 ^ least) := by
    rw [hunits]
    ring
  rw [hproduct] at hbound
  have hleast : least ≤ shift := by
    by_contra hmore
    have hfull := hscaled.full (by omega)
    have hpower := two_mul_step_le (Nat.lt_of_not_le hmore) den
    have hsignificand : 2 ^ 52 * (den * 2 ^ least) ≤
        significand * (den * 2 ^ least) := Nat.mul_le_mul_right _ hfull
    omega
  rcases Nat.lt_or_eq_of_le hleast with hless | hequal
  · have hfull := le_nearestQuotient hstep (hlow (by omega))
    have hlt := hscaled.lt
    rw [hsum, binade]
    omega
  · rw [hequal] at hbound
    have hnearest := le_nearestQuotient hstep hbound
    rw [hsum, hequal]
    omega

/-- Rounding adds less than one part in 2 to the power of 52 to a number that
is not too small. -/
theorem units_rankOfQuotient_le {n : Nat} (hpositive : 0 < n)
    (hfinite : rankOfQuotient n 1 < infinityRank) :
    units (rankOfQuotient n 1) * 2 ^ 52 ≤
      n * 2 ^ unitPlaces * (2 ^ 52 + 1) := by
  rcases exists_shift n 1 Nat.one_pos with ⟨shift, hlow, hhigh⟩
  have hrank := rankOfQuotient_eq Nat.one_pos hlow hhigh
  rw [Nat.one_mul] at hlow hhigh hrank
  have hstep : 0 < 2 ^ shift := Nat.two_pow_pos shift
  have hshift : 0 < shift := by
    by_contra hzero
    have hsmall : shift = 0 := by
      omega
    have hone : 2 ^ unitPlaces ≤ n * 2 ^ unitPlaces :=
      Nat.le_mul_of_pos_left _ hpositive
    have hlarge : 2 ^ 53 ≤ 2 ^ unitPlaces := by
      apply Nat.pow_le_pow_right
      · decide
      · decide
    rw [hsmall] at hhigh
    omega
  have hfull := hlow hshift
  have hleast := le_nearestQuotient hstep hfull
  have hmost := nearestQuotient_le hstep hhigh.le
  have hround := nearestQuotient_mul_le (n * 2 ^ unitPlaces) (2 ^ shift)
  rw [hrank] at hfinite
  rw [hrank, Nat.min_eq_left (by omega), units_of_significand hmost fun _ =>
    hleast]
  omega

end Double

end RecordFilter

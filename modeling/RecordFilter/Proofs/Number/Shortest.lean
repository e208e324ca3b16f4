import RecordFilter.Number.Decimal
import RecordFilter.Proofs.Number.Rounding

/-!
# Shortest decimals

The decimal that is chosen for a number is read back as the number, and it has
no more than seventeen digits. All that counts is the last place that is tried.
A decimal with that place differs from the number by half a step at most, and
the number is at least 10 to the power of 16 such steps.
-/

namespace RecordFilter

/-! ## Lengths -/

theorem decimalLength_le_iff {n length : Nat} (hlength : 0 < length) :
    decimalLength n ≤ length ↔ n < 10 ^ length :=
  Nat.length_toDigits_le_iff (by decide) hlength

theorem decimalLength_pos (n : Nat) : 0 < decimalLength n :=
  List.length_pos_iff.mpr Nat.toDigits_ne_nil

theorem decimalLength_eq {n length : Nat} (hlow : 10 ^ length ≤ n)
    (hhigh : n < 10 ^ (length + 1)) : decimalLength n = length + 1 := by
  have hupper := (decimalLength_le_iff (Nat.succ_pos length)).mpr hhigh
  have hlower : length < decimalLength n := by
    cases length with
    | zero => exact decimalLength_pos n
    | succ length =>
        by_contra hshort
        have hsmall := (decimalLength_le_iff (Nat.succ_pos length)).mp
          (Nat.le_of_not_lt hshort)
        omega
  omega

theorem lt_pow_decimalLength (n : Nat) : n < 10 ^ decimalLength n :=
  (decimalLength_le_iff (decimalLength_pos n)).mp (Nat.le_refl _)

theorem pow_decimalLength_le {n : Nat} (hn : 0 < n) :
    10 ^ (decimalLength n - 1) ≤ n := by
  cases hlength : decimalLength n - 1 with
  | zero => exact hn
  | succ length =>
      by_contra hsmall
      have hshort := (decimalLength_le_iff (Nat.succ_pos length)).mpr
        (Nat.lt_of_not_le hsmall)
      omega

theorem decimalLength_mul_pow {n : Nat} (hn : 0 < n) (zeros : Nat) :
    decimalLength (n * 10 ^ zeros) = decimalLength n + zeros := by
  have hlength := decimalLength_pos n
  have hlow : 10 ^ (decimalLength n - 1 + zeros) ≤ n * 10 ^ zeros := by
    rw [Nat.pow_add]
    exact Nat.mul_le_mul_right _ (pow_decimalLength_le hn)
  have hhigh : n * 10 ^ zeros < 10 ^ (decimalLength n - 1 + zeros + 1) := by
    have hsum : decimalLength n - 1 + zeros + 1 = decimalLength n + zeros := by
      omega
    rw [hsum, Nat.pow_add]
    exact Nat.mul_lt_mul_of_pos_right (lt_pow_decimalLength n)
      (Nat.pow_pos (by decide))
  rw [decimalLength_eq hlow hhigh]
  omega

theorem powerOfTen_eq (zeros : Nat) : powerOfTen zeros = 10 ^ zeros := rfl

namespace Decimal

/-! ## Ranks of decimals -/

/-- The first digit is neither so far from the point that the number is taken
for infinity or for zero at once. -/
def IsModerate (decimal : Decimal) : Prop :=
  decimal.digits ≠ 0 ∧
    -400 ≤ decimalLength decimal.digits + decimal.exponent ∧
    decimalLength decimal.digits + decimal.exponent ≤ 400

theorem rank_of_isModerate {decimal : Decimal}
    (hmoderate : decimal.IsModerate) :
    decimal.rank =
      Double.rankOfQuotient (decimal.digits * 10 ^ decimal.exponent.toNat)
        (10 ^ (-decimal.exponent).toNat) := by
  rcases hmoderate with ⟨hsome, hlow, hhigh⟩
  simp only [rank, powerOfTen_eq]
  rw [if_neg hsome, if_neg (by omega), if_neg (by omega)]

theorem digits_ne_zero_of_rank {decimal : Decimal} (hrank : 0 < decimal.rank) :
    decimal.digits ≠ 0 := by
  intro hzero
  simp [rank, hzero] at hrank

/-- Zeros at the end of the digits may as well be counted by the exponent. -/
theorem rank_mul_pow (digits zeros : Nat) (exponent : Int) :
    (⟨digits * 10 ^ zeros, exponent⟩ : Decimal).rank =
      (⟨digits, exponent + zeros⟩ : Decimal).rank := by
  by_cases hzero : digits = 0
  · simp [rank, hzero]
  · have hmore : digits * 10 ^ zeros ≠ 0 := by
      simp [hzero]
    have hlength :
        ((decimalLength digits + zeros : Nat) : Int) + exponent =
          decimalLength digits + (exponent + zeros) := by
      omega
    have hten : ∀ count, 0 < 10 ^ count := fun count =>
      Nat.pow_pos (by decide)
    have hexponents : zeros + exponent.toNat + (-(exponent + zeros)).toNat =
        (exponent + zeros).toNat + (-exponent).toNat := by
      omega
    have hquotient : Double.rankOfQuotient
          (digits * 10 ^ zeros * 10 ^ exponent.toNat)
          (10 ^ (-exponent).toNat) =
        Double.rankOfQuotient (digits * 10 ^ (exponent + zeros).toNat)
          (10 ^ (-(exponent + zeros)).toNat) := by
      apply Double.rankOfQuotient_congr (hten _) (hten _)
      calc
        _ = digits * 10 ^ (zeros + exponent.toNat +
            (-(exponent + zeros)).toNat) := by ring
        _ = digits * 10 ^ ((exponent + zeros).toNat + (-exponent).toNat) := by
          rw [hexponents]
        _ = _ := by ring
    simp only [rank, powerOfTen_eq, hzero, hmore, if_false, hquotient,
      decimalLength_mul_pow (Nat.pos_of_ne_zero hzero), hlength]

theorem exists_stripped (digits : Nat) (exponent : Int) :
    ∃ zeros : Nat, digits = (stripped digits exponent).digits * 10 ^ zeros ∧
      (stripped digits exponent).exponent = exponent + zeros := by
  induction digits, exponent using stripped.induct with
  | case1 digits exponent hzero ih =>
      rcases ih with ⟨zeros, hdigits, hexponent⟩
      rw [stripped, dif_pos hzero]
      refine ⟨zeros + 1, ?_, ?_⟩
      · rw [Nat.pow_succ, ← Nat.mul_assoc, ← hdigits]
        omega
      · rw [hexponent]
        omega
  | case2 digits exponent hother =>
      rw [stripped, dif_neg hother]
      exact ⟨0, by simp, by simp⟩

theorem rank_stripped (digits : Nat) (exponent : Int) :
    (stripped digits exponent).rank = (⟨digits, exponent⟩ : Decimal).rank := by
  rcases exists_stripped digits exponent with ⟨zeros, hdigits, hexponent⟩
  have hmoved := rank_mul_pow (stripped digits exponent).digits zeros exponent
  rw [← hdigits, ← hexponent] at hmoved
  exact hmoved.symm

theorem digits_stripped_le (digits : Nat) (exponent : Int) :
    (stripped digits exponent).digits ≤ digits := by
  rcases exists_stripped digits exponent with ⟨zeros, hdigits, -⟩
  have hpower : 0 < 10 ^ zeros := Nat.pow_pos (by decide)
  calc
    _ ≤ (stripped digits exponent).digits * 10 ^ zeros :=
      Nat.le_mul_of_pos_right _ hpower
    _ = digits := hdigits.symm

/-! ## The place of the first digit -/

theorem firstPlace_spec {num den : Nat} (hnum : 0 < num) (hden : 0 < den) :
    10 ^ (firstPlace num den).toNat * den ≤
        num * 10 ^ (-firstPlace num den).toNat ∧
      num * 10 ^ (-firstPlace num den).toNat <
        10 ^ ((firstPlace num den).toNat + 1) * den := by
  unfold firstPlace
  by_cases hwhole : den ≤ num
  · have hquotient : 0 < num / den := Nat.div_pos hwhole hden
    have hlength := decimalLength_pos (num / den)
    have hlow := pow_decimalLength_le hquotient
    have hhigh := lt_pow_decimalLength (num / den)
    have hplace : ((decimalLength (num / den) : Int) - 1).toNat =
        decimalLength (num / den) - 1 := by
      omega
    have hnegative : (-((decimalLength (num / den) : Int) - 1)).toNat = 0 := by
      omega
    rw [if_pos hwhole, hplace, hnegative, Nat.pow_zero, Nat.mul_one,
      Nat.sub_add_cancel hlength]
    exact ⟨(Nat.le_div_iff_mul_le hden).mp hlow,
      (Nat.div_lt_iff_lt_mul hden).mp hhigh⟩
  · have hquotient : 0 < (den - 1) / num := Nat.div_pos (by omega) hnum
    have hlength := decimalLength_pos ((den - 1) / num)
    have hlow := (Nat.le_div_iff_mul_le hnum).mp
      (pow_decimalLength_le hquotient)
    have hhigh := (Nat.div_lt_iff_lt_mul hnum).mp
      (lt_pow_decimalLength ((den - 1) / num))
    have hplace : (-(decimalLength ((den - 1) / num) : Int)).toNat = 0 := by
      omega
    have hnegative : (- -(decimalLength ((den - 1) / num) : Int)).toNat =
        decimalLength ((den - 1) / num) - 1 + 1 := by
      omega
    rw [if_neg hwhole, hplace, hnegative, Nat.pow_zero, Nat.one_mul,
      Nat.zero_add, Nat.pow_one]
    rw [Nat.sub_add_cancel hlength]
    constructor
    · rw [Nat.mul_comm num]
      omega
    · calc
        _ = num * 10 ^ (decimalLength ((den - 1) / num) - 1 + 1) := by
          rw [Nat.sub_add_cancel hlength]
        _ = 10 ^ (decimalLength ((den - 1) / num) - 1) * num * 10 := by ring
        _ < 10 * den := by omega

/-- At a place so far behind the first digit, a quotient has so many digits. -/
theorem firstPlace_sub_spec {num den : Nat} (hnum : 0 < num) (hden : 0 < den)
    (further : Nat) {place : Int}
    (hplace : place = firstPlace num den - further) :
    10 ^ further * (den * 10 ^ place.toNat) ≤ num * 10 ^ (-place).toNat ∧
      num * 10 ^ (-place).toNat <
        10 ^ (further + 1) * (den * 10 ^ place.toNat) := by
  rcases firstPlace_spec hnum hden with ⟨hlow, hhigh⟩
  have hten : ∀ count, 0 < 10 ^ count := fun count => Nat.pow_pos (by decide)
  have hexponents : further + place.toNat + (-firstPlace num den).toNat =
      (firstPlace num den).toNat + (-place).toNat := by
    omega
  have hscale : ∀ factor, factor * 10 ^ further * (den * 10 ^ place.toNat) *
        10 ^ (-firstPlace num den).toNat =
      factor * 10 ^ (firstPlace num den).toNat * den *
        10 ^ (-place).toNat := by
    intro factor
    calc
      _ = factor * den *
          10 ^ (further + place.toNat + (-firstPlace num den).toNat) := by ring
      _ = factor * den *
          10 ^ ((firstPlace num den).toNat + (-place).toNat) := by
        rw [hexponents]
      _ = _ := by ring
  constructor
  · apply Nat.le_of_mul_le_mul_right _ (hten (-firstPlace num den).toNat)
    calc
      _ = 10 ^ (firstPlace num den).toNat * den * 10 ^ (-place).toNat := by
        have hone := hscale 1
        rw [Nat.one_mul, Nat.one_mul] at hone
        exact hone
      _ ≤ num * 10 ^ (-firstPlace num den).toNat * 10 ^ (-place).toNat :=
        Nat.mul_le_mul_right _ hlow
      _ = _ := by ring
  · apply Nat.lt_of_mul_lt_mul_right (a := 10 ^ (-firstPlace num den).toNat)
    calc
      _ = num * 10 ^ (-firstPlace num den).toNat * 10 ^ (-place).toNat := by
        ring
      _ < 10 ^ ((firstPlace num den).toNat + 1) * den *
          10 ^ (-place).toNat := Nat.mul_lt_mul_of_pos_right hhigh (hten _)
      _ = 10 * 10 ^ (firstPlace num den).toNat * den *
          10 ^ (-place).toNat := by ring
      _ = 10 * 10 ^ further * (den * 10 ^ place.toNat) *
          10 ^ (-firstPlace num den).toNat := (hscale 10).symm
      _ = _ := by ring

/-- No finite number has more than 309 digits, nor more than 323 zeros behind
the point. -/
theorem firstPlace_units {rank : Nat} (hpositive : 0 < rank)
    (hfinite : rank < Double.infinityRank) :
    -324 ≤ firstPlace (Double.units rank) (2 ^ Double.unitPlaces) ∧
      firstPlace (Double.units rank) (2 ^ Double.unitPlaces) ≤ 308 := by
  have hnum := Double.units_pos hpositive
  have hden : 0 < 2 ^ Double.unitPlaces := Nat.two_pow_pos _
  have hmax := Double.units_le_maxUnits hfinite
  rcases firstPlace_spec hnum hden with ⟨hlow, hhigh⟩
  constructor
  · by_contra hbelow
    have hplace :
        (firstPlace (Double.units rank) (2 ^ Double.unitPlaces)).toNat = 0 := by
      omega
    have hpower : 10 ^ 325 ≤ 10 ^
        (-firstPlace (Double.units rank) (2 ^ Double.unitPlaces)).toNat := by
      apply Nat.pow_le_pow_right
      · decide
      · omega
    have hsmall : 10 * 2 ^ Double.unitPlaces < 10 ^ 325 := by
      decide +kernel
    rw [hplace, Nat.zero_add, pow_one (10 : Nat)] at hhigh
    have hleast := Nat.le_mul_of_pos_left (10 ^
      (-firstPlace (Double.units rank) (2 ^ Double.unitPlaces)).toNat) hnum
    omega
  · by_contra hbeyond
    have hplace :
        (-firstPlace (Double.units rank) (2 ^ Double.unitPlaces)).toNat =
          0 := by
      omega
    have hpower : 10 ^ 309 ≤ 10 ^
        (firstPlace (Double.units rank) (2 ^ Double.unitPlaces)).toNat := by
      apply Nat.pow_le_pow_right
      · decide
      · omega
    have hlarge : Double.maxUnits < 10 ^ 309 * 2 ^ Double.unitPlaces := by
      decide +kernel
    rw [hplace, Nat.pow_zero, Nat.mul_one] at hlow
    have hproduct := Nat.mul_le_mul_right (2 ^ Double.unitPlaces) hpower
    omega

/-! ## Decimals at a place -/

/-- Of the two decimals that enclose a number at the seventeenth digit, one is
near enough to be read back. -/
theorem rank_of_half_step {rank digits : Nat} {place : Int}
    (hfinite : rank < Double.infinityRank)
    (hmoderate : IsModerate ⟨digits, place⟩)
    (hstep : 10 ^ 16 * (2 ^ Double.unitPlaces * 10 ^ place.toNat) ≤
      Double.units rank * 10 ^ (-place).toNat)
    (hlow : 2 * (Double.units rank * 10 ^ (-place).toNat) ≤
      2 * (digits * (2 ^ Double.unitPlaces * 10 ^ place.toNat)) +
        2 ^ Double.unitPlaces * 10 ^ place.toNat)
    (hhigh : 2 * (digits * (2 ^ Double.unitPlaces * 10 ^ place.toNat)) ≤
      2 * (Double.units rank * 10 ^ (-place).toNat) +
        2 ^ Double.unitPlaces * 10 ^ place.toNat) :
    (⟨digits, place⟩ : Decimal).rank = rank := by
  have hunit : 0 < 2 ^ Double.unitPlaces * 10 ^ place.toNat :=
    Nat.mul_pos (Nat.two_pow_pos _) (Nat.pow_pos (by decide))
  have hproduct : digits * 10 ^ place.toNat * 2 ^ Double.unitPlaces =
      digits * (2 ^ Double.unitPlaces * 10 ^ place.toNat) := by
    ring
  rw [rank_of_isModerate hmoderate]
  show Double.rankOfQuotient (digits * 10 ^ place.toNat)
    (10 ^ (-place).toNat) = rank
  apply Double.rankOfQuotient_of_near hfinite.le
  · rw [hproduct]
    omega
  · rw [hproduct]
    omega

theorem of_pick_eq_some {α : Type} {below above nearer : Bool}
    {first second found : α}
    (hpick : (if below && (nearer || !above) then some first
      else if above then some second else none) = some found) :
    below = true ∧ first = found ∨ above = true ∧ second = found := by
  cases below <;> cases above <;> cases nearer <;> simp_all

theorem pick_isSome {α : Type} {below above nearer : Bool} {first second : α}
    (hits : below = true ∨ above = true) :
    (if below && (nearer || !above) then some first
      else if above then some second else none).isSome = true := by
  cases below <;> cases above <;> cases nearer <;> simp_all

theorem exists_of_atPlace? {tie : Tie} {rank num den : Nat} {place : Int}
    {decimal : Decimal}
    (hplace : atPlace? tie rank num den place = some decimal) :
    ∃ digits, stripped digits place = decimal ∧
      (⟨digits, place⟩ : Decimal).rank = rank ∧
      digits ≤ num * 10 ^ (-place).toNat / (den * 10 ^ place.toNat) + 1 := by
  rcases of_pick_eq_some hplace with ⟨hhits, hfirst⟩ | ⟨hhits, hsecond⟩
  · exact ⟨_, hfirst, beq_iff_eq.mp hhits, Nat.le_succ _⟩
  · exact ⟨_, hsecond, beq_iff_eq.mp hhits, Nat.le_refl _⟩

theorem atPlace?_isSome {rank num den below : Nat} {place : Int}
    (hbelow : num * 10 ^ (-place).toNat / (den * 10 ^ place.toNat) = below)
    (hits : (⟨below, place⟩ : Decimal).rank = rank ∨
      (⟨below + 1, place⟩ : Decimal).rank = rank) (tie : Tie) :
    (atPlace? tie rank num den place).isSome = true := by
  subst hbelow
  apply pick_isSome
  rw [beq_iff_eq, beq_iff_eq]
  exact hits

theorem atPlace?_sixteen_isSome {rank : Nat} (hpositive : 0 < rank)
    (hfinite : rank < Double.infinityRank) (tie : Tie) :
    (atPlace? tie rank (Double.units rank) (2 ^ Double.unitPlaces)
      (firstPlace (Double.units rank) (2 ^ Double.unitPlaces) - 16)).isSome =
        true := by
  have hnum := Double.units_pos hpositive
  have hden : 0 < 2 ^ Double.unitPlaces := Nat.two_pow_pos _
  have hrange := firstPlace_units hpositive hfinite
  generalize hplace :
    firstPlace (Double.units rank) (2 ^ Double.unitPlaces) - 16 = place
  rcases firstPlace_sub_spec hnum hden 16 hplace.symm with ⟨hlow, hhigh⟩
  have hunit : 0 < 2 ^ Double.unitPlaces * 10 ^ place.toNat :=
    Nat.mul_pos hden (Nat.pow_pos (by decide))
  generalize hbelow : Double.units rank * 10 ^ (-place).toNat /
    (2 ^ Double.unitPlaces * 10 ^ place.toNat) = below
  have hleast : 10 ^ 16 ≤ below := by
    rw [← hbelow]
    exact (Nat.le_div_iff_mul_le hunit).mpr hlow
  have hmost : below < 10 ^ 17 := by
    rw [← hbelow]
    exact (Nat.div_lt_iff_lt_mul hunit).mpr hhigh
  have hmoderate : ∀ digits, 10 ^ 16 ≤ digits → digits ≤ 10 ^ 17 →
      IsModerate ⟨digits, place⟩ := by
    intro digits hfew hmany
    have hlength := decimalLength_pos digits
    have hshort : decimalLength digits ≤ 18 := by
      rw [decimalLength_le_iff (by decide)]
      omega
    refine ⟨?_, ?_, ?_⟩
    · show digits ≠ 0
      omega
    · show -400 ≤ (decimalLength digits : Int) + place
      omega
    · show (decimalLength digits : Int) + place ≤ 400
      omega
  have hsplit := Nat.div_add_mod (Double.units rank * 10 ^ (-place).toNat)
    (2 ^ Double.unitPlaces * 10 ^ place.toNat)
  have hremainder := Nat.mod_lt (Double.units rank * 10 ^ (-place).toNat) hunit
  rw [hbelow, Nat.mul_comm] at hsplit
  by_cases hnearer : 2 * (Double.units rank * 10 ^ (-place).toNat) ≤
      2 * (below * (2 ^ Double.unitPlaces * 10 ^ place.toNat)) +
        2 ^ Double.unitPlaces * 10 ^ place.toNat
  · apply atPlace?_isSome hbelow
    left
    apply rank_of_half_step hfinite (hmoderate below hleast hmost.le) hlow
    · exact hnearer
    · omega
  · apply atPlace?_isSome hbelow
    right
    apply rank_of_half_step hfinite
      (hmoderate (below + 1) (by omega) hmost) hlow
    · rw [Nat.add_mul, Nat.one_mul]
      omega
    · rw [Nat.add_mul, Nat.one_mul]
      omega

/-! ## The shortest decimal -/

theorem exists_shortest {rank : Nat} (hpositive : 0 < rank)
    (hfinite : rank < Double.infinityRank) (tie : Tie) :
    ∃ digits place, shortest tie rank = stripped digits place ∧
      (⟨digits, place⟩ : Decimal).rank = rank ∧ digits ≤ 10 ^ 17 := by
  have hnum := Double.units_pos hpositive
  have hden : 0 < 2 ^ Double.unitPlaces := Nat.two_pow_pos _
  have hden' : 1 <<< Double.unitPlaces = 2 ^ Double.unitPlaces := by
    rw [Nat.shiftLeft_eq, Nat.one_mul]
  simp only [shortest, hden']
  generalize hfound : (List.range maxDigits).findSome? (fun further : Nat =>
    atPlace? tie rank (Double.units rank) (2 ^ Double.unitPlaces)
      (firstPlace (Double.units rank) (2 ^ Double.unitPlaces) - further)) =
        found
  cases found with
  | none =>
      rw [List.findSome?_eq_none_iff] at hfound
      have hnone := hfound 16 (List.mem_range.mpr (by decide))
      have hsome := atPlace?_sixteen_isSome hpositive hfinite tie
      rw [Nat.cast_ofNat] at hnone
      rw [hnone] at hsome
      exact absurd hsome Bool.false_ne_true
  | some decimal =>
      rcases List.exists_of_findSome?_eq_some hfound with
        ⟨further, hfurther, hdecimal⟩
      rcases exists_of_atPlace? hdecimal with
        ⟨digits, hstripped, hrank, hdigits⟩
      refine ⟨digits, _, hstripped.symm, hrank, ?_⟩
      rcases firstPlace_sub_spec hnum hden further rfl with ⟨-, hhigh⟩
      have hunit := Nat.mul_pos hden
        (Nat.pow_pos (n := (firstPlace (Double.units rank)
          (2 ^ Double.unitPlaces) - further).toNat) (by decide : 0 < 10))
      have hmost := (Nat.div_lt_iff_lt_mul hunit).mpr hhigh
      have hpower : 10 ^ (further + 1) ≤ 10 ^ 17 := by
        apply Nat.pow_le_pow_right
        · decide
        · have hrange := List.mem_range.mp hfurther
          rw [maxDigits] at hrange
          omega
      omega

/-- The shortest decimal of a number is read back as the number. -/
theorem rank_shortest {rank : Nat} (hpositive : 0 < rank)
    (hfinite : rank < Double.infinityRank) (tie : Tie) :
    (shortest tie rank).rank = rank := by
  rcases exists_shortest hpositive hfinite tie with
    ⟨digits, place, hshortest, hrank, -⟩
  rw [hshortest, rank_stripped, hrank]

theorem digits_shortest_pos {rank : Nat} (hpositive : 0 < rank)
    (hfinite : rank < Double.infinityRank) (tie : Tie) :
    0 < (shortest tie rank).digits := by
  apply Nat.pos_of_ne_zero
  apply digits_ne_zero_of_rank
  rw [rank_shortest hpositive hfinite]
  exact hpositive

theorem digits_shortest_le {rank : Nat} (hpositive : 0 < rank)
    (hfinite : rank < Double.infinityRank) (tie : Tie) :
    (shortest tie rank).digits ≤ 10 ^ 17 := by
  rcases exists_shortest hpositive hfinite tie with
    ⟨digits, place, hshortest, -, hdigits⟩
  rw [hshortest]
  exact (digits_stripped_le digits place).trans hdigits

end Decimal

end RecordFilter

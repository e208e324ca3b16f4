import RecordFilter.Json.Value
import RecordFilter.Number.Decimal
import RecordFilter.Number.Integer

/-!
# Numbers in JSON documents

Integers that fit 64 bits are kept as integers. Any other number is rounded to
double precision in two steps: as many leading digits as fit 64 bits are rounded
first, and then multiplied with or divided by a power of ten. The result need
not be the nearest number to the decimal, but it is the same for every reader
that proceeds in this way.
-/

namespace RecordFilter

namespace Double

/-- The rank of the number nearest to a power of ten. -/
def powerRank (exponent : Nat) : Nat := (⟨1, exponent⟩ : Decimal).rank

/-- The rank of the product of two numbers. -/
def productRank (left right : Nat) : Nat :=
  rankOfQuotient (units left * units right) (1 <<< (2 * unitPlaces))

/-- The rank of the quotient of two numbers. -/
def quotientRank (left right : Nat) : Nat :=
  rankOfQuotient (units left) (units right)

/-- The greatest exponent for which a power of ten is a finite number. -/
def maxPower : Nat := 308

/-- A number of a rank times a power of ten, if that is finite. Large negative
powers are divided off in steps until the rest is zero. -/
def scaled? (rank : Nat) (exponent : Int) : Option Nat :=
  if exponent.natAbs ≤ maxPower then
    if 0 ≤ exponent then
      let product := productRank rank (powerRank exponent.natAbs)
      if product < infinityRank then some product else none
    else some (quotientRank rank (powerRank exponent.natAbs))
  else if rank = 0 then some 0
  else if 0 ≤ exponent then none
  else scaled? (quotientRank rank (powerRank maxPower)) (exponent + maxPower)
termination_by exponent.natAbs
decreasing_by simp only [maxPower] at *; omega

end Double

namespace JsonNumeral

/-- The parts of a number as written. -/
structure Parts where
  negative : Bool
  whole : List Char
  /-- The digits behind the point, if there is one. -/
  fraction : Option (List Char)
  exponent : Option Int

/-- Splits a number into its parts. Digits must stand before and behind a point,
and no zero may stand before other digits. -/
def parts? (text : List Char) : Option Parts := do
  let (negative, unsigned) := match text with
    | '-' :: unsigned => (true, unsigned)
    | unsigned => (false, unsigned)
  let whole := unsigned.takeWhile Char.isDigit
  if whole = [] ∨ (whole.head? = some '0' ∧ whole ≠ ['0']) then none
  let (fraction, rest) := match unsigned.dropWhile Char.isDigit with
    | '.' :: behind =>
      (some (behind.takeWhile Char.isDigit), behind.dropWhile Char.isDigit)
    | rest => (none, rest)
  if fraction = some [] then none
  match rest with
  | [] => some ⟨negative, whole, fraction, none⟩
  | c :: exponent =>
    if c = 'e' ∨ c = 'E' then
      (unboundedSigned? exponent).map fun exponent =>
        ⟨negative, whole, fraction, some exponent⟩
    else none

/-- Appends digits to a number as long as it fits 64 bits; gives the number and
the digits left over. -/
def accumulate (value : Nat) : List Char → Nat × List Char
  | [] => (value, [])
  | c :: rest =>
    let next := Nat.ofDigitChars 10 [c] value
    if next ≤ maxNat64 then accumulate next rest else (value, c :: rest)

/-- An integer that fits 64 bits. A negative zero is not an integer. -/
def integer? (negative : Bool) (value : Nat) : Option Int :=
  if negative then
    (if value = 0 ∨ maxInt64 + 1 < value then none else some (-(value : Int)))
  else some value

/-- The value of a number by its parts, if it is finite. -/
def ofParts? (parts : Parts) : Option JsonNumeral :=
  let (value, unread) := accumulate 0 parts.whole
  let fraction := parts.fraction.getD []
  let (significand, dropped) := accumulate value fraction
  let exponent : Int :=
    unread.length - ((fraction.length - dropped.length : Nat) : Int) +
      parts.exponent.getD 0
  let double : Option JsonNumeral :=
    (Double.scaled? (Double.rankOfQuotient significand 1) exponent).map
      fun rank =>
        .double (Double.ofRank parts.negative rank)
  if parts.fraction = none ∧ parts.exponent = none ∧ unread = [] then
    match integer? parts.negative value with
    | some value => some (.integer value)
    | none => double
  else double

def read? (text : List Char) : Option JsonNumeral :=
  (parts? text).bind ofParts?

end JsonNumeral

end RecordFilter

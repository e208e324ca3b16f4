import RecordFilter.Number.Integer
import RecordFilter.Number.Rounding

/-!
# Decimal numbers and double precision

A decimal is a natural number times a power of ten. Reading a decimal rounds it
to the nearest number of double precision. Writing a number asks for the
shortest decimal that is read back as the number, and of the shortest ones for
the nearest.
-/

namespace RecordFilter

/-- The decimal `digits * 10 ^ exponent`. -/
structure Decimal where
  digits : Nat
  exponent : Int
  deriving DecidableEq

/-- The number of decimal digits of a natural number; zero has one. -/
def decimalLength (n : Nat) : Nat := (Nat.toDigits 10 n).length

/-- Which of two decimals is taken that are equally near. -/
inductive Tie where
  | up
  | toEven
  deriving DecidableEq

namespace Decimal

/-- The rank of the nearest number of double precision. Decimals that are surely
beyond the greatest number or below half of the least one are settled by the
place of their first digit. -/
def rank (decimal : Decimal) : Nat :=
  let firstPlace := decimalLength decimal.digits + decimal.exponent
  if decimal.digits = 0 then 0
  else if 400 < firstPlace then Double.infinityRank
  else if firstPlace < -400 then 0
  else
    Double.rankOfQuotient (decimal.digits * powerOfTen decimal.exponent.toNat)
      (powerOfTen (-decimal.exponent).toNat)

/-- The same decimal without zeros at the end of its digits. -/
def stripped (digits : Nat) (exponent : Int) : Decimal :=
  if h : digits ≠ 0 ∧ digits % 10 = 0 then stripped (digits / 10) (exponent + 1)
  else ⟨digits, exponent⟩
termination_by digits
decreasing_by omega

/-- The place of the first digit of a positive quotient: the greatest power of
ten that does not exceed it. -/
def firstPlace (num den : Nat) : Int :=
  if den ≤ num then (decimalLength (num / den) : Int) - 1
  else -(decimalLength ((den - 1) / num) : Int)

/-- The decimals with a last place that enclose a quotient, of which only those
count that are read back as a rank, and of two the nearer. -/
def atPlace? (tie : Tie) (rank num den : Nat) (place : Int) : Option Decimal :=
  let num := num * powerOfTen (-place).toNat
  let den := den * powerOfTen place.toNat
  let below := num / den
  let remainder := num % den
  let belowHits := (⟨below, place⟩ : Decimal).rank == rank
  let aboveHits := (⟨below + 1, place⟩ : Decimal).rank == rank
  let belowNearer :=
    2 * remainder < den ||
      (2 * remainder == den && tie == .toEven && below % 2 == 0)
  if belowHits && (belowNearer || !aboveHits) then some (stripped below place)
  else if aboveHits then some (stripped (below + 1) place)
  else none

/-- The most digits that a decimal needs to tell one number of double precision
from the others. -/
def maxDigits : Nat := 17

/-- The shortest decimal that is read back as the finite positive number of a
rank. -/
def shortest (tie : Tie) (rank : Nat) : Decimal :=
  let num := Double.units rank
  let den := 1 <<< Double.unitPlaces
  let first := firstPlace num den
  match (List.range maxDigits).findSome? fun (further : Nat) =>
      atPlace? tie rank num den (first - further) with
  | some decimal => decimal
  | none => stripped (num * Nat.pow 5 Double.unitPlaces) (-Double.unitPlaces)

end Decimal

end RecordFilter

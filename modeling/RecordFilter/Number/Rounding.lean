import RecordFilter.Number.Double

/-!
# Rounding to double precision

Exact quotients of natural numbers are rounded to the nearest number of double
precision, and a tie goes to the even neighbour.
-/

namespace RecordFilter

/-- A quotient rounded to the nearest natural number, a tie to the even one. -/
def nearestQuotient (num den : Nat) : Nat :=
  let quotient := num / den
  let remainder := num % den
  if 2 * remainder < den then quotient
  else if den < 2 * remainder then quotient + 1
  else if quotient % 2 = 0 then quotient
  else quotient + 1

namespace Double

/-- The rank of the number nearest to a quotient. Among numbers of 53
significant bits the step from one to the next is one unit that has been doubled
`shift` times, and each doubling takes a whole binade of ranks. -/
def rankOfQuotient (num den : Nat) : Nat :=
  let scaled := num <<< unitPlaces
  let shift := (scaled / den).log2 - 52
  min (shift * binade + nearestQuotient scaled (den <<< shift)) infinityRank

/-- The nearest number to an integer. -/
def ofInt (n : Int) : Double :=
  ofRank (n < 0) (rankOfQuotient n.natAbs 1)

end Double

end RecordFilter

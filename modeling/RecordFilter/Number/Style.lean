import RecordFilter.Number.Decimal

/-!
# How numbers of double precision are written

The digits of a number are the shortest that are read back as it. Where they
stand is a matter of style: positionally, or with an exponent when the first
digit is far from the point.
-/

namespace RecordFilter

structure NumberStyle where
  /-- For which places of the first digit a number is written positionally. -/
  positional : Int → Bool
  /-- Whether a whole number gets a zero behind the point. -/
  pointZero : Bool
  /-- Whether a positive exponent gets a sign. -/
  exponentSign : Bool
  tie : Tie

namespace NumberStyle

def zeros (count : Nat) : List Char := List.replicate count '0'

/-- Digits with a point, and zeros as far as they are needed to reach the
point. -/
def placePoint (style : NumberStyle) (digits : List Char) (exponent : Int) :
    List Char :=
  if 0 ≤ exponent then
    digits ++ zeros exponent.toNat ++
      (if style.pointZero then ['.', '0'] else [])
  else
    let fraction := exponent.natAbs
    if fraction < digits.length then
      digits.take (digits.length - fraction) ++
        '.' :: digits.drop (digits.length - fraction)
    else '0' :: '.' :: (zeros (fraction - digits.length) ++ digits)

/-- One digit before the point, and the place of that digit as exponent. -/
def scientific (style : NumberStyle) (digits : List Char) (firstPlace : Int) :
    List Char :=
  let tail := digits.drop 1
  digits.take 1 ++ (if tail.isEmpty then [] else '.' :: tail) ++ 'e' ::
    ((if firstPlace < 0 then ['-']
        else if style.exponentSign then ['+'] else []) ++
      Nat.toDigits 10 firstPlace.natAbs)

def decimalText (style : NumberStyle) (decimal : Decimal) : List Char :=
  let digits := Nat.toDigits 10 decimal.digits
  let firstPlace := decimal.exponent + digits.length - 1
  if style.positional firstPlace then style.placePoint digits decimal.exponent
  else style.scientific digits firstPlace

def magnitudeText (style : NumberStyle) (rank : Nat) : String :=
  if rank = 0 then String.ofList (style.placePoint ['0'] 0)
  else if rank = Double.infinityRank then "inf"
  else String.ofList (style.decimalText (Decimal.shortest style.tie rank))

/-- The text of any number; what is not finite is named by a word. -/
def text (style : NumberStyle) : Double → String
  | .nan => "NaN"
  | .number negative rank =>
    (if negative then "-" else "") ++ style.magnitudeText rank

end NumberStyle

end RecordFilter

import RecordFilter.Number.Decimal
import RecordFilter.Number.Integer

/-!
# Literals of double precision

A literal is a decimal with an optional sign, fraction and exponent, in which
digits may be missing on one side of the point, or one of the words for infinity
and NaN in any case.
-/

namespace RecordFilter

inductive DoubleFault where
  | empty
  | invalid
  deriving DecidableEq

def DoubleFault.message : DoubleFault → String
  | .empty => "cannot parse float from empty string"
  | .invalid => "invalid float literal"

namespace Double

/-- The exponent of a decimal: nothing, or `e` and an integer. -/
def readExponent? : List Char → Option Int
  | [] => some 0
  | c :: rest => if c = 'e' ∨ c = 'E' then unboundedSigned? rest else none

/-- Digits, a fraction and an exponent, with at least one digit before the
exponent. -/
def readDecimal? (text : List Char) : Option Decimal :=
  let whole := text.takeWhile Char.isDigit
  let afterWhole := text.dropWhile Char.isDigit
  let (fraction, rest) := match afterWhole with
    | '.' :: afterPoint =>
      (afterPoint.takeWhile Char.isDigit, afterPoint.dropWhile Char.isDigit)
    | other => ([], other)
  if whole = [] ∧ fraction = [] then none
  else
    (readExponent? rest).map fun exponent =>
      ⟨Nat.ofDigitChars 10 (whole ++ fraction) 0, exponent - fraction.length⟩

/-- A literal without its sign. -/
def readMagnitude? (negative : Bool) (text : List Char) : Option Double :=
  let word := String.ofList (text.map Char.toLower)
  if word = "inf" ∨ word = "infinity" then some (infinity negative)
  else if word = "nan" then some .nan
  else (readDecimal? text).map fun decimal => ofRank negative decimal.rank

def readSign? : List Char → Option Double
  | '-' :: rest => readMagnitude? true rest
  | '+' :: rest => readMagnitude? false rest
  | text => readMagnitude? false text

def read (text : List Char) : Except DoubleFault Double :=
  if text = [] then .error .empty
  else
    match readSign? text with
    | some value => .ok value
    | none => .error .invalid

end Double

end RecordFilter

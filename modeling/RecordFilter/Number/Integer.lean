/-!
# Integers in decimal

Integers are read digit by digit, and the first character that is no digit or
that leads beyond the range of the type decides which fault is reported.
-/

namespace RecordFilter

inductive IntegerFault where
  | empty
  | invalidDigit
  | tooLarge
  | tooSmall
  deriving DecidableEq

def IntegerFault.message : IntegerFault → String
  | .empty => "cannot parse integer from empty string"
  | .invalidDigit => "invalid digit found in string"
  | .tooLarge => "number too large to fit in target type"
  | .tooSmall => "number too small to fit in target type"

/-- The greatest number of 32 bits, one of which is the sign. -/
def maxInt32 : Nat := 0x7fffffff

/-- The greatest number of 64 bits, one of which is the sign. -/
def maxInt64 : Nat := 0x7fffffffffffffff

/-- The greatest number of 64 bits without a sign. -/
def maxNat64 : Nat := 0xffffffffffffffff

/-- Whether an integer is one of those with a sign whose greatest one is
given. -/
def fitsSigned (greatest : Nat) (value : Int) : Bool :=
  -(greatest : Int) - 1 ≤ value && value ≤ greatest

/-- One with so many zeros. -/
def powerOfTen (zeros : Nat) : Nat := Nat.pow 10 zeros

/-- The number that decimal digits spell, provided that no initial part of it
exceeds a bound. -/
def readBounded (bound : Nat) (beyond : IntegerFault) (digits : List Char) :
    Except IntegerFault Nat :=
  digits.foldlM (fun value c =>
    if c.isDigit then
      let next := Nat.ofDigitChars 10 [c] value
      if next ≤ bound then .ok next else .error beyond
    else .error .invalidDigit) 0

/-- A number below a bound, with or without a plus sign. -/
def readNatural (bound : Nat) : List Char → Except IntegerFault Nat
  | [] => .error .empty
  | c :: rest =>
    if c = '+' then
      if rest.isEmpty then .error .invalidDigit
      else readBounded bound .tooLarge rest
    else readBounded bound .tooLarge (c :: rest)

/-- A number from `-bound - 1` to `bound`, with or without a sign. -/
def readSigned (bound : Nat) : List Char → Except IntegerFault Int
  | [] => .error .empty
  | c :: rest =>
    if c = '+' then
      if rest.isEmpty then .error .invalidDigit
      else (readBounded bound .tooLarge rest).map Int.ofNat
    else if c = '-' then
      if rest.isEmpty then .error .invalidDigit
      else
        (readBounded (bound + 1) .tooSmall rest).map fun value =>
          -Int.ofNat value
    else (readBounded bound .tooLarge (c :: rest)).map Int.ofNat

/-- An integer of any size, with or without a sign. -/
def unboundedSigned? (text : List Char) : Option Int :=
  let (negative, digits) := match text with
    | '-' :: digits => (true, digits)
    | '+' :: digits => (false, digits)
    | digits => (false, digits)
  if digits ≠ [] ∧ digits.all Char.isDigit then
    let value : Int := Nat.ofDigitChars 10 digits 0
    some (if negative then -value else value)
  else none

/-- The decimal digits of an integer, after a minus sign if it is negative. -/
def integerText : Int → List Char
  | .ofNat n => Nat.toDigits 10 n
  | .negSucc n => '-' :: Nat.toDigits 10 (n + 1)

/-- Decimal digits of a number, with zeros in front up to a width. -/
def paddedDigits (width n : Nat) : List Char :=
  let digits := Nat.toDigits 10 n
  List.replicate (width - digits.length) '0' ++ digits

end RecordFilter

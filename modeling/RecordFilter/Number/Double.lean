/-!
# Double precision numbers

The non-negative numbers of double precision, infinity included, are ordered
like their bit patterns, which count up from zero without a gap. That count is
the rank of a number. A number is given by its sign and its rank, so comparing
numbers means comparing ranks with a sign.
-/

namespace RecordFilter

/-- The number of ranks from one power of two to the next. -/
def Double.binade : Nat := 0x10000000000000

/-- The number of finite non-negative numbers, which is the rank of infinity. -/
def Double.infinityRank : Nat := 0x7ff * Double.binade

inductive Double where
  | nan
  | number (negative : Bool) (rank : Fin (Double.infinityRank + 1))
  deriving DecidableEq

namespace Double

/-- The number with a sign and a rank; ranks beyond infinity are infinity. -/
def ofRank (negative : Bool) (rank : Nat) : Double :=
  .number negative
    ⟨min rank infinityRank, Nat.lt_succ_of_le (Nat.min_le_right ..)⟩

def infinity (negative : Bool) : Double := ofRank negative infinityRank

/-- The least positive number is one that has been halved this many times. -/
def unitPlaces : Nat := 1074

/-- A finite number of a rank as a multiple of the least positive number. -/
def units (rank : Nat) : Nat :=
  if rank < binade then rank
  else (binade + rank % binade) <<< (rank / binade - 1)

def isNaN : Double → Bool
  | .nan => true
  | .number .. => false

/-- The rank with the sign of the number; both zeros have the same. -/
def key? : Double → Option Int
  | .nan => none
  | .number negative rank =>
    some (if negative then -(rank.val : Int) else rank.val)

/-- The order of two numbers. NaN has no place in it. -/
def order? (left right : Double) : Option Ordering :=
  match left.key?, right.key? with
  | some l, some r => some (compare l r)
  | _, _ => none

/-- Equality of numbers: both zeros are equal, and NaN equals nothing. -/
def equals (left right : Double) : Bool :=
  left.order? right == some .eq

end Double

end RecordFilter

/-!
# Sets of characters as code ranges

The character classes of the query language are given by tables of closed ranges
of code points. A table is ascending, so a lookup stops at the first range that
lies above the code it asks for.
-/

namespace RecordFilter

/-- Closed ranges of code points, in ascending order and disjoint. -/
abbrev CodeRanges := List (Nat × Nat)

namespace CodeRanges

/-- Whether a code point lies in one of the ranges. -/
def contains : CodeRanges → Nat → Bool
  | [], _ => false
  | (first, last) :: rest, code =>
    if code < first then false
    else if code ≤ last then true
    else contains rest code

end CodeRanges

end RecordFilter

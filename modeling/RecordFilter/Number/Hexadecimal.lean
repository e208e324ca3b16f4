/-!
# Hexadecimal digits

Digits from ten on are letters, of which capital and small ones mean the same.
-/

namespace RecordFilter

/-- The value of a hexadecimal digit. -/
def hexValue? (c : Char) : Option Nat :=
  if c.isDigit then some (c.toNat - 0x30)
  else if 'a' ≤ c ∧ c ≤ 'f' then some (c.toNat - 0x61 + 10)
  else if 'A' ≤ c ∧ c ≤ 'F' then some (c.toNat - 0x41 + 10)
  else none

def isHexDigit (c : Char) : Bool := (hexValue? c).isSome

end RecordFilter

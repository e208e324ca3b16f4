import RecordFilter.Text.CodeRanges

/-!
# Blanks

Blank characters separate tokens and are cut from both ends of a literal before
it is read. The class is the Unicode property White_Space.
-/

namespace RecordFilter

/-- The code points with the property White_Space. -/
def blankRanges : CodeRanges :=
  [(0x9, 0xd), (0x20, 0x20), (0x85, 0x85), (0xa0, 0xa0), (0x1680, 0x1680),
    (0x2000, 0x200a), (0x2028, 0x2029), (0x202f, 0x202f), (0x205f, 0x205f),
    (0x3000, 0x3000)]

def isBlank (c : Char) : Bool :=
  blankRanges.contains c.toNat

/-- Drops the blanks a text ends with. -/
def trimEnd : List Char → List Char
  | [] => []
  | c :: rest =>
    match trimEnd rest with
    | [] => if isBlank c then [] else [c]
    | kept => c :: kept

/-- Drops the blanks a text starts with. -/
def trimStart (text : List Char) : List Char :=
  text.dropWhile isBlank

def trim (text : List Char) : List Char :=
  trimEnd (trimStart text)

end RecordFilter

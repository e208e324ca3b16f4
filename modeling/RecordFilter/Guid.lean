import RecordFilter.Number.Hexadecimal
import RecordFilter.Text.Utf8

/-!
# Globally unique identifiers

A guid is a number of 128 bits, written as 32 hexadecimal digits in five groups.
It is read with or without the hyphens between the groups, in braces, or as a
resource name.
-/

namespace RecordFilter

structure Guid where
  number : BitVec 128
  deriving DecidableEq

/-- Why a text is no guid. Lengths and positions are in bytes. -/
inductive GuidFault where
  | length (found : Nat)
  | character (found : Char) (position : Nat)
  | groupCount (found : Nat)
  | groupLength (group expected found : Nat)
  deriving DecidableEq

def GuidFault.message : GuidFault → String
  | .length found => "invalid length: found " ++ toString found
  | .character found position =>
    "invalid character: found \x60" ++ found.toString ++ "\x60 at " ++
      toString position
  | .groupCount found =>
    "invalid group count: expected 5, found " ++ toString found
  | .groupLength group expected found =>
    "invalid group length in group " ++ toString group ++ ": expected " ++
      toString expected ++
      ", found " ++ toString found

namespace Guid

def order (left right : Guid) : Ordering :=
  compare left.number.toNat right.number.toNat

/-- The number that hexadecimal digits spell. -/
def ofHexDigits? (digits : List Char) : Option Guid :=
  (digits.foldlM
    (fun value c => (hexValue? c).map (16 * value + ·)) 0).map fun value =>
      ⟨BitVec.ofNat 128 value⟩

/-- Where the four hyphens stand among the 36 characters of the grouped form. -/
def hyphenPositions : List Nat := [8, 13, 18, 23]

def readGrouped? (text : List Char) : Option Guid :=
  if text.length = 36 ∧ text.zipIdx.all fun (c, position) =>
      if hyphenPositions.contains position then c == '-' else isHexDigit c then
    ofHexDigits? (text.filter (· != '-'))
  else none

/-- What the resource name of a guid starts with. -/
def resourcePrefix : List Char := "urn:uuid:".toList

/-- What stands between braces. -/
def unbraced? : List Char → Option (List Char)
  | '\x7b' :: rest =>
    if rest.getLast? = some '\x7d' then some rest.dropLast else none
  | _ => none

/-- What follows a start in which capital and small ASCII letters are taken for
the same. -/
def afterResourcePrefix? (text : List Char) : Option (List Char) :=
  if (text.take resourcePrefix.length).map Char.toLower = resourcePrefix then
    some (text.drop resourcePrefix.length)
  else none

/-- The part of a text that is read as the grouped form if the length of the
text allows it. -/
def grouped? (text : List Char) : Option (List Char) :=
  let size := utf8Length text
  if size = 36 then some text
  else if size = 38 then unbraced? text
  else if size = 45 then afterResourcePrefix? text
  else none

/-- The groups of a text with the number of bytes of each. -/
def groupLengths (text : List Char) : List Nat :=
  text.foldr (fun c groups =>
    if c = '-' then 0 :: groups
    else
      match groups with
      | [] => [c.utf8Size]
      | group :: rest => (group + c.utf8Size) :: rest) [0]

/-- The first of the given groups that has not the length expected of it;
without one the last group is at fault, for which the length of the whole text
after its start is given. -/
def groupFault (total : Nat) : Nat → List Nat → List Nat → GuidFault
  | group, expected :: moreExpected, found :: moreFound =>
    if found = expected then groupFault total (group + 1) moreExpected moreFound
    else .groupLength group expected found
  | group, _, _ => .groupLength group 12 (total - 24)

/-- Why the part of a text after an offset is not the grouped form. The length
of the whole text is given. -/
def diagnoseGrouped (total offset : Nat) (body : List Char) : GuidFault :=
  let good := body.takeWhile fun c => isHexDigit c || c == '-'
  match body.drop good.length with
  | c :: _ => .character c (offset + good.length)
  | [] =>
    let lengths := groupLengths body
    if lengths.length ≠ 5 then .groupCount lengths.length
    else groupFault total 0 [8, 4, 4, 4] lengths

/-- Why a text whose length is that of none of the forms with hyphens is no
guid. Digits alone are taken for the form without hyphens. -/
def diagnose (text : List Char) : GuidFault :=
  let total := utf8Length text
  match unbraced? text with
  | some body => diagnoseGrouped total 1 body
  | none =>
    match afterResourcePrefix? text with
    | some body => diagnoseGrouped total resourcePrefix.length body
    | none =>
      if text.all isHexDigit then .length total
      else diagnoseGrouped total 0 text

def read (text : List Char) : Except GuidFault Guid :=
  let size := utf8Length text
  if size = 0 ∨ 45 < size then .error (.length size)
  else
    match grouped? text with
    | some inner =>
      match readGrouped? inner with
      | some guid => .ok guid
      | none => .error (diagnoseGrouped (utf8Length inner) 0 inner)
    | none =>
      match (if size = 32 then ofHexDigits? text else none) with
      | some guid => .ok guid
      | none => .error (diagnose text)

/-- The hexadecimal digit at a place, counted from the right. -/
def digitAt (guid : Guid) (place : Nat) : Char :=
  Nat.digitChar ((guid.number.toNat >>> (4 * place)) % 16)

/-- The five groups of digits with hyphens between them. -/
def text (guid : Guid) : List Char :=
  let digits := (List.range 32).map fun position => guid.digitAt (31 - position)
  digits.take 8 ++ '-' ::
    ((digits.drop 8).take 4 ++ '-' :: ((digits.drop 12).take 4 ++ '-' ::
      ((digits.drop 16).take 4 ++ '-' :: digits.drop 20)))

end Guid

end RecordFilter

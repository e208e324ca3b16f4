import Mathlib.Algebra.Ring.Nat
import Mathlib.Data.Nat.ModEq
import Mathlib.Tactic.Ring
import RecordFilter.Guid
import RecordFilter.Proofs.Text.Ink

/-!
# Guids read back

The text of a guid is read as the same guid. The grouped form is recognised for
any five groups of the right lengths. The digits are taken from the number one
by one from the left, and what is still to come spells the remainder of the
number by a power of sixteen.
-/

namespace RecordFilter

/-! ## Hexadecimal digits -/

/-- The character is one of the digits that guids are written with. -/
def IsSmallHex (c : Char) : Prop := ∃ digit < 16, c = Nat.digitChar digit

def AllSmallHex (text : List Char) : Prop := ∀ c ∈ text, IsSmallHex c

namespace IsSmallHex

/-- What holds of the sixteen digits holds of the character. -/
theorem of_table {p : Char → Prop}
    (htable : ∀ digit ∈ List.range 16, p (Nat.digitChar digit)) {c : Char}
    (hc : IsSmallHex c) : p c := by
  obtain ⟨digit, hdigit, rfl⟩ := hc
  exact htable digit (List.mem_range.mpr hdigit)

theorem isHexDigit {c : Char} (hc : IsSmallHex c) : isHexDigit c = true := by
  apply hc.of_table
  decide

theorem ne_hyphen {c : Char} (hc : IsSmallHex c) : c ≠ '-' := by
  apply hc.of_table
  decide

theorem isInk {c : Char} (hc : IsSmallHex c) : IsInk c := by
  have htable : ∀ digit ∈ List.range 16,
      isBlank (Nat.digitChar digit) = false ∧ Nat.digitChar digit ≠ tick := by
    decide
  exact hc.of_table htable

theorem utf8Size {c : Char} (hc : IsSmallHex c) : c.utf8Size = 1 := by
  apply hc.of_table
  decide

end IsSmallHex

theorem hexValue?_digitChar {digit : Nat} (hdigit : digit < 16) :
    hexValue? (Nat.digitChar digit) = some digit := by
  have htable : ∀ digit ∈ List.range 16,
      hexValue? (Nat.digitChar digit) = some digit := by
    decide
  exact htable digit (List.mem_range.mpr hdigit)

theorem utf8Length_eq_length {text : List Char}
    (htext : ∀ c ∈ text, c.utf8Size = 1) : utf8Length text = text.length := by
  induction text with
  | nil => rfl
  | cons c rest ih =>
      have hrest : ∀ d ∈ rest, d.utf8Size = 1 :=
        fun d hd => htext d (List.mem_cons_of_mem c hd)
      rw [utf8Length_cons, htext c List.mem_cons_self, ih hrest,
        List.length_cons, Nat.add_comm]

theorem AllSmallHex.filter_ne_hyphen {text : List Char}
    (htext : AllSmallHex text) : text.filter (· != '-') = text := by
  rw [List.filter_eq_self]
  intro c hc
  rw [bne_iff_ne]
  exact (htext c hc).ne_hyphen

namespace Guid

/-! ## The grouped form -/

/-- What the reader asks of a character at a position. -/
def fitsPosition (place : Char × Nat) : Bool :=
  if hyphenPositions.contains place.2 then place.1 == '-'
  else isHexDigit place.1

theorem all_fitsPosition_group {group : List Char} (hgroup : AllSmallHex group)
    (start size : Nat) (hsize : group.length = size)
    (hfree : ∀ position ∈ hyphenPositions,
      position < start ∨ start + size ≤ position) :
    (group.zipIdx start).all fitsPosition = true := by
  rw [List.all_eq_true]
  rintro ⟨c, position⟩ hmem
  obtain ⟨hlow, hhigh, hc⟩ := List.mem_zipIdx hmem
  have hdigit : IsSmallHex c := by
    rw [hc]
    exact hgroup _ (List.getElem_mem _)
  have hplace : hyphenPositions.contains position = false := by
    rw [List.contains_eq_mem, decide_eq_false_iff_not]
    intro hhyphen
    have hbounds := hfree position hhyphen
    omega
  rw [fitsPosition, hplace]
  exact hdigit.isHexDigit

theorem all_fitsPosition_append {group rest : List Char}
    (hgroup : AllSmallHex group) (start size : Nat)
    (hsize : group.length = size)
    (hfree : ∀ position ∈ hyphenPositions,
      position < start ∨ start + size ≤ position)
    (hhyphen : hyphenPositions.contains (start + size) = true)
    (hrest : (rest.zipIdx (start + size + 1)).all fitsPosition = true) :
    ((group ++ '-' :: rest).zipIdx start).all fitsPosition = true := by
  have hfront := all_fitsPosition_group hgroup start size hsize hfree
  have hmark : fitsPosition ('-', start + size) = true := by
    rw [fitsPosition, hhyphen]
    rfl
  rw [List.zipIdx_append, List.all_append, List.zipIdx_cons, List.all_cons,
    hsize, hfront, hmark, hrest]
  rfl

/-- Digits with hyphens where the groups end. -/
def hyphenate (digits : List Char) : List Char :=
  digits.take 8 ++ '-' :: ((digits.drop 8).take 4 ++ '-' ::
    ((digits.drop 12).take 4 ++ '-' :: ((digits.drop 16).take 4 ++ '-' ::
      digits.drop 20)))

section Hyphenate

variable {digits : List Char}

theorem allSmallHex_take (hdigits : AllSmallHex digits) (size : Nat) :
    AllSmallHex (digits.take size) :=
  fun c hc => hdigits c (List.mem_of_mem_take hc)

theorem allSmallHex_drop (hdigits : AllSmallHex digits) (start : Nat) :
    AllSmallHex (digits.drop start) :=
  fun c hc => hdigits c (List.mem_of_mem_drop hc)

theorem all_fitsPosition_hyphenate (hdigits : AllSmallHex digits)
    (hlength : digits.length = 32) :
    (hyphenate digits).zipIdx.all fitsPosition = true := by
  have hslice (start : Nat) : AllSmallHex ((digits.drop start).take 4) :=
    allSmallHex_take (allSmallHex_drop hdigits start) 4
  have hfifth := all_fitsPosition_group (allSmallHex_drop hdigits 20) 24 12
    (by simp [hlength]) (by decide)
  have hfourth := all_fitsPosition_append (hslice 16) 19 4 (by simp [hlength])
    (by decide) (by decide) hfifth
  have hthird := all_fitsPosition_append (hslice 12) 14 4 (by simp [hlength])
    (by decide) (by decide) hfourth
  have hsecond := all_fitsPosition_append (hslice 8) 9 4 (by simp [hlength])
    (by decide) (by decide) hthird
  exact all_fitsPosition_append (allSmallHex_take hdigits 8) 0 8
    (by simp [hlength]) (by decide) (by decide) hsecond

theorem take_append_drop_four (digits : List Char) (start : Nat) :
    (digits.drop start).take 4 ++ digits.drop (start + 4) =
      digits.drop start := by
  rw [← List.drop_drop, List.take_append_drop]

theorem filter_hyphenate (hdigits : AllSmallHex digits) :
    (hyphenate digits).filter (· != '-') = digits := by
  have hfirst := (allSmallHex_take hdigits 8).filter_ne_hyphen
  have hlast := (allSmallHex_drop hdigits 20).filter_ne_hyphen
  have hslice (start : Nat) :
      ((digits.drop start).take 4).filter (· != '-') =
        (digits.drop start).take 4 :=
    (allSmallHex_take (allSmallHex_drop hdigits start) 4).filter_ne_hyphen
  have hhyphen (rest : List Char) :
      ('-' :: rest).filter (· != '-') = rest.filter (· != '-') := rfl
  simp only [hyphenate, List.filter_append, hhyphen, hfirst, hslice, hlast]
  rw [take_append_drop_four digits 16, take_append_drop_four digits 12,
    take_append_drop_four digits 8, List.take_append_drop]

theorem mem_hyphenate (hdigits : AllSmallHex digits) {c : Char}
    (hc : c ∈ hyphenate digits) : IsSmallHex c ∨ c = '-' := by
  by_cases hhyphen : c = '-'
  · exact .inr hhyphen
  · have hmem : c ∈ (hyphenate digits).filter (· != '-') := by
      rw [List.mem_filter, bne_iff_ne]
      exact ⟨hc, hhyphen⟩
    rw [filter_hyphenate hdigits] at hmem
    exact .inl (hdigits c hmem)

theorem length_hyphenate (hlength : digits.length = 32) :
    (hyphenate digits).length = 36 := by
  simp [hyphenate, hlength]

theorem utf8Length_hyphenate (hdigits : AllSmallHex digits)
    (hlength : digits.length = 32) : utf8Length (hyphenate digits) = 36 := by
  rw [utf8Length_eq_length, length_hyphenate hlength]
  intro c hc
  rcases mem_hyphenate hdigits hc with hdigit | rfl
  · exact hdigit.utf8Size
  · rfl

theorem read_hyphenate (hdigits : AllSmallHex digits)
    (hlength : digits.length = 32) {guid : Guid}
    (hguid : ofHexDigits? digits = some guid) :
    read (hyphenate digits) = .ok guid := by
  have hsize := utf8Length_hyphenate hdigits hlength
  have hgrouped : readGrouped? (hyphenate digits) = some guid := by
    rw [readGrouped?, filter_hyphenate hdigits, hguid]
    exact if_pos
      ⟨length_hyphenate hlength, all_fitsPosition_hyphenate hdigits hlength⟩
  simp [read, grouped?, hsize, hgrouped]

end Hyphenate

/-! ## The digits of a number -/

theorem hexValue?_digitAt (guid : Guid) (place : Nat) :
    hexValue? (guid.digitAt place) =
      some (guid.number.toNat / 16 ^ place % 16) := by
  have hdigit : guid.number.toNat / 16 ^ place % 16 < 16 :=
    Nat.mod_lt _ (by decide)
  rw [digitAt, Nat.shiftRight_eq_div_pow, Nat.pow_mul]
  exact hexValue?_digitChar hdigit

theorem isSmallHex_digitAt (guid : Guid) (place : Nat) :
    IsSmallHex (guid.digitAt place) :=
  ⟨_, Nat.mod_lt _ (by decide), rfl⟩

/-- The digits of the lowest places, the highest one first. -/
def lowDigits (guid : Guid) (count : Nat) : List Char :=
  (List.range count).map fun position => guid.digitAt (count - 1 - position)

theorem lowDigits_succ (guid : Guid) (count : Nat) :
    guid.lowDigits (count + 1) =
      guid.digitAt count :: guid.lowDigits count := by
  unfold lowDigits
  rw [List.range_succ_eq_map, List.map_cons, List.map_map]
  congr 1
  apply List.map_congr_left
  intro position hposition
  have hplace : count + 1 - 1 - position.succ = count - 1 - position := by
    omega
  simp only [Function.comp_apply, hplace]

theorem foldlM_lowDigits (guid : Guid) (count value : Nat) :
    (guid.lowDigits count).foldlM
        (fun value c => (hexValue? c).map (16 * value + ·)) value =
      some (16 ^ count * value + guid.number.toNat % 16 ^ count) := by
  induction count generalizing value with
  | zero => simp [lowDigits, Nat.mod_one]
  | succ count ih =>
      rw [lowDigits_succ, List.foldlM_cons, hexValue?_digitAt, Option.map_some]
      simp only [Option.bind_eq_bind, Option.bind_some, ih, Nat.mod_pow_succ]
      congr 1
      ring

theorem ofHexDigits?_lowDigits (guid : Guid) :
    ofHexDigits? (guid.lowDigits 32) = some guid := by
  have hbound : guid.number.toNat < 16 ^ 32 := guid.number.isLt
  rw [ofHexDigits?, foldlM_lowDigits, Nat.mod_eq_of_lt hbound]
  simp

theorem text_eq_hyphenate (guid : Guid) :
    guid.text = hyphenate (guid.lowDigits 32) := rfl

theorem allSmallHex_lowDigits (guid : Guid) (count : Nat) :
    AllSmallHex (guid.lowDigits count) := by
  intro c hc
  obtain ⟨position, -, rfl⟩ := List.mem_map.mp hc
  exact guid.isSmallHex_digitAt _

theorem read_text (guid : Guid) : read guid.text = .ok guid := by
  rw [text_eq_hyphenate]
  have hlength : (guid.lowDigits 32).length = 32 := by
    simp [lowDigits]
  exact read_hyphenate (guid.allSmallHex_lowDigits 32) hlength
    guid.ofHexDigits?_lowDigits

theorem allInk_text (guid : Guid) : AllInk guid.text := by
  intro c hc
  rcases mem_hyphenate (guid.allSmallHex_lowDigits 32) hc with hdigit | rfl
  · exact hdigit.isInk
  · exact ⟨by decide, by decide⟩

end Guid

end RecordFilter

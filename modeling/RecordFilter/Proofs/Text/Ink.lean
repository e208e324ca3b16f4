import RecordFilter.Proofs.Number.IntegerText
import RecordFilter.Proofs.Text.LetterCase
import RecordFilter.Query.Token

/-!
# Texts without blanks and ticks

A text that has neither blanks nor ticks may stand between ticks as it is, and
trimming leaves it alone. Numbers, dates and identifiers are written so.
-/

namespace RecordFilter

def IsInk (c : Char) : Prop := isBlank c = false ∧ c ≠ tick

def AllInk (text : List Char) : Prop := ∀ c ∈ text, IsInk c

namespace AllInk

theorem cons {c : Char} {text : List Char} (hc : IsInk c)
    (htext : AllInk text) : AllInk (c :: text) := by
  intro d hd
  rcases List.mem_cons.mp hd with rfl | hd
  · exact hc
  · exact htext d hd

theorem append {left right : List Char} (hleft : AllInk left)
    (hright : AllInk right) : AllInk (left ++ right) := by
  intro c hc
  rcases List.mem_append.mp hc with hc | hc
  · exact hleft c hc
  · exact hright c hc

theorem tick_notMem {text : List Char} (htext : AllInk text) : tick ∉ text := by
  intro hmem
  exact (htext tick hmem).2 rfl

end AllInk

/-! ## Digits -/

theorem blankRanges_holdsNone_printable :
    blankRanges.holdsNone 0x21 0x7e = true := by
  decide

theorem isBlank_of_printable {c : Char} (hlow : 0x21 ≤ c.toNat)
    (hhigh : c.toNat ≤ 0x7e) : isBlank c = false :=
  CodeRanges.contains_of_holdsNone blankRanges_holdsNone_printable hlow hhigh

theorem isInk_of_isDigit {c : Char} (hdigit : c.isDigit = true) : IsInk c := by
  have hcode : 0x30 ≤ c.toNat ∧ c.toNat ≤ 0x39 :=
    Char.isDigit_iff_toNat.mp hdigit
  refine ⟨isBlank_of_printable (by omega) (by omega), ?_⟩
  rintro rfl
  contradiction

theorem AllDigits.allInk {text : List Char} (hdigits : AllDigits text) :
    AllInk text := by
  intro c hc
  exact isInk_of_isDigit (hdigits c hc)

theorem allInk_integerText (value : Int) : AllInk (integerText value) := by
  cases value with
  | ofNat n => exact (allDigits_toDigits n).allInk
  | negSucc n =>
      exact .cons ⟨by decide, by decide⟩ (allDigits_toDigits _).allInk

/-! ## Trimming -/

theorem trimEnd_of_allInk {text : List Char} (htext : AllInk text) :
    trimEnd text = text := by
  induction text with
  | nil => rfl
  | cons c rest ih =>
      have hc := (htext c List.mem_cons_self).1
      have hrest : AllInk rest :=
        fun d hd => htext d (List.mem_cons_of_mem c hd)
      rw [trimEnd, ih hrest]
      cases rest with
      | nil => simp [hc]
      | cons d rest => rfl

theorem trimStart_cons_of_isInk {c : Char} (hc : IsInk c) (rest : List Char) :
    trimStart (c :: rest) = c :: rest := by
  have hblank : isBlank c = false := hc.1
  simp [trimStart, hblank]

theorem trimStart_of_allInk {text : List Char} (htext : AllInk text) :
    trimStart text = text := by
  cases text with
  | nil => rfl
  | cons c rest =>
      exact trimStart_cons_of_isInk (htext c List.mem_cons_self) rest

theorem trim_of_allInk {text : List Char} (htext : AllInk text) :
    trim text = text := by
  rw [trim, trimStart_of_allInk htext, trimEnd_of_allInk htext]

end RecordFilter

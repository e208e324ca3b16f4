import RecordFilter.Text.Blank
import RecordFilter.Text.Lowercase
import RecordFilter.Text.NameChar

/-!
# Letter case and the character classes

Two facts about the character tables on which the reading of names rests:
characters with the same lower-case mapping are both name characters or neither,
and no name character is a blank. The tables are compared interval by interval,
never code by code, and the comparisons are stated with `Nat.ble`, which is fast
to evaluate.
-/

namespace RecordFilter

namespace CodeRanges

/-- Whether one range of the table holds a whole interval. -/
def holdsAll : CodeRanges → Nat → Nat → Bool
  | [], _, _ => false
  | range :: rest, low, high =>
      Nat.ble range.1 low &&
        (Nat.ble high range.2 ||
          (Nat.ble range.2.succ low && holdsAll rest low high))

/-- Whether the table holds no code of an interval. -/
def holdsNone : CodeRanges → Nat → Nat → Bool
  | [], _, _ => true
  | range :: rest, low, high =>
      Nat.ble high.succ range.1 ||
        (Nat.ble range.2.succ low && holdsNone rest low high)

theorem contains_of_holdsAll {ranges : CodeRanges} {low high code : Nat}
    (hall : holdsAll ranges low high = true) (hlow : low ≤ code)
    (hhigh : code ≤ high) :
    contains ranges code = true := by
  induction ranges with
  | nil => simp [holdsAll] at hall
  | cons range rest ih =>
      simp only [holdsAll, Bool.and_eq_true, Bool.or_eq_true, Nat.ble_eq]
        at hall
      obtain ⟨hfirst, hrest⟩ := hall
      unfold contains
      rw [if_neg (by omega)]
      rcases hrest with hlast | ⟨habove, hrest⟩
      · rw [if_pos (by omega)]
      · rw [if_neg (by omega)]
        exact ih hrest

theorem contains_of_holdsNone {ranges : CodeRanges} {low high code : Nat}
    (hnone : holdsNone ranges low high = true) (hlow : low ≤ code)
    (hhigh : code ≤ high) :
    contains ranges code = false := by
  induction ranges with
  | nil => rfl
  | cons range rest ih =>
      simp only [holdsNone, Bool.and_eq_true, Bool.or_eq_true, Nat.ble_eq]
        at hnone
      unfold contains
      by_cases hfirst : code < range.1
      · rw [if_pos hfirst]
      · rw [if_neg hfirst]
        rcases hnone with hbelow | ⟨habove, hrest⟩
        · omega
        · rw [if_neg (by omega)]
          exact ih hrest

theorem exists_range_of_contains {ranges : CodeRanges} {code : Nat}
    (hcontains : contains ranges code = true) :
    ∃ range ∈ ranges, range.1 ≤ code ∧ code ≤ range.2 := by
  induction ranges with
  | nil => simp [contains] at hcontains
  | cons range rest ih =>
      unfold contains at hcontains
      by_cases hfirst : code < range.1
      · simp [hfirst] at hcontains
      · by_cases hlast : code ≤ range.2
        · exact ⟨range, List.mem_cons_self, by omega, hlast⟩
        · simp only [hfirst, hlast, if_false] at hcontains
          obtain ⟨found, hfound, hbounds⟩ := ih hcontains
          exact ⟨found, List.mem_cons_of_mem range hfound, hbounds⟩

end CodeRanges

/-! ## Blanks -/

theorem alphanumericRanges_holdsNone_blank :
    (blankRanges.all fun range =>
      alphanumericRanges.holdsNone range.1 range.2) = true := by
  decide +kernel

theorem isNameChar_of_isBlank {c : Char} (hblank : isBlank c = true) :
    isNameChar c = false := by
  obtain ⟨range, hrange, hlow, hhigh⟩ :=
    CodeRanges.exists_range_of_contains hblank
  have hnone :=
    List.all_eq_true.mp alphanumericRanges_holdsNone_blank range hrange
  have halphanumeric : isAlphanumeric c = false :=
    CodeRanges.contains_of_holdsNone hnone hlow hhigh
  have hunderscore : c ≠ '_' := by
    intro heq
    rw [heq] at hblank
    revert hblank
    decide
  have hdot : c ≠ '.' := by
    intro heq
    rw [heq] at hblank
    revert hblank
    decide
  simp [isNameChar, halphanumeric, hunderscore, hdot]

/-! ## Capitals and small letters -/

namespace CapitalRun

/-- All capitals of the run and their small letters are letters. Between the
capitals of one run there are codes that belong to no character, so they may
also be looked up one by one. -/
def isOfLetters (run : CapitalRun) : Bool :=
  (alphanumericRanges.holdsAll run.first run.last ||
    (List.range (run.last - run.first + 1)).all fun offset =>
      !run.contains (run.first + offset) ||
        alphanumericRanges.contains (run.first + offset)) &&
  alphanumericRanges.holdsAll run.target (run.small run.last) &&
  (Nat.ble (run.small run.last) 0xd7ff ||
    (Nat.ble 0xe000 run.target && Nat.ble (run.small run.last) 0x10ffff))

theorem capitalRuns_isOfLetters : capitalRuns.all isOfLetters = true := by
  decide +kernel

theorem exists_run_of_find? {runs : List CapitalRun} {code small : Nat}
    (hfind : find? runs code = some small) :
    ∃ run ∈ runs, run.contains code = true ∧ run.small code = small := by
  induction runs with
  | nil => simp [find?] at hfind
  | cons run rest ih =>
      unfold find? at hfind
      by_cases hfirst : code < run.first
      · simp [hfirst] at hfind
      · by_cases hcontains : run.contains code = true
        · simp only [hfirst, hcontains, if_false, if_true, Option.some.injEq]
            at hfind
          exact ⟨run, List.mem_cons_self, hcontains, hfind⟩
        · simp only [hfirst, hcontains, if_false] at hfind
          obtain ⟨found, hfound, hsmall⟩ := ih hfind
          exact ⟨found, List.mem_cons_of_mem run hfound, hsmall⟩

theorem isNameChar_of_find? {code small : Nat}
    (hfind : find? capitalRuns code = some small) :
    alphanumericRanges.contains code = true ∧
      alphanumericRanges.contains small = true ∧ small.isValidChar := by
  obtain ⟨run, hrun, hcontains, rfl⟩ := exists_run_of_find? hfind
  have hletters := List.all_eq_true.mp capitalRuns_isOfLetters run hrun
  simp only [isOfLetters, Bool.and_eq_true, Bool.or_eq_true, Nat.ble_eq]
    at hletters
  obtain ⟨⟨hcapital, hsmall⟩, hvalid⟩ := hletters
  have hbounds : run.first ≤ code ∧ code ≤ run.last := by
    simp only [contains, Bool.and_eq_true, decide_eq_true_eq] at hcontains
    exact hcontains.1
  have hlow : run.target ≤ run.small code := by
    unfold small
    omega
  have hhigh : run.small code ≤ run.small run.last := by
    unfold small
    omega
  refine ⟨?_, CodeRanges.contains_of_holdsAll hsmall hlow hhigh, ?_⟩
  · rcases hcapital with hinterval | hsingle
    · exact CodeRanges.contains_of_holdsAll hinterval hbounds.1 hbounds.2
    · have hoffset :
          code - run.first ∈ List.range (run.last - run.first + 1) := by
        rw [List.mem_range]
        omega
      have hcode := List.all_eq_true.mp hsingle _ hoffset
      rw [Nat.add_sub_cancel' hbounds.1, hcontains] at hcode
      simpa using hcode
  · unfold Nat.isValidChar
    omega

end CapitalRun

/-- The characters that have a mapping of one character belong to the class of
that character. -/
theorem isNameChar_of_lowercase_eq_singleton {c d : Char}
    (hlower : lowercase c = [d]) :
    isNameChar c = isNameChar d := by
  unfold lowercase at hlower
  by_cases hdotted : c.toNat = 0x130
  · simp [hdotted] at hlower
  · rw [if_neg hdotted] at hlower
    cases hfind : CapitalRun.find? capitalRuns c.toNat with
    | none =>
        rw [hfind] at hlower
        rw [List.singleton_inj.mp hlower]
    | some small =>
        rw [hfind] at hlower
        obtain ⟨hcapital, hsmall, hvalid⟩ :=
          CapitalRun.isNameChar_of_find? hfind
        have hcode : d.toNat = small := by
          rw [← List.singleton_inj.mp hlower, Char.ofNat, dif_pos hvalid]
          rfl
        have hc : isAlphanumeric c = true := hcapital
        have hd : isAlphanumeric d = true := by
          unfold isAlphanumeric
          rw [hcode]
          exact hsmall
        simp [isNameChar, hc, hd]

/-- Only the dotted capital I has a mapping of two characters. -/
theorem lowercase_of_dotted {c : Char} (hdotted : c.toNat = 0x130) :
    lowercase c = ['i', '\u0307'] := by
  unfold lowercase
  rw [if_pos hdotted]

theorem exists_lowercase_eq_singleton {c : Char} (hplain : c.toNat ≠ 0x130) :
    ∃ d, lowercase c = [d] := by
  unfold lowercase
  rw [if_neg hplain]
  cases CapitalRun.find? capitalRuns c.toNat with
  | none => exact ⟨c, rfl⟩
  | some small => exact ⟨Char.ofNat small, rfl⟩

theorem isNameChar_of_lowercase_eq {c d : Char}
    (hlower : lowercase c = lowercase d) :
    isNameChar c = isNameChar d := by
  by_cases hc : c.toNat = 0x130
  · by_cases hd : d.toNat = 0x130
    · rw [Char.toNat_inj.mp (hc.trans hd.symm)]
    · obtain ⟨e, he⟩ := exists_lowercase_eq_singleton hd
      rw [lowercase_of_dotted hc, he] at hlower
      simp at hlower
  · obtain ⟨e, he⟩ := exists_lowercase_eq_singleton hc
    rw [he] at hlower
    rw [isNameChar_of_lowercase_eq_singleton he,
      isNameChar_of_lowercase_eq_singleton hlower.symm]

end RecordFilter

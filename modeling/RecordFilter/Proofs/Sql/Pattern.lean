import Mathlib.Data.List.Basic
import Mathlib.Data.List.Infix
import RecordFilter.Filter.Sql

/-!
# Patterns

The reference reading of a LIKE pattern: `%` stands for any text, `_` for any
one character, and a character after the escape character for itself. Patterns
are read into items first, so that matching need not know how they are written.
The patterns of a filter ask whether a text starts with, ends with or contains
another one.
-/

namespace RecordFilter.Sql

inductive PatternItem where
  | anyText
  | anyChar
  | exactly (c : Char)
  deriving DecidableEq

namespace PatternItem

/-- The item of a character that is not escaped. -/
def ofChar (c : Char) : PatternItem :=
  if c = '%' then .anyText else if c = '_' then .anyChar else .exactly c

/-- The items of a pattern; a pattern must not end with an open escape. -/
def read? : List Char → Option (List PatternItem)
  | [] => some []
  | c :: rest =>
      if c = escapeChar then
        match rest with
        | [] => none
        | escaped :: rest => (read? rest).map (.exactly escaped :: ·)
      else (read? rest).map (ofChar c :: ·)

def allows : List PatternItem → List Char → Bool
  | [], text => text.isEmpty
  | .anyText :: items, text => text.tails.any (allows items)
  | .anyChar :: _, [] => false
  | .anyChar :: items, _ :: text => allows items text
  | .exactly _ :: _, [] => false
  | .exactly c :: items, d :: text => c == d && allows items text

end PatternItem

/-- Whether a text is like a pattern; a pattern that cannot be read gives no
answer. -/
def like? (text pattern : List Char) : Option Bool :=
  (PatternItem.read? pattern).map fun items => PatternItem.allows items text

/-! ## Reading -/

namespace PatternItem

@[simp]
theorem read?_nil : read? [] = some [] := by
  unfold read?
  rfl

@[simp]
theorem read?_openEscape : read? [escapeChar] = none := by
  rfl

@[simp]
theorem read?_escapeChar (c : Char) (rest : List Char) :
    read? (escapeChar :: c :: rest) = (read? rest).map (.exactly c :: ·) := by
  rw [read?]
  simp

theorem read?_cons {c : Char} (hc : c ≠ escapeChar) (rest : List Char) :
    read? (c :: rest) = (read? rest).map (ofChar c :: ·) := by
  rw [read?.eq_def]
  simp [hc]

@[simp]
theorem read?_percent (rest : List Char) :
    read? ('%' :: rest) = (read? rest).map (.anyText :: ·) :=
  read?_cons (by decide) rest

@[simp]
theorem read?_underscore (rest : List Char) :
    read? ('_' :: rest) = (read? rest).map (.anyChar :: ·) :=
  read?_cons (by decide) rest

theorem ofChar_eq_exactly {c : Char} (hanyText : c ≠ '%')
    (hanyChar : c ≠ '_') : ofChar c = .exactly c := by
  unfold ofChar
  rw [if_neg hanyText, if_neg hanyChar]

/-- An escaped text is read as the text itself, whatever comes after it. -/
theorem read?_escapeLike_append (text rest : List Char) :
    read? (escapeLike text ++ rest) =
      (read? rest).map (text.map .exactly ++ ·) := by
  induction text with
  | nil => simp [escapeLike]
  | cons c text ih =>
      have hhead : read? (escapeLike (c :: text) ++ rest) =
          (read? (escapeLike text ++ rest)).map (.exactly c :: ·) := by
        by_cases hspecial : c = escapeChar ∨ c = '%' ∨ c = '_'
        · simp [escapeLike, hspecial]
        · obtain ⟨hescape, hanyText, hanyChar⟩ :
              c ≠ escapeChar ∧ c ≠ '%' ∧ c ≠ '_' := by
            simpa only [not_or] using hspecial
          rw [← ofChar_eq_exactly hanyText hanyChar, ← read?_cons hescape]
          simp [escapeLike, hspecial]
      rw [hhead, ih, Option.map_map]
      rfl

/-- An end of a pattern at which anything may stand, if it is open. -/
def ofEnd (isOpen : Bool) : List PatternItem :=
  if isOpen then [.anyText] else []

theorem read?_likePattern (openStart openEnd : Bool) (text : List Char) :
    read? (likePattern openStart openEnd text) =
      some (ofEnd openStart ++ (text.map .exactly ++ ofEnd openEnd)) := by
  have htail : read? (escapeLike text ++ (if openEnd then ['%'] else [])) =
      some (text.map .exactly ++ ofEnd openEnd) := by
    rw [read?_escapeLike_append]
    cases openEnd <;> simp [ofEnd]
  unfold likePattern
  rw [List.append_assoc]
  cases openStart with
  | true => simp [htail, ofEnd]
  | false => simpa [ofEnd] using htail

/-! ## Matching -/

@[simp]
theorem allows_nil (text : List Char) : allows [] text = true ↔ text = [] := by
  unfold allows
  exact List.isEmpty_iff

@[simp]
theorem allows_anyText (items : List PatternItem) (text : List Char) :
    allows (.anyText :: items) text = true ↔
      ∃ before after, text = before ++ after ∧ allows items after = true := by
  rw [allows, List.any_eq_true]
  constructor
  · rintro ⟨after, hmem, hallow⟩
    obtain ⟨before, hsplit⟩ := (List.mem_tails ..).mp hmem
    exact ⟨before, after, hsplit.symm, hallow⟩
  · rintro ⟨before, after, rfl, hallow⟩
    exact
      ⟨after, (List.mem_tails ..).mpr (List.suffix_append before after), hallow⟩

@[simp]
theorem allows_anyChar (items : List PatternItem) (text : List Char) :
    allows (.anyChar :: items) text = true ↔
      ∃ c after, text = c :: after ∧ allows items after = true := by
  cases text with
  | nil => simp [allows]
  | cons c text => simp [allows]

@[simp]
theorem allows_exactly (c : Char) (items : List PatternItem)
    (text : List Char) :
    allows (.exactly c :: items) text = true ↔
      ∃ after, text = c :: after ∧ allows items after = true := by
  cases text with
  | nil => simp [allows]
  | cons d text =>
      simp only [allows, Bool.and_eq_true, beq_iff_eq, List.cons.injEq]
      constructor
      · rintro ⟨rfl, hallow⟩
        exact ⟨text, ⟨rfl, rfl⟩, hallow⟩
      · rintro ⟨after, ⟨rfl, rfl⟩, hallow⟩
        exact ⟨rfl, hallow⟩

theorem allows_exactly_append (expected : List Char) (items : List PatternItem)
    (text : List Char) :
    allows (expected.map .exactly ++ items) text = true ↔
      ∃ after, text = expected ++ after ∧ allows items after = true := by
  induction expected generalizing text with
  | nil => simp
  | cons c expected ih =>
      rw [List.map_cons, List.cons_append, allows_exactly]
      simp only [ih]
      constructor
      · rintro ⟨_, rfl, after, rfl, hallow⟩
        exact ⟨after, rfl, hallow⟩
      · rintro ⟨after, rfl, hallow⟩
        exact ⟨expected ++ after, rfl, after, rfl, hallow⟩

theorem allows_ofEnd_append (isOpen : Bool) (items : List PatternItem)
    (text : List Char) :
    allows (ofEnd isOpen ++ items) text = true ↔
      ∃ before after, text = before ++ after ∧ (isOpen = false → before = []) ∧
        allows items after = true := by
  cases isOpen with
  | true => simp [ofEnd]
  | false => simp [ofEnd]

theorem allows_ofEnd (isOpen : Bool) (text : List Char) :
    allows (ofEnd isOpen) text = true ↔ (isOpen = false → text = []) := by
  have hallow := allows_ofEnd_append isOpen [] text
  simpa using hallow

end PatternItem

/-- The pattern of a text is always readable, and it allows the texts that
consist of this text with anything before its start or after its end, where the
pattern is open. -/
theorem like?_likePattern (openStart openEnd : Bool)
    (expected actual : List Char) :
    ∃ answer,
      like? actual (likePattern openStart openEnd expected) = some answer ∧
      (answer = true ↔
        ∃ before after, actual = before ++ (expected ++ after) ∧
          (openStart = false → before = []) ∧
            (openEnd = false → after = [])) := by
  refine ⟨_, by rw [like?, PatternItem.read?_likePattern]; rfl, ?_⟩
  simp only [PatternItem.allows_ofEnd_append, PatternItem.allows_exactly_append,
    PatternItem.allows_ofEnd]
  constructor
  · rintro ⟨before, _, rfl, hstart, after, rfl, hend⟩
    exact ⟨before, after, rfl, hstart, hend⟩
  · rintro ⟨before, after, rfl, hstart, hend⟩
    exact ⟨before, expected ++ after, rfl, hstart, after, rfl, hend⟩

end RecordFilter.Sql

/-! ## The textual operators -/

namespace RecordFilter.Operator

theorem occursIn_iff {part text : List Char} :
    occursIn part text = true ↔
      ∃ before after, text = before ++ (part ++ after) := by
  induction text with
  | nil => simp [occursIn]
  | cons c rest ih =>
      simp only [occursIn, Bool.or_eq_true, List.isPrefixOf_iff_prefix, ih]
      constructor
      · rintro (⟨after, hbegins⟩ | ⟨before, after, rfl⟩)
        · exact ⟨[], after, hbegins.symm⟩
        · exact ⟨c :: before, after, rfl⟩
      · rintro ⟨before, after, hsplit⟩
        cases before with
        | nil => exact .inl ⟨after, hsplit.symm⟩
        | cons d before =>
            obtain ⟨rfl, hrest⟩ := List.cons.inj hsplit
            exact .inr ⟨before, after, hrest⟩

theorem occursIn_iff_infix {part text : List Char} :
    occursIn part text = true ↔ part <:+: text := by
  rw [occursIn_iff]
  constructor
  · rintro ⟨before, after, rfl⟩
    exact ⟨before, after, List.append_assoc before part after⟩
  · rintro ⟨before, after, rfl⟩
    exact ⟨before, after, List.append_assoc before part after⟩

/-- A textual operator says of two texts what its pattern says. -/
theorem holdsTextual_iff {op : Operator} {openStart openEnd : Bool}
    (htest : Sql.Test.ofOperator op = .pattern openStart openEnd)
    (actual expected : List Char) :
    op.holdsTextual actual expected = true ↔
      ∃ before after, actual = before ++ (expected ++ after) ∧
        (openStart = false → before = []) ∧ (openEnd = false → after = []) := by
  cases op with
  | greater | greaterOrEqual | less | lessOrEqual | equal | notEqual =>
      simp [Sql.Test.ofOperator] at htest
  | startsWith =>
      obtain ⟨rfl, rfl⟩ := Sql.Test.pattern.inj htest
      simp only [holdsTextual, List.isPrefixOf_iff_prefix]
      constructor
      · rintro ⟨after, rfl⟩
        exact ⟨[], after, rfl, by simp, by simp⟩
      · rintro ⟨before, after, rfl, hstart, -⟩
        obtain rfl := hstart trivial
        exact List.prefix_append expected after
  | endsWith =>
      obtain ⟨rfl, rfl⟩ := Sql.Test.pattern.inj htest
      simp only [holdsTextual, List.isSuffixOf_iff_suffix]
      constructor
      · rintro ⟨before, rfl⟩
        exact ⟨before, [], by simp, by simp, by simp⟩
      · rintro ⟨before, after, rfl, -, hend⟩
        obtain rfl := hend trivial
        rw [List.append_nil]
        exact List.suffix_append before expected
  | contains =>
      obtain ⟨rfl, rfl⟩ := Sql.Test.pattern.inj htest
      simp [holdsTextual, occursIn_iff]

theorem like?_likePattern_of_test {op : Operator} {openStart openEnd : Bool}
    (htest : Sql.Test.ofOperator op = .pattern openStart openEnd)
    (actual expected : List Char) :
    Sql.like? actual (Sql.likePattern openStart openEnd expected) =
      some (op.holdsTextual actual expected) := by
  obtain ⟨answer, hlike, hanswer⟩ :=
    Sql.like?_likePattern openStart openEnd expected actual
  have hsame : answer = op.holdsTextual actual expected := by
    rw [Bool.eq_iff_iff, hanswer, holdsTextual_iff htest]
  rw [hlike, hsame]

end RecordFilter.Operator

import RecordFilter.Proofs.Sql.Pattern

/-!
# Escaping

The rules of LIKE on patterns as they are written, and the patterns that break
off within an escape. Reading a pattern into items decides both: it fails for
the patterns that break off, and the items of all others allow the texts that
the rules match. An escaped text matches itself and nothing else. With wildcards
beside it, it asks for the texts that start with it, end with it or contain it.
-/

namespace RecordFilter.Sql

/-- The rules of LIKE. The wildcards stand for any text and for any one
character. An escaped character stands for itself, and so does each character
that has no special meaning. -/
inductive Matches : List Char → List Char → Prop
  | nil : Matches [] []
  | anyText (before : List Char) {pattern after : List Char}
    (hrest : Matches pattern after) : Matches ('%' :: pattern) (before ++ after)
  | anyChar (c : Char) {pattern text : List Char}
    (hrest : Matches pattern text) : Matches ('_' :: pattern) (c :: text)
  | escaped (c : Char) {pattern text : List Char}
    (hrest : Matches pattern text) :
    Matches (escapeChar :: c :: pattern) (c :: text)
  | plain {c : Char} (hescape : c ≠ escapeChar) (hanyText : c ≠ '%')
    (hanyChar : c ≠ '_') {pattern text : List Char}
    (hrest : Matches pattern text) : Matches (c :: pattern) (c :: text)

/-- The pattern ends with an escape character that is not escaped and has
nothing to escape. -/
inductive Dangles : List Char → Prop
  | last : Dangles [escapeChar]
  | escaped (c : Char) {pattern : List Char} (hrest : Dangles pattern) :
    Dangles (escapeChar :: c :: pattern)
  | unescaped {c : Char} (hescape : c ≠ escapeChar) {pattern : List Char}
    (hrest : Dangles pattern) : Dangles (c :: pattern)

/-! ## The rules and the items of a pattern -/

namespace PatternItem

theorem read?_eq_none_iff {pattern : List Char} :
    read? pattern = none ↔ Dangles pattern := by
  constructor
  · intro hread
    induction pattern using read?.induct with
    | case1 => simp at hread
    | case2 => exact .last
    | case3 c rest ih =>
        rw [read?_escapeChar, Option.map_eq_none_iff] at hread
        exact .escaped c (ih hread)
    | case4 c rest hescape ih =>
        rw [read?_cons hescape, Option.map_eq_none_iff] at hread
        exact .unescaped hescape (ih hread)
  · intro hdangles
    induction hdangles with
    | last => exact read?_openEscape
    | escaped c hrest ih => rw [read?_escapeChar, ih, Option.map_none]
    | unescaped hescape hrest ih => rw [read?_cons hescape, ih, Option.map_none]

theorem exists_allows_of_matches {pattern text : List Char}
    (hmatches : Matches pattern text) :
    ∃ items, read? pattern = some items ∧ allows items text = true := by
  induction hmatches with
  | nil => exact ⟨[], by simp⟩
  | anyText before hrest ih =>
      obtain ⟨items, hread, hallow⟩ := ih
      refine ⟨.anyText :: items, by simp [hread], ?_⟩
      rw [allows_anyText]
      exact ⟨before, _, rfl, hallow⟩
  | anyChar c hrest ih =>
      obtain ⟨items, hread, hallow⟩ := ih
      exact ⟨.anyChar :: items, by simp [hread], by simpa using hallow⟩
  | escaped c hrest ih =>
      obtain ⟨items, hread, hallow⟩ := ih
      exact ⟨.exactly c :: items, by simp [hread], by simpa using hallow⟩
  | @plain c hescape hanyText hanyChar _ _ hrest ih =>
      obtain ⟨items, hread, hallow⟩ := ih
      refine ⟨.exactly c :: items, ?_, by simpa using hallow⟩
      rw [read?_cons hescape, ofChar_eq_exactly hanyText hanyChar, hread,
        Option.map_some]

theorem matches_of_allows {pattern text : List Char} {items : List PatternItem}
    (hread : read? pattern = some items) (hallow : allows items text = true) :
    Matches pattern text := by
  induction pattern using read?.induct generalizing items text with
  | case1 =>
      rw [read?_nil] at hread
      obtain rfl := Option.some.inj hread
      obtain rfl := (allows_nil text).mp hallow
      exact .nil
  | case2 => simp at hread
  | case3 c rest ih =>
      rw [read?_escapeChar] at hread
      obtain ⟨items, hrest, rfl⟩ := Option.map_eq_some_iff.mp hread
      obtain ⟨after, rfl, hafter⟩ := (allows_exactly c items text).mp hallow
      exact .escaped c (ih hrest hafter)
  | case4 c rest hescape ih =>
      rw [read?_cons hescape] at hread
      obtain ⟨items, hrest, rfl⟩ := Option.map_eq_some_iff.mp hread
      by_cases hanyText : c = '%'
      · subst hanyText
        obtain ⟨before, after, rfl, hafter⟩ :=
          (allows_anyText items text).mp hallow
        exact .anyText before (ih hrest hafter)
      by_cases hanyChar : c = '_'
      · subst hanyChar
        obtain ⟨d, after, rfl, hafter⟩ := (allows_anyChar items text).mp hallow
        exact .anyChar d (ih hrest hafter)
      rw [ofChar_eq_exactly hanyText hanyChar] at hallow
      obtain ⟨after, rfl, hafter⟩ := (allows_exactly c items text).mp hallow
      exact .plain hescape hanyText hanyChar (ih hrest hafter)

end PatternItem

theorem like?_eq_some_true_iff {pattern text : List Char} :
    like? text pattern = some true ↔ Matches pattern text := by
  rw [like?, Option.map_eq_some_iff]
  constructor
  · rintro ⟨items, hread, hallow⟩
    exact PatternItem.matches_of_allows hread hallow
  · exact PatternItem.exists_allows_of_matches

theorem like?_eq_none_iff {pattern text : List Char} :
    like? text pattern = none ↔ Dangles pattern := by
  rw [like?, Option.map_eq_none_iff, PatternItem.read?_eq_none_iff]

instance (pattern text : List Char) : Decidable (Matches pattern text) :=
  decidable_of_iff (like? text pattern = some true) like?_eq_some_true_iff

/-! ## The patterns of a text -/

theorem matches_likePattern (openStart openEnd : Bool)
    (expected actual : List Char) :
    Matches (likePattern openStart openEnd expected) actual ↔
      ∃ before after, actual = before ++ (expected ++ after) ∧
        (openStart = false → before = []) ∧ (openEnd = false → after = []) := by
  obtain ⟨answer, hlike, hanswer⟩ :=
    like?_likePattern openStart openEnd expected actual
  rw [← like?_eq_some_true_iff, hlike, Option.some.injEq, hanswer]

theorem not_dangles_likePattern (openStart openEnd : Bool) (text : List Char) :
    ¬Dangles (likePattern openStart openEnd text) := by
  intro hdangles
  obtain ⟨answer, hlike, -⟩ := like?_likePattern openStart openEnd text []
  rw [like?_eq_none_iff.mpr hdangles] at hlike
  contradiction

theorem likePattern_closed (text : List Char) :
    likePattern false false text = escapeLike text := by
  simp [likePattern]

theorem matches_escapeLike {expected actual : List Char} :
    Matches (escapeLike expected) actual ↔ actual = expected := by
  rw [← likePattern_closed, matches_likePattern]
  simp

/-- The pattern of a textual operator matches the texts of which the operator
holds. -/
theorem matches_likePattern_of_test {op : Operator} {openStart openEnd : Bool}
    (htest : Test.ofOperator op = .pattern openStart openEnd)
    (expected actual : List Char) :
    Matches (likePattern openStart openEnd expected) actual ↔
      op.holdsTextual actual expected = true := by
  rw [matches_likePattern, Operator.holdsTextual_iff htest]

theorem matches_escapeLike_anyText {expected actual : List Char} :
    Matches (escapeLike expected ++ ['%']) actual ↔ expected <+: actual := by
  have htest : Test.ofOperator .startsWith = .pattern false true := rfl
  have hpattern := matches_likePattern_of_test htest expected actual
  rw [Operator.holdsTextual, List.isPrefixOf_iff_prefix] at hpattern
  exact hpattern

theorem matches_anyText_escapeLike {expected actual : List Char} :
    Matches ('%' :: escapeLike expected) actual ↔ expected <:+ actual := by
  have htest : Test.ofOperator .endsWith = .pattern true false := rfl
  have hpattern := matches_likePattern_of_test htest expected actual
  rw [Operator.holdsTextual, List.isSuffixOf_iff_suffix] at hpattern
  simpa [likePattern] using hpattern

theorem matches_anyText_escapeLike_anyText {expected actual : List Char} :
    Matches ('%' :: (escapeLike expected ++ ['%'])) actual ↔
      expected <:+: actual := by
  have htest : Test.ofOperator .contains = .pattern true true := rfl
  have hpattern := matches_likePattern_of_test htest expected actual
  rw [Operator.holdsTextual, Operator.occursIn_iff_infix] at hpattern
  exact hpattern

theorem escapeLike_injective : Function.Injective escapeLike := by
  intro left right hescaped
  -- An escaped text tells which text it is, because it matches no other one.
  have hself : Matches (escapeLike left) left := matches_escapeLike.mpr rfl
  rw [hescaped] at hself
  exact matches_escapeLike.mp hself

/-- An escaped text matches only itself, and wildcards beside it ask for the
texts that start with it, end with it or contain it. No escaped text breaks off
within an escape, and different texts are escaped differently. -/
theorem matches_escapeLike_exactly :
    (∀ expected actual,
      (Matches (escapeLike expected) actual ↔ actual = expected) ∧
      (Matches (escapeLike expected ++ ['%']) actual ↔ expected <+: actual) ∧
      (Matches ('%' :: escapeLike expected) actual ↔ expected <:+ actual) ∧
      (Matches ('%' :: (escapeLike expected ++ ['%'])) actual ↔
        expected <:+: actual)) ∧
    (∀ text, ¬Dangles (escapeLike text)) ∧
    Function.Injective escapeLike := by
  refine ⟨fun expected actual => ?_, fun text => ?_, escapeLike_injective⟩
  · exact ⟨matches_escapeLike, matches_escapeLike_anyText,
      matches_anyText_escapeLike, matches_anyText_escapeLike_anyText⟩
  · rw [← likePattern_closed]
    exact not_dangles_likePattern false false text

end RecordFilter.Sql

import Mathlib.Data.List.Basic
import RecordFilter.Filter.Sql

/-!
# Reading SQL conditions back

A written condition can be read in one way only. A condition is either a test of
one column or two conditions joined between brackets; the first character tells
which. The name of a column ends at the first quote that is not doubled, no way
to go on after a column is the beginning of another one, and a joined condition
is read part by part. So not only whole conditions but also the beginnings of
longer texts are read uniquely, which is what the induction over conditions
carries.
-/

namespace RecordFilter.Sql

/-! ## The two shapes of a condition -/

inductive ColumnTest where
  | compare (relation : Relation)
  | like
  | isNull
  deriving DecidableEq

namespace ColumnTest

def all : List ColumnTest :=
  [.compare .greater, .compare .greaterOrEqual, .compare .less,
    .compare .lessOrEqual, .compare .equal, .compare .notEqual, .like, .isNull]

theorem mem_all (test : ColumnTest) : test ∈ all := by
  cases test with
  | compare relation => cases relation <;> decide
  | like => decide
  | isNull => decide

def condition (column : String) : ColumnTest → Condition
  | .compare relation => .compare column relation
  | .like => .like column
  | .isNull => .isNull column

/-- What is written after the column. -/
def ending : ColumnTest → String
  | .compare relation => " " ++ relation.lexeme ++ " ?"
  | .like => " LIKE ? ESCAPE '\\'"
  | .isNull => " IS NULL"

end ColumnTest

/-- What is written between joined conditions. -/
def joinWord : Connective → List Char
  | .and => " AND ".toList
  | .or => " OR ".toList

theorem Condition.induction_shape {motive : Condition → Prop}
    (test : ∀ column test, motive (ColumnTest.condition column test))
    (joined : ∀ connective left right, motive left → motive right →
      motive (joinConditions connective left right)) (condition : Condition) :
    motive condition := by
  induction condition with
  | compare column relation => exact test column (.compare relation)
  | like column => exact test column .like
  | isNull column => exact test column .isNull
  | and left right ihLeft ihRight => exact joined .and left right ihLeft ihRight
  | or left right ihLeft ihRight => exact joined .or left right ihLeft ihRight

/-- A character of a name between quotes. -/
def quoteChar (c : Char) : List Char := if c = '"' then ['"', '"'] else [c]

/-- A name with its quotes doubled. -/
def doubleQuotes (name : List Char) : List Char := name.flatMap quoteChar

theorem doubleQuotes_cons (c : Char) (name : List Char) :
    doubleQuotes (c :: name) = quoteChar c ++ doubleQuotes name :=
  List.flatMap_cons

theorem quoteIdentifier_toList (column : String) :
    (quoteIdentifier column).toList =
      '"' :: (doubleQuotes column.toList ++ ['"']) := by
  unfold quoteIdentifier doubleQuotes
  rw [String.toList_ofList]
  rfl

theorem render_condition (column : String) (test : ColumnTest) :
    (test.condition column).render.toList =
      '"' :: (doubleQuotes column.toList ++ '"' :: test.ending.toList) := by
  have hrender :
      (test.condition column).render =
        quoteIdentifier column ++ test.ending := by
    cases test with
    | compare relation =>
        show quoteIdentifier column ++ " " ++ relation.lexeme ++ " ?" =
          quoteIdentifier column ++ (" " ++ relation.lexeme ++ " ?")
        rw [String.append_assoc, String.append_assoc, String.append_assoc]
    | like => rfl
    | isNull => rfl
  rw [hrender, String.toList_append, quoteIdentifier_toList]
  simp

theorem render_joinConditions (connective : Connective)
    (left right : Condition) :
    (joinConditions connective left right).render.toList =
      '(' ::
        (left.render.toList ++
          (joinWord connective ++ (right.render.toList ++ [')']))) := by
  cases connective with
  | and => simp [joinConditions, Condition.render, joinWord]
  | or => simp [joinConditions, Condition.render, joinWord]

/-! ## Reading the parts -/

theorem quoteChar_append_inj {c d : Char} {left right : List Char}
    (heq : quoteChar c ++ left = quoteChar d ++ right) :
    c = d ∧ left = right := by
  have hhead : ∀ (e : Char) (rest : List Char),
      (quoteChar e ++ rest).head? = some e := by
    intro e rest
    unfold quoteChar
    by_cases hquote : e = '"'
    · rw [if_pos hquote, hquote]
      rfl
    · rw [if_neg hquote]
      rfl
  have hheads := hhead c left
  rw [heq, hhead d right] at hheads
  have hsame := Option.some.inj hheads
  subst hsame
  exact ⟨rfl, List.append_cancel_left heq⟩

/-- A quote that is not followed by another one is no character of a name. -/
theorem quoteChar_append_ne {rest : List Char} (hrest : rest.head? ≠ some '"')
    (c : Char) (further : List Char) :
    quoteChar c ++ further ≠ '"' :: rest := by
  intro heq
  unfold quoteChar at heq
  by_cases hquote : c = '"'
  · rw [if_pos hquote] at heq
    have htail := (List.cons.inj heq).2
    rw [← htail] at hrest
    exact hrest rfl
  · rw [if_neg hquote] at heq
    exact hquote (List.cons.inj heq).1

theorem doubleQuotes_append_inj {left right restLeft restRight : List Char}
    (hleft : restLeft.head? ≠ some '"') (hright : restRight.head? ≠ some '"')
    (heq :
      doubleQuotes left ++ '"' :: restLeft =
        doubleQuotes right ++ '"' :: restRight) :
    left = right ∧ restLeft = restRight := by
  induction left generalizing right with
  | nil =>
      cases right with
      | nil => exact ⟨rfl, (List.cons.inj heq).2⟩
      | cons d right =>
          rw [doubleQuotes_cons, List.append_assoc] at heq
          exact absurd heq.symm (quoteChar_append_ne hleft d _)
  | cons c left ih =>
      cases right with
      | nil =>
          rw [doubleQuotes_cons, List.append_assoc] at heq
          exact absurd heq (quoteChar_append_ne hright c _)
      | cons d right =>
          rw [doubleQuotes_cons, doubleQuotes_cons, List.append_assoc,
            List.append_assoc] at heq
          obtain ⟨hchar, htail⟩ := quoteChar_append_inj heq
          obtain ⟨hname, hrest⟩ := ih htail
          rw [hchar, hname]
          exact ⟨rfl, hrest⟩

theorem ending_prefix_imp_eq {left right : ColumnTest}
    (hbegins : left.ending.toList <+: right.ending.toList) : left = right := by
  have htable : ∀ left ∈ ColumnTest.all, ∀ right ∈ ColumnTest.all,
      left.ending.toList <+: right.ending.toList → left = right := by
    decide
  exact htable left left.mem_all right right.mem_all hbegins

theorem ending_append_inj {left right : ColumnTest}
    {restLeft restRight : List Char}
    (heq : left.ending.toList ++ restLeft = right.ending.toList ++ restRight) :
    left = right ∧ restLeft = restRight := by
  have hleft : left.ending.toList <+: right.ending.toList ++ restRight :=
    ⟨restLeft, heq⟩
  have hsame : left = right := by
    rcases List.prefix_or_prefix_of_prefix hleft (List.prefix_append _ _) with
      hbegins | hbegins
    · exact ending_prefix_imp_eq hbegins
    · exact (ending_prefix_imp_eq hbegins).symm
  subst hsame
  exact ⟨rfl, List.append_cancel_left heq⟩

/-- After a column the text goes on with a blank, so the quote before it is not
a doubled one. -/
theorem head?_ending_append (test : ColumnTest) (rest : List Char) :
    (test.ending.toList ++ rest).head? = some ' ' := by
  have htable :
      ∀ test ∈ ColumnTest.all, test.ending.toList.head? = some ' ' := by
    decide
  rw [List.head?_append, htable test test.mem_all]
  rfl

theorem joinWord_append_inj {left right : Connective}
    {restLeft restRight : List Char}
    (heq : joinWord left ++ restLeft = joinWord right ++ restRight) :
    left = right ∧ restLeft = restRight := by
  cases left with
  | and =>
      cases right with
      | and => exact ⟨rfl, List.append_cancel_left heq⟩
      | or => simp [joinWord] at heq
  | or =>
      cases right with
      | and => simp [joinWord] at heq
      | or => exact ⟨rfl, List.append_cancel_left heq⟩

/-! ## Reading whole conditions -/

theorem Condition.eq_of_render_append {left right : Condition}
    {restLeft restRight : List Char}
    (heq : left.render.toList ++ restLeft = right.render.toList ++ restRight) :
    left = right ∧ restLeft = restRight := by
  induction left using Condition.induction_shape
    generalizing right restLeft restRight with
  | test column test =>
      cases right using Condition.induction_shape with
      | test otherColumn otherTest =>
          simp only [render_condition, List.cons_append, List.append_assoc,
            List.cons.injEq, true_and] at heq
          obtain ⟨hcolumn, hending⟩ := doubleQuotes_append_inj
            (by rw [head?_ending_append]; decide)
            (by rw [head?_ending_append]; decide) heq
          obtain rfl := String.toList_inj.mp hcolumn
          obtain ⟨rfl, hrest⟩ := ending_append_inj hending
          exact ⟨rfl, hrest⟩
      | joined connective first second =>
          rw [render_condition, render_joinConditions] at heq
          simp at heq
  | joined connective first second ihFirst ihSecond =>
      cases right using Condition.induction_shape with
      | test otherColumn otherTest =>
          rw [render_condition, render_joinConditions] at heq
          simp at heq
      | joined otherConnective otherFirst otherSecond =>
          simp only [render_joinConditions, List.cons_append, List.append_assoc,
            List.cons.injEq, true_and] at heq
          obtain ⟨rfl, hjoin⟩ := ihFirst heq
          obtain ⟨rfl, hsecond⟩ := joinWord_append_inj hjoin
          obtain ⟨rfl, hclosing⟩ := ihSecond hsecond
          exact ⟨rfl, (List.cons.inj hclosing).2⟩

theorem Condition.render_injective {left right : Condition}
    (heq : left.render = right.render) : left = right := by
  have htexts : left.render.toList ++ [] = right.render.toList ++ [] := by
    rw [heq]
  exact (Condition.eq_of_render_append htexts).1

end RecordFilter.Sql

import RecordFilter.Proofs.Sql.Rendering

/-!
# The grammar of SQL conditions

The texts of conditions, apart from the program that writes them: a column is a
name between double quotes, a test is written after the column, and joined
conditions stand between brackets. Every condition has one text, and it is the
one that is written.
-/

namespace RecordFilter.Sql

/-- The text of a name between double quotes, within which a quote is written
twice. -/
inductive IsInner : List Char → List Char → Prop
  | nil : IsInner [] []
  | quote {name text : List Char} (hrest : IsInner name text) :
    IsInner ('"' :: name) ('"' :: '"' :: text)
  | other {c : Char} {name text : List Char} (hc : c ≠ '"')
    (hrest : IsInner name text) : IsInner (c :: name) (c :: text)

/-- The text stands for the column. -/
def IsIdentifier (column text : String) : Prop :=
  ∃ inner, IsInner column.toList inner ∧
    text = "\"" ++ String.ofList inner ++ "\""

/-- The sign stands for the relation. -/
inductive IsSign : Relation → String → Prop
  | greater : IsSign .greater ">"
  | greaterOrEqual : IsSign .greaterOrEqual ">="
  | less : IsSign .less "<"
  | lessOrEqual : IsSign .lessOrEqual "<="
  | equal : IsSign .equal "="
  | notEqual : IsSign .notEqual "<>"

/-- The text stands for the condition. -/
inductive Condition.IsText : Condition → String → Prop
  | compare {column identifier sign : String} {relation : Relation}
    (hcolumn : IsIdentifier column identifier) (hsign : IsSign relation sign) :
    IsText (.compare column relation) (identifier ++ " " ++ sign ++ " ?")
  | like {column identifier : String}
    (hcolumn : IsIdentifier column identifier) :
    IsText (.like column) (identifier ++ " LIKE ? ESCAPE '\\'")
  | isNull {column identifier : String}
    (hcolumn : IsIdentifier column identifier) :
    IsText (.isNull column) (identifier ++ " IS NULL")
  | and {left right : Condition} {leftText rightText : String}
    (hleft : left.IsText leftText) (hright : right.IsText rightText) :
    IsText (.and left right) ("(" ++ leftText ++ " AND " ++ rightText ++ ")")
  | or {left right : Condition} {leftText rightText : String}
    (hleft : left.IsText leftText) (hright : right.IsText rightText) :
    IsText (.or left right) ("(" ++ leftText ++ " OR " ++ rightText ++ ")")

/-! ## What is written -/

theorem isInner_iff {name text : List Char} :
    IsInner name text ↔ text = doubleQuotes name := by
  constructor
  · intro hinner
    induction hinner with
    | nil => rfl
    | quote hrest ih =>
        rw [ih, doubleQuotes_cons, quoteChar, if_pos rfl]
        rfl
    | other hc hrest ih =>
        rw [ih, doubleQuotes_cons, quoteChar, if_neg hc]
        rfl
  · rintro rfl
    induction name with
    | nil => exact .nil
    | cons c name ih =>
        rw [doubleQuotes_cons, quoteChar]
        by_cases hquote : c = '"'
        · rw [if_pos hquote, hquote]
          exact .quote ih
        · rw [if_neg hquote]
          exact .other hquote ih

theorem isIdentifier_iff {column text : String} :
    IsIdentifier column text ↔ text = quoteIdentifier column := by
  have hquoted : quoteIdentifier column =
      "\"" ++ String.ofList (doubleQuotes column.toList) ++ "\"" := by
    apply String.toList_injective
    rw [quoteIdentifier_toList]
    simp
  simp only [IsIdentifier, isInner_iff, exists_eq_left, hquoted]

theorem isSign_iff {relation : Relation} {sign : String} :
    IsSign relation sign ↔ sign = relation.lexeme := by
  constructor
  · intro hsign
    cases hsign <;> rfl
  · rintro rfl
    cases relation <;> constructor

/-- What is written for a condition is a text of it. -/
theorem Condition.isText_render (condition : Condition) :
    condition.IsText condition.render := by
  induction condition with
  | compare column relation =>
      exact .compare (isIdentifier_iff.mpr rfl) (isSign_iff.mpr rfl)
  | like column => exact .like (isIdentifier_iff.mpr rfl)
  | isNull column => exact .isNull (isIdentifier_iff.mpr rfl)
  | and left right ihLeft ihRight => exact .and ihLeft ihRight
  | or left right ihLeft ihRight => exact .or ihLeft ihRight

theorem Condition.IsText.eq_render {condition : Condition} {text : String}
    (htext : condition.IsText text) : text = condition.render := by
  induction htext with
  | compare hcolumn hsign =>
      rw [isIdentifier_iff.mp hcolumn, isSign_iff.mp hsign, render]
  | like hcolumn => rw [isIdentifier_iff.mp hcolumn, render]
  | isNull hcolumn => rw [isIdentifier_iff.mp hcolumn, render]
  | and hleft hright ihLeft ihRight => rw [ihLeft, ihRight, render]
  | or hleft hright ihLeft ihRight => rw [ihLeft, ihRight, render]

/-- A text stands for one condition only. -/
theorem Condition.IsText.unique {condition other : Condition} {text : String}
    (hother : other.IsText text) (hcondition : condition.IsText text) :
    other = condition :=
  render_injective (hother.eq_render.symm.trans hcondition.eq_render)

end RecordFilter.Sql

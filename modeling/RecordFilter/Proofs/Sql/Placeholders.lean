import RecordFilter.Proofs.Filter.Typing
import RecordFilter.Proofs.Sql.Rendering

/-!
# The question marks of a clause

The text of a condition depends on columns and operators only. It has a question
mark for every parameter and none besides, since the names of columns have none.
-/

namespace RecordFilter.Sql

def placeholders (text : String) : Nat := text.toList.count '?'

/-- The number of parameters that a test takes. -/
def ColumnTest.arity : ColumnTest → Nat
  | .compare _ | .like => 1
  | .isNull => 0

theorem placeholders_ending (test : ColumnTest) :
    placeholders test.ending = test.arity := by
  cases test with
  | compare relation => cases relation <;> decide
  | like => decide
  | isNull => decide

theorem questionMark_notMem_doubleQuotes {name : List Char}
    (hname : '?' ∉ name) : '?' ∉ doubleQuotes name := by
  intro hmem
  obtain ⟨c, hc, hmark⟩ := List.mem_flatMap.mp hmem
  unfold quoteChar at hmark
  split at hmark
  · simp at hmark
  · obtain rfl := List.mem_singleton.mp hmark
    exact hname hc

theorem placeholders_condition {column : String}
    (hcolumn : '?' ∉ column.toList) (test : ColumnTest) :
    placeholders (test.condition column).render = test.arity := by
  have hname : (doubleQuotes column.toList).count '?' = 0 :=
    List.count_eq_zero.mpr (questionMark_notMem_doubleQuotes hcolumn)
  rw [← placeholders_ending, placeholders, render_condition]
  simp [placeholders, hname]

theorem placeholders_joinConditions (connective : Connective)
    (left right : Condition) :
    placeholders (joinConditions connective left right).render =
      placeholders left.render + placeholders right.render := by
  have hword : (joinWord connective).count '?' = 0 := by
    cases connective <;> decide
  rw [placeholders, render_joinConditions]
  simp [placeholders, hword]

/-! ## Single comparisons -/

theorem condition_ofComparison (column : String) (op : Operator)
    (value other : Value) :
    (ofComparison column op value).condition =
      (ofComparison column op other).condition := by
  unfold ofComparison
  split <;> rfl

theorem length_parameters_ofComparison (column : String) (op : Operator)
    (value : Value) : (ofComparison column op value).parameters.length = 1 := by
  unfold ofComparison
  split <;> rfl

theorem placeholders_ofComparison {column : String}
    (hcolumn : '?' ∉ column.toList) (op : Operator) (value : Value) :
    placeholders (ofComparison column op value).clause = 1 := by
  unfold ofComparison
  split
  · -- A test for inequality also asks for NULL, which takes no parameter.
    have hjoined := placeholders_joinConditions .or
      (ColumnTest.condition column (.compare .notEqual))
      (ColumnTest.condition column .isNull)
    rw [placeholders_condition hcolumn, placeholders_condition hcolumn]
      at hjoined
    exact hjoined
  · exact placeholders_condition hcolumn (.compare _)
  · exact placeholders_condition hcolumn .like

end RecordFilter.Sql

namespace RecordFilter

variable {α : Type}

theorem IsFieldName.questionMark_notMem {name : String}
    (hname : IsFieldName name) : '?' ∉ name.toList := by
  intro hmem
  have hmark := hname.2 '?' hmem
  contradiction

theorem Filter.length_parameters_toSql (filter : Filter α) :
    filter.toSql.parameters.length = filter.comparisons.length := by
  induction filter with
  | comparison leaf => exact Sql.length_parameters_ofComparison _ _ _
  | logical connective left right ihLeft ihRight =>
      simp only [toSql, comparisons, List.length_append, ihLeft, ihRight]

theorem Filter.placeholders_clause {filter : Filter α}
    (hnames : ∀ leaf ∈ filter.comparisons, '?' ∉ leaf.field.name.toList) :
    Sql.placeholders filter.toSql.clause = filter.comparisons.length := by
  induction filter with
  | comparison leaf =>
      exact Sql.placeholders_ofComparison
        (hnames leaf (List.mem_singleton_self leaf)) _ _
  | logical connective left right ihLeft ihRight =>
      have hleft := ihLeft fun leaf hmem =>
        hnames leaf (List.mem_append_left _ hmem)
      have hright := ihRight fun leaf hmem =>
        hnames leaf (List.mem_append_right _ hmem)
      rw [comparisons, List.length_append, ← hleft, ← hright]
      exact Sql.placeholders_joinConditions connective _ _

end RecordFilter

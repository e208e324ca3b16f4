import RecordFilter.Proofs.Filter.Evaluation
import RecordFilter.Proofs.Filter.Typing
import RecordFilter.Proofs.Schema.Fields
import RecordFilter.Proofs.Sql.Grammar
import RecordFilter.Proofs.Sql.Semantics

/-!
# Filters and their SQL conditions agree

A database that evaluates the condition of a filter on the rows of a table
selects the records that satisfy the filter. The two sides use different logics:
a filter is true or false, and a field without a value satisfies tests for
inequality only, while SQL leaves every comparison with NULL unknown. The
agreement is proved for single comparisons first. The induction over filters
then carries along any further parameters, because the parameters of a right
part follow those of the left part.
-/

namespace RecordFilter

/-! ## What operators say of values -/

namespace Operator

open Sql

theorem holds_of_isNull (op : Operator) {actual : Value}
    (hnull : actual.isNull = true) (expected : Value) :
    op.holds actual expected = (op == .notEqual) := by
  unfold holds
  rw [if_pos hnull]

theorem holds_of_relation {op : Operator} {relation : Relation}
    (htest : Test.ofOperator op = .relation relation) {actual : Value}
    (hvalue : actual.isNull = false) (expected : Value) :
    op.holds actual expected = relation.holds actual expected := by
  cases op with
  | startsWith | endsWith | contains => simp [Test.ofOperator] at htest
  | greater | greaterOrEqual | less | lessOrEqual | equal | notEqual =>
      obtain rfl := Test.relation.inj htest
      simp [holds, hvalue, Relation.holds, isOrdering, holdsOrdered]

theorem holds_of_pattern {op : Operator} {openStart openEnd : Bool}
    (htest : Test.ofOperator op = .pattern openStart openEnd) {actual : Value}
    (hvalue : actual.isNull = false) (expected : Value) :
    op.holds actual expected = op.holdsOfTexts actual expected := by
  cases op with
  | startsWith | endsWith | contains => simp [holds, hvalue, isOrdering]
  | greater | greaterOrEqual | less | lessOrEqual | equal | notEqual =>
      simp [Test.ofOperator] at htest

theorem ofOperator_eq_notEqual_iff {op : Operator} :
    Test.ofOperator op = .relation .notEqual ↔ op = .notEqual := by
  cases op <;> simp [Test.ofOperator]

theorem supports_pattern {op : Operator} {openStart openEnd : Bool}
    (htest : Test.ofOperator op = .pattern openStart openEnd) {type : FieldType}
    (hsupports : op.supports type = true) : type = .string := by
  cases op with
  | startsWith | endsWith | contains =>
      simpa [supports, isOrdering, isTextual] using hsupports
  | greater | greaterOrEqual | less | lessOrEqual | equal | notEqual =>
      simp [Test.ofOperator] at htest

end Operator

/-! ## Single comparisons -/

namespace Sql

theorem Relation.truth_eq_true_iff {relation : Relation} {left right : Value}
    (hright : right.isNull = false) :
    relation.truth left right = .true ↔
      left.isNull = false ∧ relation.holds left right = true := by
  unfold truth
  by_cases hleft : left.isNull = true
  · simp [hleft]
  · simp [hleft, hright]

/-- The condition takes exactly the parameters of the statement, and it is true
if and only if the answer is. -/
def Statement.Decides (statement : Statement) (row : Row) (answer : Bool) :
    Prop :=
  ∃ truth,
    (∀ further,
      statement.condition.evaluate? row (statement.parameters ++ further) =
        some (truth, further)) ∧
    (truth = .true ↔ answer = true)

section Comparison

variable {row : Row} {column : String} {op : Operator} {actual value : Value}

theorem decides_notEqual (hcolumn : row column = some actual)
    (hvalue : value.isNull = false) :
    (ofComparison column .notEqual value).Decides row
      (Operator.notEqual.holds actual value) := by
  refine
    ⟨(Relation.notEqual.truth actual value).or (.ofBool actual.isNull), ?_, ?_⟩
  · intro further
    simp [ofComparison, Test.ofOperator, Condition.evaluate?, hcolumn]
  · rw [Truth.or_eq_true_iff, Truth.ofBool_eq_true_iff,
      Relation.truth_eq_true_iff hvalue]
    cases hnull : actual.isNull with
    | true => simp [Operator.holds_of_isNull _ hnull]
    | false =>
        have htest : Test.ofOperator .notEqual = .relation .notEqual := rfl
        rw [Operator.holds_of_relation htest hnull]
        simp

theorem decides_relation {relation : Relation}
    (htest : Test.ofOperator op = .relation relation) (hother : op ≠ .notEqual)
    (hcolumn : row column = some actual) (hvalue : value.isNull = false) :
    (ofComparison column op value).Decides row (op.holds actual value) := by
  have hcompare :
      ofComparison column op value = ⟨.compare column relation, [value]⟩ := by
    have hrelation : relation ≠ .notEqual := by
      intro heq
      rw [heq] at htest
      exact hother (Operator.ofOperator_eq_notEqual_iff.mp htest)
    unfold ofComparison
    rw [htest]
    cases relation <;> first | rfl | contradiction
  rw [hcompare]
  refine ⟨relation.truth actual value, ?_, ?_⟩
  · intro further
    simp [Condition.evaluate?, hcolumn]
  · rw [Relation.truth_eq_true_iff hvalue]
    cases hnull : actual.isNull with
    | true => simp [Operator.holds_of_isNull op hnull, hother]
    | false => simp [Operator.holds_of_relation htest hnull]

theorem decides_pattern {openStart openEnd : Bool}
    (htest : Test.ofOperator op = .pattern openStart openEnd)
    (hcolumn : row column = some actual) (hactual : actual.fits .string = true)
    (text : String) :
    (ofComparison column op (.string text)).Decides row
      (op.holds actual (.string text)) := by
  have hlike :
      ofComparison column op (.string text) =
        ⟨.like column, [.string
          (String.ofList (likePattern openStart openEnd text.toList))]⟩ := by
    unfold ofComparison
    rw [htest]
    rfl
  rw [hlike]
  cases hnull : actual.isNull with
  | true =>
      refine ⟨.unknown, ?_, ?_⟩
      · intro further
        simp [Condition.evaluate?, hcolumn, likeTruth?, hnull]
      · have hother : op ≠ .notEqual := by
          rintro rfl
          simp [Test.ofOperator] at htest
        simp [Operator.holds_of_isNull op hnull, hother]
  | false =>
      obtain ⟨actualText, rfl⟩ := Value.eq_string_of_fits hactual hnull
      refine ⟨.ofBool (op.holdsTextual actualText.toList text.toList), ?_, ?_⟩
      · intro further
        simp [Condition.evaluate?, hcolumn, likeTruth?, Value.isNull,
          Value.text?, Operator.like?_likePattern_of_test htest]
      · rw [Truth.ofBool_eq_true_iff, Operator.holds_of_pattern htest hnull]
        simp [Operator.holdsOfTexts, Value.text?]

end Comparison

end Sql

/-! ## Whole filters -/

section Filters

open Sql

variable {α : Type} {schema : Schema α} {record : α}

theorem Schema.row_field {field : Field α} (hfield : field ∈ schema.fields)
    (record : α) :
    schema.row record field.name = some (field.read record) := by
  unfold row
  rw [find?_name_eq_some hfield]
  rfl

theorem Comparison.decides_ofComparison {comparison : Comparison α}
    (htyped : comparison.IsTyped schema) (hrecord : schema.Admits record) :
    (ofComparison comparison.field.name comparison.operator
      comparison.value).Decides
        (schema.row record) (comparison.evaluate record) := by
  have hcolumn := Schema.row_field htyped.field_mem record
  have hfits := hrecord comparison.field htyped.field_mem
  have hvalue := htyped.literal.not_null
  have hevaluate :
      comparison.evaluate record =
        comparison.operator.holds (comparison.field.read record)
          comparison.value := by
    unfold evaluate
    simp [hfits]
  rw [hevaluate]
  cases htest : Test.ofOperator comparison.operator with
  | relation relation =>
      by_cases hnotEqual : comparison.operator = .notEqual
      · rw [hnotEqual]
        exact decides_notEqual hcolumn hvalue
      · exact decides_relation htest hnotEqual hcolumn hvalue
  | pattern openStart openEnd =>
      have htype := Operator.supports_pattern htest htyped.supports
      have hliteral := htyped.literal.fits
      rw [htype] at hfits hliteral
      obtain ⟨text, htext⟩ := Value.eq_string_of_fits hliteral hvalue
      rw [htext]
      exact decides_pattern htest hcolumn hfits text

theorem Filter.decides_toSql {filter : Filter α}
    (htyped : ∀ comparison ∈ filter.comparisons, comparison.IsTyped schema)
    (hrecord : schema.Admits record) :
    filter.toSql.Decides (schema.row record) (filter.evaluate record) := by
  induction filter with
  | comparison leaf =>
      apply Comparison.decides_ofComparison _ hrecord
      exact htyped leaf (List.mem_singleton_self leaf)
  | logical connective left right ihLeft ihRight =>
      obtain ⟨leftTruth, hleft, hleftTruth⟩ := ihLeft
        (fun leaf hleaf => htyped leaf (List.mem_append_left _ hleaf))
      obtain ⟨rightTruth, hright, hrightTruth⟩ := ihRight
        (fun leaf hleaf => htyped leaf (List.mem_append_right _ hleaf))
      refine ⟨joinTruths connective leftTruth rightTruth, ?_, ?_⟩
      · intro further
        -- The left part leaves the parameters of the right part and all
        -- further ones.
        have hleftRest := hleft (right.toSql.parameters ++ further)
        rw [← List.append_assoc] at hleftRest
        exact evaluate?_joinConditions _ connective hleftRest (hright further)
      · rw [Filter.evaluate_logical]
        exact joinTruths_eq_true_iff hleftTruth hrightTruth

/-- The clause of a bound filter is the text of one condition only, and on every
record of the schema this condition takes all parameters and is true if and only
if the record satisfies the filter. -/
theorem Schema.clause_of_bind_selects {expr : Expr} {filter : Filter α}
    (hbind : schema.bind expr = .ok filter) :
    ∃ condition : Condition,
      (∀ other : Condition,
        other.IsText filter.toSql.clause ↔ other = condition) ∧
      ∀ record, schema.Admits record →
        ∃ truth,
          condition.evaluate? (schema.row record) filter.toSql.parameters =
            some (truth, []) ∧
          (truth = .true ↔ filter.evaluate record = true) := by
  refine ⟨filter.toSql.condition, ?_, ?_⟩
  · intro other
    have hclause := Condition.isText_render filter.toSql.condition
    constructor
    · intro hother
      exact hother.unique hclause
    · rintro rfl
      exact hclause
  · intro record hrecord
    obtain ⟨truth, hevaluate, htruth⟩ :=
      Filter.decides_toSql (isTyped_of_bind hbind) hrecord
    have hall := hevaluate []
    rw [List.append_nil] at hall
    exact ⟨truth, hall, htruth⟩

end Filters

namespace Contact

/-- `nickname %% '_a%' || AGE != '3'` -/
def inquiry : Expr :=
  .logical .or
    (.comparison ⟨.property, "nickname", ⟨0, 8⟩⟩ ⟨.operator, "%%", ⟨9, 11⟩⟩
      ⟨.value, "'_a%'", ⟨12, 17⟩⟩)
    (.comparison ⟨.property, "AGE", ⟨21, 24⟩⟩ ⟨.operator, "!=", ⟨25, 27⟩⟩
      ⟨.value, "'3'", ⟨28, 31⟩⟩)

def inquiryFilter : Filter Contact :=
  .logical .or (.comparison ⟨nicknameField, .contains, .string "_a%"⟩)
    (.comparison ⟨ageField, .notEqual, .int32 3⟩)

theorem inquiry_clause_selects :
    schema.bind inquiry = .ok inquiryFilter ∧
      ∃ condition : Sql.Condition,
        (∀ other : Sql.Condition,
          other.IsText inquiryFilter.toSql.clause ↔ other = condition) ∧
        ∃ truth,
          condition.evaluate? (schema.row ⟨3, none⟩)
              inquiryFilter.toSql.parameters =
            some (truth, []) ∧
          (truth = .true ↔ inquiryFilter.evaluate ⟨3, none⟩ = true) := by
  have hbind : schema.bind inquiry = .ok inquiryFilter := rfl
  obtain ⟨condition, hunique, hselects⟩ := Schema.clause_of_bind_selects hbind
  exact ⟨hbind, condition, hunique, hselects ⟨3, none⟩ (admits ⟨3, none⟩)⟩

end Contact

end RecordFilter

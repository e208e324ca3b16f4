import RecordFilter.Filter.Binding
import RecordFilter.Proofs.Outcome
import RecordFilter.Proofs.Schema.Fields
import RecordFilter.Proofs.Value.Typing

/-!
# What binding promises

A comparison is bound only to a field that its name stands for alone, with an
operator that the type of the field supports and with a value of that type. Each
function of the binder is described once, by what its success means; what holds
of the comparisons of a whole filter follows from these descriptions.
-/

namespace RecordFilter

/-! ## One function of the binder at a time -/

namespace Schema

variable {α : Type}

theorem bindOperator_eq_ok_iff {field : Field α} {token : Token}
    {operator : Operator} :
    bindOperator field token = .ok operator ↔
      operator.lexeme = token.text ∧ operator.supports field.type = true := by
  unfold bindOperator
  cases hlexeme : Operator.ofLexeme? token.text with
  | none =>
      have hother : ¬operator.lexeme = token.text := by
        rw [← Operator.ofLexeme?_eq_some_iff, hlexeme]
        simp
      simp [hother]
  | some op =>
      have htext := Operator.ofLexeme?_eq_some_iff.mp hlexeme
      simp only [← htext]
      constructor
      · intro hbind
        split at hbind
        next hsupports =>
          obtain rfl := Except.ok.inj hbind
          exact ⟨rfl, hsupports⟩
        next => contradiction
      · rintro ⟨hsame, hsupports⟩
        obtain rfl := Operator.lexeme_injective hsame
        simp [hsupports]

theorem bindValue_eq_ok_iff {field : Field α} {token : Token} {value : Value} :
    bindValue field token = .ok value ↔
      field.type.read token.literal = .ok value := by
  unfold bindValue
  split <;> simp_all

theorem bindComparison_eq_ok_iff {schema : Schema α}
    {property operator value : Token} {comparison : Comparison α} :
    schema.bindComparison property operator value = .ok comparison ↔
      schema.fields.filter (sameName ·.name property.text) =
          [comparison.field] ∧
        (comparison.operator.lexeme = operator.text ∧
          comparison.operator.supports comparison.field.type = true) ∧
        comparison.field.type.read value.literal = .ok comparison.value := by
  obtain ⟨field, op, literal⟩ := comparison
  rw [← lookup_eq_ok_iff, ← bindOperator_eq_ok_iff, ← bindValue_eq_ok_iff]
  unfold bindComparison
  cases hlookup : schema.lookup property.text with
  | error error => simp
  | ok found =>
      simp only [Outcome.bind_eq_ok_iff, Except.ok.injEq, Comparison.mk.injEq]
      constructor
      · rintro ⟨_, hoperator, _, hvalue, rfl, rfl, rfl⟩
        exact ⟨rfl, hoperator, hvalue⟩
      · rintro ⟨rfl, hoperator, hvalue⟩
        exact ⟨op, hoperator, literal, hvalue, rfl, rfl, rfl⟩

theorem bind_comparison_eq_ok_iff {schema : Schema α}
    {property operator value : Token} {filter : Filter α} :
    schema.bind (.comparison property operator value) = .ok filter ↔
      ∃ leaf, schema.bindComparison property operator value = .ok leaf ∧
        .comparison leaf = filter := by
  simp only [bind, Outcome.map_eq_ok_iff]

theorem bind_logical_eq_ok_iff {schema : Schema α} {connective : Connective}
    {left right : Expr} {filter : Filter α} :
    schema.bind (.logical connective left right) = .ok filter ↔
      ∃ leftFilter, schema.bind left = .ok leftFilter ∧
        ∃ rightFilter, schema.bind right = .ok rightFilter ∧
          .logical connective leftFilter rightFilter = filter := by
  simp only [bind, Outcome.bind_eq_ok_iff, Except.ok.injEq]

end Schema

/-! ## All comparisons of a filter -/

/-- The comparison asks a question about the schema that makes sense. -/
structure Comparison.IsTyped {α : Type} (schema : Schema α)
    (comparison : Comparison α) : Prop where
  field_mem : comparison.field ∈ schema.fields
  supports : comparison.operator.supports comparison.field.type = true
  literal : comparison.value.IsLiteralOf comparison.field.type

namespace Schema

variable {α : Type}

theorem isTyped_of_bindComparison {schema : Schema α}
    {property operator value : Token} {comparison : Comparison α}
    (hbind : schema.bindComparison property operator value = .ok comparison) :
    comparison.IsTyped schema := by
  obtain ⟨hfield, ⟨-, hsupports⟩, hread⟩ := bindComparison_eq_ok_iff.mp hbind
  have hmem :
      comparison.field ∈
        schema.fields.filter (sameName ·.name property.text) := by
    rw [hfield]
    exact List.mem_singleton_self _
  exact
    ⟨(List.mem_filter.mp hmem).1, hsupports, FieldType.isLiteralOf_read hread⟩

/-- Every leaf of a bound filter was bound on its own. -/
theorem exists_bindComparison_of_bind {schema : Schema α} {expr : Expr}
    {filter : Filter α} (hbind : schema.bind expr = .ok filter) :
    ∀ leaf ∈ filter.comparisons, ∃ comparison ∈ expr.comparisons,
      schema.bindComparison comparison.1 comparison.2.1 comparison.2.2 =
        .ok leaf := by
  induction expr generalizing filter with
  | comparison property operator value =>
      obtain ⟨leaf, hleaf, rfl⟩ := bind_comparison_eq_ok_iff.mp hbind
      intro other hmem
      obtain rfl := List.mem_singleton.mp hmem
      exact ⟨_, List.mem_singleton_self _, hleaf⟩
  | logical connective left right ihLeft ihRight =>
      obtain ⟨leftFilter, hleft, rightFilter, hright, rfl⟩ :=
        bind_logical_eq_ok_iff.mp hbind
      intro leaf hmem
      rcases List.mem_append.mp hmem with hmem | hmem
      · obtain ⟨comparison, hcomparison, hleaf⟩ := ihLeft hleft leaf hmem
        exact ⟨comparison, List.mem_append_left _ hcomparison, hleaf⟩
      · obtain ⟨comparison, hcomparison, hleaf⟩ := ihRight hright leaf hmem
        exact ⟨comparison, List.mem_append_right _ hcomparison, hleaf⟩

theorem isTyped_of_bind {schema : Schema α} {expr : Expr} {filter : Filter α}
    (hbind : schema.bind expr = .ok filter) :
    ∀ comparison ∈ filter.comparisons, comparison.IsTyped schema := by
  intro leaf hmem
  obtain ⟨comparison, -, hleaf⟩ := exists_bindComparison_of_bind hbind leaf hmem
  exact isTyped_of_bindComparison hleaf

end Schema

end RecordFilter

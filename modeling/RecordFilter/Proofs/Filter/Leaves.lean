import Mathlib.Data.List.Forall2
import RecordFilter.Proofs.Sql.Pushdown

/-!
# The leaves of a bound filter

Binding keeps the order of the comparisons, so every leaf of a bound filter
stands for three tokens of the expression. All that later work takes for granted
about a leaf holds whatever the texts of the tokens are: its field is the only
one that the name stands for, and its value is one of the field's type, which a
textual operator can be applied to.
-/

namespace RecordFilter

variable {α : Type}

/-- What a leaf of a bound filter has to do with the property, the operator and
the value that it was bound from. -/
structure Comparison.IsBinding (schema : Schema α)
    (tokens : Token × Token × Token) (leaf : Comparison α) : Prop where
  field_mem : leaf.field ∈ schema.fields
  field_iff : ∀ field ∈ schema.fields,
    sameName field.name tokens.1.text = true ↔ field = leaf.field
  /-- No other field has a name that differs from the leaf's in case only. -/
  eq_of_sameName : ∀ field ∈ schema.fields,
    sameName field.name leaf.field.name = true → field = leaf.field
  supports : leaf.operator.supports leaf.field.type = true
  literal : leaf.value.IsLiteralOf leaf.field.type
  /-- The pattern of a textual operator is made of the text of the literal. -/
  text_of_isTextual : leaf.operator.isTextual = true →
    ∃ text, leaf.value = .string text ∧
      ∀ openStart openEnd,
        Sql.Test.ofOperator leaf.operator = .pattern openStart openEnd →
          (Filter.comparison leaf).toSql =
            ⟨.like leaf.field.name, [.string (String.ofList
              (Sql.likePattern openStart openEnd text.toList))]⟩

theorem Operator.type_eq_string_of_isTextual {op : Operator} {type : FieldType}
    (htextual : op.isTextual = true) (hsupports : op.supports type = true) :
    type = .string := by
  cases op with
  | startsWith | endsWith | contains =>
      simpa [supports, isOrdering, isTextual] using hsupports
  | greater | greaterOrEqual | less | lessOrEqual | equal | notEqual =>
      simp [isTextual] at htextual

theorem Comparison.toSql_of_pattern {leaf : Comparison α} {text : String}
    (hvalue : leaf.value = .string text) {openStart openEnd : Bool}
    (htest : Sql.Test.ofOperator leaf.operator =
      .pattern openStart openEnd) :
    (Filter.comparison leaf).toSql =
      ⟨.like leaf.field.name, [.string (String.ofList
        (Sql.likePattern openStart openEnd text.toList))]⟩ := by
  simp only [Filter.toSql, Sql.ofComparison, htest, hvalue, Value.text?,
    Option.getD_some]

namespace Schema

variable {schema : Schema α}

theorem isBinding_of_bindComparison {property operator value : Token}
    {leaf : Comparison α}
    (hbind : schema.bindComparison property operator value = .ok leaf) :
    leaf.IsBinding schema (property, operator, value) := by
  obtain ⟨hfilter, -, -⟩ := bindComparison_eq_ok_iff.mp hbind
  have htyped := isTyped_of_bindComparison hbind
  have hname : sameName leaf.field.name property.text = true :=
    (field_iff_of_filter_eq hfilter htyped.field_mem).mpr rfl
  refine
    { field_mem := htyped.field_mem
      field_iff := fun field => field_iff_of_filter_eq hfilter
      eq_of_sameName := ?_
      supports := htyped.supports
      literal := htyped.literal
      text_of_isTextual := ?_ }
  · intro field hfield hsame
    rw [← field_iff_of_filter_eq hfilter hfield, sameName_iff,
      sameName_iff.mp hsame]
    exact sameName_iff.mp hname
  · intro htextual
    have htype :=
      Operator.type_eq_string_of_isTextual htextual htyped.supports
    have hfits := htyped.literal.fits
    rw [htype] at hfits
    obtain ⟨text, htext⟩ :=
      Value.eq_string_of_fits hfits htyped.literal.not_null
    exact ⟨text, htext, fun _ _ => Comparison.toSql_of_pattern htext⟩

/-- The leaves of a filter are the comparisons of its expression, bound one by
one. -/
theorem forall₂_bindComparison_of_bind {expr : Expr} {filter : Filter α}
    (hbind : schema.bind expr = .ok filter) :
    List.Forall₂
      (fun tokens leaf =>
        schema.bindComparison tokens.1 tokens.2.1 tokens.2.2 = .ok leaf)
      expr.comparisons filter.comparisons := by
  induction expr generalizing filter with
  | comparison property operator value =>
      obtain ⟨leaf, hleaf, rfl⟩ := bind_comparison_eq_ok_iff.mp hbind
      exact .cons hleaf .nil
  | logical connective left right ihLeft ihRight =>
      obtain ⟨leftFilter, hleft, rightFilter, hright, rfl⟩ :=
        bind_logical_eq_ok_iff.mp hbind
      exact List.rel_append (ihLeft hleft) (ihRight hright)

/-- Every leaf of a filter that is bound from an expression has the one field
that its property stands for, an operator that the field supports, and a value
of the field's type that is neither null nor NaN. -/
theorem forall₂_isBinding_of_bind {expr : Expr} {filter : Filter α}
    (hbind : schema.bind expr = .ok filter) :
    List.Forall₂ (fun tokens leaf => leaf.IsBinding schema tokens)
      expr.comparisons filter.comparisons := by
  apply List.Forall₂.imp _ (forall₂_bindComparison_of_bind hbind)
  rintro ⟨property, operator, value⟩ leaf hleaf
  exact isBinding_of_bindComparison hleaf

end Schema

/-- Both leaves of the inquiry are bound from names in another case. -/
theorem Contact.forall₂_isBinding_inquiry :
    schema.bind inquiry = .ok inquiryFilter ∧
      List.Forall₂ (fun tokens leaf => leaf.IsBinding schema tokens)
        inquiry.comparisons inquiryFilter.comparisons := by
  have hbind : schema.bind inquiry = .ok inquiryFilter := rfl
  exact ⟨hbind, Schema.forall₂_isBinding_of_bind hbind⟩

end RecordFilter

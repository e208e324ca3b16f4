import RecordFilter.Filter.Predicate

/-!
# Evaluation of filters

The two ways of asking a filter about a record: the walk over the filter, and
the function that is put together once for many records.
-/

namespace RecordFilter.Filter

variable {α : Type}

@[simp]
theorem evaluate_comparison (leaf : Comparison α) (record : α) :
    (comparison leaf).evaluate record = leaf.evaluate record := rfl

@[simp]
theorem evaluate_logical (connective : Connective) (left right : Filter α)
    (record : α) :
    (logical connective left right).evaluate record =
      connective.combine (left.evaluate record) (right.evaluate record) := by
  cases connective <;> rfl

theorem prepare_eq_evaluate (filter : Filter α) :
    filter.prepare = filter.evaluate := by
  induction filter with
  | comparison leaf => rfl
  | logical connective left right ihLeft ihRight =>
      funext record
      cases connective with
      | and => simp only [prepare, ihLeft, ihRight, evaluate]
      | or => simp only [prepare, ihLeft, ihRight, evaluate]

end RecordFilter.Filter

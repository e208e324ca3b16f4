import RecordFilter.Filter.Comparison
import RecordFilter.Proofs.Sql.Pattern
import RecordFilter.Proofs.Value.Order

/-!
# How the operators hang together

What an operator says of the value of a field and a literal depends on nothing
but the order of the two values, unless the operator looks into texts. All that
relates these operators to each other therefore follows from the few orders that
two values can have, and what relates the comparisons with two literals follows
from the laws of the order.
-/

namespace RecordFilter

namespace Operator

/-- What an operator that does not look into texts makes of the order of the
field's value and the literal. -/
def ofOrder : Operator → Option Ordering → Bool
  | .equal, order => order == some .eq
  | .notEqual, order => order != some .eq
  | op, order => op.holdsOrdered order

theorem holds_eq_ofOrder {op : Operator} (hop : op.isTextual = false)
    (actual literal : Value) :
    op.holds actual literal = op.ofOrder (actual.order? literal) := by
  cases hnull : actual.isNull with
  | true =>
      have horder : actual.order? literal = none := by
        cases actual with
        | null => rfl
        | _ => contradiction
      cases op <;> simp [holds, hnull, horder, ofOrder, holdsOrdered]
  | false =>
      have hequals :
          actual.equals literal = (actual.order? literal == some .eq) := by
        rw [Bool.eq_iff_iff, ← Value.order?_eq_eq_iff hnull, beq_iff_eq]
      cases op with
      | startsWith | endsWith | contains => contradiction
      | equal => simp [holds, hnull, hequals, ofOrder]
      | notEqual => simp [holds, hnull, hequals, ofOrder, bne]
      | greater | greaterOrEqual | less | lessOrEqual =>
          simp [holds, hnull, isOrdering, ofOrder]

section TwoValues

variable {actual literal : Value}

theorem holds_less_iff :
    less.holds actual literal = true ↔ actual.order? literal = some .lt := by
  rw [holds_eq_ofOrder rfl]
  simp [ofOrder, holdsOrdered]

theorem holds_equal_iff :
    equal.holds actual literal = true ↔ actual.order? literal = some .eq := by
  rw [holds_eq_ofOrder rfl]
  simp [ofOrder]

theorem holds_greater_iff :
    greater.holds actual literal = true ↔
      actual.order? literal = some .gt := by
  rw [holds_eq_ofOrder rfl]
  simp [ofOrder, holdsOrdered]

/-- How the operators agree about the value of a field and a literal. -/
structure Agree (actual literal : Value) : Prop where
  greaterOrEqual_iff : greaterOrEqual.holds actual literal = true ↔
    greater.holds actual literal = true ∨ equal.holds actual literal = true
  lessOrEqual_iff : lessOrEqual.holds actual literal = true ↔
    less.holds actual literal = true ∨ equal.holds actual literal = true
  notEqual_iff : notEqual.holds actual literal = true ↔
    ¬equal.holds actual literal = true
  atMostOne : [less, equal, greater].Pairwise fun op other =>
    ¬(op.holds actual literal = true ∧ other.holds actual literal = true)
  atLeastOne : actual.SameVariant literal → actual.isNull = false →
    actual.isNaN = false → literal.isNaN = false →
      ∃ op ∈ [less, equal, greater], op.holds actual literal = true
  onlyNotEqual : actual.isNull = true →
    ∀ op : Operator, op.holds actual literal = true ↔ op = notEqual

theorem atLeastOne_holds (hvariant : actual.SameVariant literal)
    (hnull : actual.isNull = false) (hactual : actual.isNaN = false)
    (hliteral : literal.isNaN = false) :
    ∃ op ∈ [less, equal, greater], op.holds actual literal = true := by
  have hsome := Value.isSome_order?_iff.mpr
    ⟨hvariant, hnull, hactual, hliteral⟩
  rcases Option.isSome_iff_exists.mp hsome with ⟨order, horder⟩
  cases order with
  | lt => exact ⟨less, by simp, holds_less_iff.mpr horder⟩
  | eq => exact ⟨equal, by simp, holds_equal_iff.mpr horder⟩
  | gt => exact ⟨greater, by simp, holds_greater_iff.mpr horder⟩

theorem agree (actual literal : Value) : Agree actual literal := by
  refine
    { greaterOrEqual_iff := ?_
      lessOrEqual_iff := ?_
      notEqual_iff := ?_
      atMostOne := ?_
      atLeastOne := atLeastOne_holds
      onlyNotEqual := ?_ }
  · rw [holds_greater_iff, holds_equal_iff, holds_eq_ofOrder rfl]
    simp [ofOrder, holdsOrdered]
  · rw [holds_less_iff, holds_equal_iff, holds_eq_ofOrder rfl]
    simp [ofOrder, holdsOrdered]
  · rw [holds_equal_iff, holds_eq_ofOrder rfl]
    simp [ofOrder]
  · simp only [List.pairwise_cons, List.forall_mem_cons, List.not_mem_nil,
      holds_less_iff, holds_equal_iff, holds_greater_iff]
    grind
  · intro hnull op
    simp [holds, hnull]

end TwoValues

/-! ## Two literals -/

section Bounds

variable {actual lower upper : Value}

/-- A value beyond the upper one of two literals is beyond the lower one. -/
theorem holds_greater_mono
    (hbounds : lower.order? upper = some .lt ∨ lower.order? upper = some .eq)
    (hgreater : greater.holds actual upper = true) :
    greater.holds actual lower = true := by
  rw [holds_greater_iff] at hgreater ⊢
  rcases hbounds with hless | hequal
  · have hswap : upper.order? lower = some .gt := by
      rw [Value.order?_swap lower upper, hless]
      rfl
    exact Value.order?_trans hgreater hswap
  · rw [Value.order?_congr_right hequal, hgreater]

theorem holds_less_mono
    (hbounds : lower.order? upper = some .lt ∨ lower.order? upper = some .eq)
    (hless : less.holds actual lower = true) :
    less.holds actual upper = true := by
  rw [holds_less_iff] at hless ⊢
  rcases hbounds with hbelow | hequal
  · exact Value.order?_trans hless hbelow
  · rw [← Value.order?_congr_right hequal, hless]

end Bounds

/-! ## Texts -/

section Texts

variable {text part : String}

theorem holds_of_isTextual {op : Operator} (hop : op.isTextual = true)
    (text part : String) :
    op.holds (.string text) (.string part) =
      op.holdsTextual text.toList part.toList := by
  cases op with
  | startsWith | endsWith | contains => rfl
  | greater | greaterOrEqual | less | lessOrEqual | equal | notEqual =>
      contradiction

/-- Where a text begins or ends with another, it contains it. -/
theorem holds_contains
    (hholds : startsWith.holds (.string text) (.string part) = true ∨
      endsWith.holds (.string text) (.string part) = true) :
    contains.holds (.string text) (.string part) = true := by
  rw [holds_of_isTextual rfl, holdsTextual_iff rfl, holds_of_isTextual rfl,
    holdsTextual_iff rfl] at hholds
  rw [holds_of_isTextual rfl, holdsTextual_iff rfl]
  rcases hholds with ⟨before, after, htext, -⟩ | ⟨before, after, htext, -⟩
  · exact ⟨before, after, htext, by simp, by simp⟩
  · exact ⟨before, after, htext, by simp, by simp⟩

theorem holds_textual_of_equal
    (hequal : equal.holds (.string text) (.string part) = true)
    {op : Operator} (hop : op.isTextual = true) :
    op.holds (.string text) (.string part) = true := by
  have hsame : text = part := by
    rw [holds_equal_iff, Value.order?_eq_eq_iff rfl] at hequal
    simpa [Value.equals] using hequal
  subst hsame
  rw [holds_of_isTextual hop]
  cases op with
  | startsWith => exact (holdsTextual_iff rfl _ _).mpr ⟨[], [], by simp⟩
  | endsWith => exact (holdsTextual_iff rfl _ _).mpr ⟨[], [], by simp⟩
  | contains => exact (holdsTextual_iff rfl _ _).mpr ⟨[], [], by simp⟩
  | greater | greaterOrEqual | less | lessOrEqual | equal | notEqual =>
      contradiction

end Texts

/-- Values are partially ordered, the operators that do not look into texts are
derived from this order, and a text contains what it begins or ends with. -/
theorem follow_order (actual lower upper : Value) (text part : String) :
    Value.OrderLaws actual lower upper ∧
    Agree actual lower ∧
    (lower.order? upper = some .lt ∨ lower.order? upper = some .eq →
      (greater.holds actual upper = true →
        greater.holds actual lower = true) ∧
      (less.holds actual lower = true → less.holds actual upper = true)) ∧
    (equal.holds (.string text) (.string part) = true →
      ∀ op : Operator, op.isTextual = true →
        op.holds (.string text) (.string part) = true) ∧
    (startsWith.holds (.string text) (.string part) = true ∨
        endsWith.holds (.string text) (.string part) = true →
      contains.holds (.string text) (.string part) = true) := by
  refine ⟨Value.orderLaws actual lower upper, agree actual lower, ?_, ?_,
    holds_contains⟩
  · intro hbounds
    exact ⟨holds_greater_mono hbounds, holds_less_mono hbounds⟩
  · intro hequal op hop
    exact holds_textual_of_equal hequal hop

/-- What is greater than zero is greater than the zero with a minus sign, and
neither of these is greater than the other. -/
theorem follow_order_zeros :
    let one := Value.float64 (.ofRank false (1023 * Double.binade))
    let zero := Value.float64 (.ofRank false 0)
    let minusZero := Value.float64 (.ofRank true 0)
    greater.holds one zero = true ∧ greater.holds one minusZero = true ∧
      (lessOrEqual.holds minusZero zero = true ↔
        less.holds minusZero zero = true ∨
          equal.holds minusZero zero = true) ∧
      startsWith.holds (.string "foobar") (.string "foo") = true ∧
      contains.holds (.string "foobar") (.string "foo") = true := by
  intro one zero minusZero
  have hgreater : greater.holds one zero = true := by decide
  have hequal : minusZero.order? zero = some .eq := by decide
  have hstarts :
      startsWith.holds (.string "foobar") (.string "foo") = true := by decide
  rcases follow_order one minusZero zero "foobar" "foo" with
    ⟨-, -, hbounds, -, htexts⟩
  rcases follow_order minusZero zero one "foobar" "foo" with ⟨-, hagree, -⟩
  exact ⟨hgreater, (hbounds (.inr hequal)).1 hgreater, hagree.lessOrEqual_iff,
    hstarts, htexts (.inl hstarts)⟩

end Operator

end RecordFilter

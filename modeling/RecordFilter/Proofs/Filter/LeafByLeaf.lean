import RecordFilter.Proofs.Filter.Leaves

/-!
# Binding leaf by leaf

Binding an expression is binding the list of its comparisons from left to right:
the connectives are kept, and the first comparison that cannot be bound gives
the error. A comparison alone is checked in a fixed order, so of several things
that are wrong with it one is reported.
-/

namespace RecordFilter

variable {α : Type}

/-! ## Shapes of trees -/

/-- A tree of connectives over comparisons, whatever these compare. -/
inductive TreeShape where
  | comparison
  | logical (connective : Connective) (left right : TreeShape)
  deriving DecidableEq

def TreeShape.comparisonCount : TreeShape → Nat
  | comparison => 1
  | logical _ left right => left.comparisonCount + right.comparisonCount

def Expr.shape : Expr → TreeShape
  | comparison .. => .comparison
  | logical connective left right =>
      .logical connective left.shape right.shape

namespace Filter

def shape : Filter α → TreeShape
  | comparison _ => .comparison
  | logical connective left right =>
      .logical connective left.shape right.shape

theorem length_comparisons (filter : Filter α) :
    filter.comparisons.length = filter.shape.comparisonCount := by
  induction filter with
  | comparison leaf => rfl
  | logical connective left right ihLeft ihRight =>
      rw [comparisons, List.length_append, ihLeft, ihRight, shape,
        TreeShape.comparisonCount]

/-- A filter is made of its shape and its leaves. -/
theorem eq_of_shape_eq {filter other : Filter α}
    (hshape : filter.shape = other.shape)
    (hleaves : filter.comparisons = other.comparisons) : filter = other := by
  induction filter generalizing other with
  | comparison leaf =>
      cases other with
      | comparison otherLeaf =>
          rw [List.singleton_inj.mp hleaves]
      | logical connective left right => contradiction
  | logical connective left right ihLeft ihRight =>
      cases other with
      | comparison otherLeaf => contradiction
      | logical otherConnective otherLeft otherRight =>
          rcases TreeShape.logical.inj hshape with ⟨rfl, hleft, hright⟩
          have hcount :
              left.comparisons.length = otherLeft.comparisons.length := by
            rw [length_comparisons, length_comparisons, hleft]
          rcases List.append_inj hleaves hcount with ⟨hfront, hback⟩
          rw [ihLeft hleft hfront, ihRight hright hback]

end Filter

/-! ## One leaf -/

/-- The first check that a comparison does not pass: its name must stand for one
field, its operator must exist and suit the field's type, and its literal must
be one of that type. -/
inductive BindError.IsFirstFault (schema : Schema α)
    (property operator value : Token) : BindError → Prop
  | unknownField
    (hnone : ∀ field ∈ schema.fields,
      sameName field.name property.text = false) :
    IsFirstFault schema property operator value
      (.lookup (.unknown property.text))
  | ambiguousField {candidates : List (Field α)}
    (hcandidates :
      schema.fields.filter (sameName ·.name property.text) = candidates)
    (hmany : 2 ≤ candidates.length) :
    IsFirstFault schema property operator value
      (.lookup (.ambiguous property.text (candidates.map Field.name)))
  | unknownOperator {field : Field α}
    (hfield : schema.fields.filter (sameName ·.name property.text) = [field])
    (hnone : ∀ op : Operator, op.lexeme ≠ operator.text) :
    IsFirstFault schema property operator value
      (.unknownOperator operator.text)
  | unsupportedOperator {field : Field α} {op : Operator}
    (hfield : schema.fields.filter (sameName ·.name property.text) = [field])
    (hlexeme : op.lexeme = operator.text)
    (hunsupported : op.supports field.type = false) :
    IsFirstFault schema property operator value
      (.unsupportedOperator operator.text field.name field.type)
  | invalidValue {field : Field α} {op : Operator} {fault : LiteralFault}
    (hfield : schema.fields.filter (sameName ·.name property.text) = [field])
    (hlexeme : op.lexeme = operator.text)
    (hsupported : op.supports field.type = true)
    (hread : field.type.read value.literal = .error fault) :
    IsFirstFault schema property operator value
      (.invalidValue value.literal field.type fault)

namespace Schema

variable {schema : Schema α}

theorem bindOperator_eq_error_iff {field : Field α} {token : Token}
    {error : BindError} :
    bindOperator field token = .error error ↔
      ((∀ op : Operator, op.lexeme ≠ token.text) ∧
        .unknownOperator token.text = error) ∨
      ∃ op : Operator, op.lexeme = token.text ∧
        op.supports field.type = false ∧
        .unsupportedOperator token.text field.name field.type = error := by
  simp only [← Operator.ofLexeme?_eq_some_iff, ne_eq]
  unfold bindOperator
  cases Operator.ofLexeme? token.text with
  | none => simp
  | some op =>
      cases hsupports : op.supports field.type with
      | false => simp [hsupports]
      | true => simp [hsupports]

theorem bindValue_eq_error_iff {field : Field α} {token : Token}
    {error : BindError} :
    bindValue field token = .error error ↔
      ∃ fault, field.type.read token.literal = .error fault ∧
        .invalidValue token.literal field.type fault = error := by
  unfold bindValue
  cases field.type.read token.literal with
  | ok value => simp
  | error fault => simp

theorem bindComparison_of_filter_eq {property operator value : Token}
    {field : Field α}
    (hfield :
      schema.fields.filter (sameName ·.name property.text) = [field]) :
    schema.bindComparison property operator value =
      (bindOperator field operator >>= fun op =>
        bindValue field value >>= fun literal => .ok ⟨field, op, literal⟩) := by
  simp only [bindComparison, lookup_eq_ok_iff.mpr hfield]

theorem bindComparison_eq_error_iff {property operator value : Token}
    {error : BindError} :
    schema.bindComparison property operator value = .error error ↔
      error.IsFirstFault schema property operator value := by
  constructor
  · intro hbind
    cases hlookup : schema.lookup property.text with
    | error missing =>
        simp only [bindComparison, hlookup] at hbind
        rw [← Except.error.inj hbind]
        rcases lookup_eq_error_iff.mp hlookup with
          ⟨hnone, rfl⟩ | ⟨candidates, hcandidates, hmany, rfl⟩
        · exact .unknownField hnone
        · exact .ambiguousField hcandidates hmany
    | ok field =>
        have hfield := lookup_eq_ok_iff.mp hlookup
        rw [bindComparison_of_filter_eq hfield] at hbind
        rcases Outcome.bind_eq_error_iff.mp hbind with hbad | ⟨op, hop, hrest⟩
        · rcases bindOperator_eq_error_iff.mp hbad with
            ⟨hnone, rfl⟩ | ⟨op, hlexeme, hunsupported, rfl⟩
          · exact .unknownOperator hfield hnone
          · exact .unsupportedOperator hfield hlexeme hunsupported
        · rcases bindOperator_eq_ok_iff.mp hop with ⟨hlexeme, hsupported⟩
          rcases Outcome.bind_eq_error_iff.mp hrest with hbad | ⟨_, -, hdone⟩
          · rcases bindValue_eq_error_iff.mp hbad with ⟨fault, hread, rfl⟩
            exact .invalidValue hfield hlexeme hsupported hread
          · contradiction
  · intro hfault
    cases hfault with
    | unknownField hnone =>
        have hlookup := lookup_eq_error_iff.mpr (.inl ⟨hnone, rfl⟩)
        simp only [bindComparison, hlookup]
    | ambiguousField hcandidates hmany =>
        have hlookup :=
          lookup_eq_error_iff.mpr (.inr ⟨_, hcandidates, hmany, rfl⟩)
        simp only [bindComparison, hlookup]
    | unknownOperator hfield hnone =>
        rw [bindComparison_of_filter_eq hfield, Outcome.bind_eq_error_iff]
        exact .inl (bindOperator_eq_error_iff.mpr (.inl ⟨hnone, rfl⟩))
    | unsupportedOperator hfield hlexeme hunsupported =>
        rw [bindComparison_of_filter_eq hfield, Outcome.bind_eq_error_iff]
        exact
          .inl (bindOperator_eq_error_iff.mpr
            (.inr ⟨_, hlexeme, hunsupported, rfl⟩))
    | invalidValue hfield hlexeme hsupported hread =>
        have hop := bindOperator_eq_ok_iff.mpr ⟨hlexeme, hsupported⟩
        have hvalue := bindValue_eq_error_iff.mpr ⟨_, hread, rfl⟩
        rw [bindComparison_of_filter_eq hfield, Outcome.bind_eq_error_iff]
        exact .inr ⟨_, hop, Outcome.bind_eq_error_iff.mpr (.inl hvalue)⟩

/-! ## Whole trees -/

def bindLeaf (schema : Schema α) (tokens : Token × Token × Token) :
    Except BindError (Comparison α) :=
  schema.bindComparison tokens.1 tokens.2.1 tokens.2.2

theorem comparisons_bind (schema : Schema α) (expr : Expr) :
    (schema.bind expr).map Filter.comparisons =
      expr.comparisons.mapM schema.bindLeaf := by
  induction expr with
  | comparison property operator value =>
      rw [bind, Expr.comparisons, List.mapM_cons, List.mapM_nil, bindLeaf]
      cases schema.bindComparison property operator value with
      | error error => rfl
      | ok leaf => rfl
  | logical connective left right ihLeft ihRight =>
      -- The right part is bound only if the left one was, as the end of a list
      -- is read only if its front was.
      rw [bind, Expr.comparisons, List.mapM_append, ← ihLeft, ← ihRight]
      cases schema.bind left with
      | error error => rfl
      | ok leftFilter =>
          cases schema.bind right with
          | error error => rfl
          | ok rightFilter => rfl

theorem shape_of_bind {expr : Expr} {filter : Filter α}
    (hbind : schema.bind expr = .ok filter) : filter.shape = expr.shape := by
  induction expr generalizing filter with
  | comparison property operator value =>
      rcases bind_comparison_eq_ok_iff.mp hbind with ⟨leaf, -, rfl⟩
      rfl
  | logical connective left right ihLeft ihRight =>
      rcases bind_logical_eq_ok_iff.mp hbind with
        ⟨leftFilter, hleft, rightFilter, hright, rfl⟩
      rw [Filter.shape, ihLeft hleft, ihRight hright, Expr.shape]

theorem bind_eq_ok_iff {expr : Expr} {filter : Filter α} :
    schema.bind expr = .ok filter ↔
      filter.shape = expr.shape ∧
        List.Forall₂ (fun tokens leaf => schema.bindLeaf tokens = .ok leaf)
          expr.comparisons filter.comparisons := by
  rw [← Outcome.mapM_eq_ok_iff, ← comparisons_bind, Outcome.map_eq_ok_iff]
  constructor
  · intro hbind
    exact ⟨shape_of_bind hbind, filter, hbind, rfl⟩
  · rintro ⟨hshape, other, hother, hleaves⟩
    have hsame := (shape_of_bind hother).trans hshape.symm
    rw [hother, Filter.eq_of_shape_eq hsame hleaves]

theorem bind_eq_error_iff {expr : Expr} {error : BindError} :
    schema.bind expr = .error error ↔
      ∃ before tokens after, expr.comparisons = before ++ tokens :: after ∧
        (∀ earlier ∈ before, ∃ leaf, schema.bindLeaf earlier = .ok leaf) ∧
        schema.bindLeaf tokens = .error error := by
  rw [← Outcome.mapM_eq_error_iff, ← comparisons_bind, Outcome.map_eq_error_iff]

/-- An expression can be bound if each of its comparisons can; the filter then
has the shape of the expression and these comparisons as its leaves. Otherwise
the error is that of the leftmost comparison that cannot be bound, and it is the
first fault of that comparison. -/
theorem bind_leaf_by_leaf (schema : Schema α) (expr : Expr) :
    ((∃ filter, schema.bind expr = .ok filter) ↔
      ∀ tokens ∈ expr.comparisons,
        ∃ leaf, schema.bindLeaf tokens = .ok leaf) ∧
    (∀ filter, schema.bind expr = .ok filter ↔
      filter.shape = expr.shape ∧
        List.Forall₂ (fun tokens leaf => schema.bindLeaf tokens = .ok leaf)
          expr.comparisons filter.comparisons) ∧
    (∀ error, schema.bind expr = .error error ↔
      ∃ before tokens after, expr.comparisons = before ++ tokens :: after ∧
        (∀ earlier ∈ before, ∃ leaf, schema.bindLeaf earlier = .ok leaf) ∧
        schema.bindLeaf tokens = .error error) ∧
    ∀ property operator value error,
      schema.bindLeaf (property, operator, value) = .error error ↔
        error.IsFirstFault schema property operator value := by
  refine ⟨?_, fun filter => bind_eq_ok_iff, fun error => bind_eq_error_iff,
    fun property operator value error => bindComparison_eq_error_iff⟩
  rw [← Outcome.exists_mapM_eq_ok_iff, ← comparisons_bind]
  constructor
  · rintro ⟨filter, hbind⟩
    exact ⟨_, Outcome.map_eq_ok_iff.mpr ⟨filter, hbind, rfl⟩⟩
  · rintro ⟨leaves, hleaves⟩
    rcases Outcome.map_eq_ok_iff.mp hleaves with ⟨filter, hbind, -⟩
    exact ⟨filter, hbind⟩

end Schema

end RecordFilter

import RecordFilter.Proofs.Filter.Leaves
import RecordFilter.Proofs.Query.RoundTrip
import RecordFilter.Proofs.Value.LiteralText
import RecordFilter.Proofs.Value.Order

/-!
# Filters written as queries

A filter is written like an expression whose tokens have the names of fields,
the lexemes of operators and the texts of values. If every leaf can be told from
these texts, the expression is bound to the filter again, and the text of the
filter is read as the expression. The leaves of a filter that was bound from a
query can be told if their fields have exact types.
-/

namespace RecordFilter

variable {α : Type}

/-! ## The expression of a filter -/

/-- A comparison whose tokens have the texts of the leaf and no places. -/
def Comparison.toExpr (leaf : Comparison α) : Expr :=
  .comparison ⟨.property, leaf.field.name, ⟨0, 0⟩⟩
    ⟨.operator, leaf.operator.lexeme, ⟨0, 0⟩⟩
    ⟨.value, "'" ++ leaf.value.text ++ "'", ⟨0, 0⟩⟩

namespace Filter

def toExpr : Filter α → Expr
  | .comparison leaf => leaf.toExpr
  | .logical connective left right =>
      .logical connective left.toExpr right.toExpr

theorem render_toExpr (filter : Filter α) :
    filter.toExpr.render = filter.render := by
  induction filter with
  | comparison leaf =>
      have hspace : " '" = " " ++ "'" := rfl
      simp only [toExpr, Comparison.toExpr, Expr.render, render, hspace,
        String.append_assoc]
  | logical connective left right ihLeft ihRight =>
      simp only [toExpr, Expr.render, render, ihLeft, ihRight]

theorem depth_toExpr (filter : Filter α) :
    filter.toExpr.depth = filter.depth := by
  induction filter with
  | comparison leaf => rfl
  | logical connective left right ihLeft ihRight =>
      simp only [toExpr, Expr.depth, depth, ihLeft, ihRight]

theorem eraseSpans_toExpr (filter : Filter α) :
    filter.toExpr.eraseSpans = filter.toExpr := by
  induction filter with
  | comparison leaf => rfl
  | logical connective left right ihLeft ihRight =>
      simp only [toExpr, Expr.eraseSpans, ihLeft, ihRight]

theorem comparisons_toExpr (filter : Filter α) :
    filter.toExpr.comparisons =
      filter.comparisons.flatMap (·.toExpr.comparisons) := by
  induction filter with
  | comparison leaf => rw [comparisons, List.flatMap_singleton, toExpr]
  | logical connective left right ihLeft ihRight =>
      simp only [toExpr, Expr.comparisons, comparisons, List.flatMap_append,
        ihLeft, ihRight]

end Filter

/-! ## Leaves that are found again -/

/-- The texts of the leaf stand for its field and its value in queries over the
schema. -/
structure Comparison.IsRestorable (schema : Schema α) (leaf : Comparison α) :
    Prop where
  field_mem : leaf.field ∈ schema.fields
  eq_of_sameName : ∀ field ∈ schema.fields,
    sameName field.name leaf.field.name = true → field = leaf.field
  supports : leaf.operator.supports leaf.field.type = true
  tick_notMem : tick ∉ leaf.value.text.toList
  read_text : leaf.field.type.read leaf.value.text = .ok leaf.value

theorem toList_quoted (text : String) :
    ("'" ++ text ++ "'").toList = tick :: (text.toList ++ [tick]) := by
  simp [tick]

theorem Token.literal_quoted (kind : TokenKind) (text : String) (span : Span) :
    Token.literal ⟨kind, "'" ++ text ++ "'", span⟩ = text := by
  simp only [Token.literal, toList_quoted, unquote?_quoted,
    String.ofList_toList]

/-- A field of which no other has the name is found by every spelling of it. -/
theorem Schema.bindComparison_of_alone {schema : Schema α} {field : Field α}
    (hfield : field ∈ schema.fields)
    (halone : ∀ other ∈ schema.fields,
      sameName other.name field.name = true → other = field)
    {property operator value : Token}
    (hname : sameName field.name property.text = true) {op : Operator}
    (hlexeme : op.lexeme = operator.text)
    (hsupports : op.supports field.type = true) {literal : Value}
    (hread : field.type.read value.literal = .ok literal) :
    schema.bindComparison property operator value =
      .ok ⟨field, op, literal⟩ := by
  have hfilter :
      schema.fields.filter (sameName ·.name property.text) = [field] := by
    apply filter_eq_singleton hfield
    intro other hother
    constructor
    · intro hsame
      apply halone other hother
      rw [sameName_iff] at hsame hname ⊢
      exact hsame.trans hname.symm
    · rintro rfl
      exact hname
  exact bindComparison_eq_ok_iff.mpr ⟨hfilter, ⟨hlexeme, hsupports⟩, hread⟩

namespace Comparison.IsRestorable

variable {schema : Schema α} {leaf : Comparison α}

theorem bind_toExpr (hleaf : leaf.IsRestorable schema) :
    schema.bind leaf.toExpr = .ok (.comparison leaf) := by
  have hread := hleaf.read_text
  rw [← Token.literal_quoted .value leaf.value.text ⟨0, 0⟩] at hread
  refine Schema.bind_comparison_eq_ok_iff.mpr ⟨leaf, ?_, rfl⟩
  exact Schema.bindComparison_of_alone hleaf.field_mem hleaf.eq_of_sameName
    (beq_self_eq_true _) rfl hleaf.supports hread

theorem isSpelled_toExpr (hleaf : leaf.IsRestorable schema) :
    leaf.toExpr.IsSpelled schema.names := by
  intro comparison hmem
  obtain rfl := List.mem_singleton.mp hmem
  have hname : leaf.field.name ∈ schema.names :=
    List.mem_map_of_mem hleaf.field_mem
  refine ⟨⟨rfl, [], ?_⟩, ⟨rfl, [], .operator leaf.operator []⟩,
    ⟨rfl, [], ?_⟩⟩
  · exact .property hname rfl (by simp [EndsName])
  · rw [toList_quoted]
    exact .value hleaf.tick_notMem []

end Comparison.IsRestorable

namespace Filter

variable {schema : Schema α} {filter : Filter α}

theorem bind_toExpr
    (hleaves : ∀ leaf ∈ filter.comparisons, leaf.IsRestorable schema) :
    schema.bind filter.toExpr = .ok filter := by
  induction filter with
  | comparison leaf =>
      exact (hleaves leaf (List.mem_singleton_self leaf)).bind_toExpr
  | logical connective left right ihLeft ihRight =>
      have hleft := ihLeft fun leaf hmem =>
        hleaves leaf (List.mem_append_left _ hmem)
      have hright := ihRight fun leaf hmem =>
        hleaves leaf (List.mem_append_right _ hmem)
      exact Schema.bind_logical_eq_ok_iff.mpr
        ⟨left, hleft, right, hright, rfl⟩

theorem isSpelled_toExpr
    (hleaves : ∀ leaf ∈ filter.comparisons, leaf.IsRestorable schema) :
    filter.toExpr.IsSpelled schema.names := by
  intro comparison hmem
  rw [comparisons_toExpr] at hmem
  obtain ⟨leaf, hleaf, hcomparison⟩ := List.mem_flatMap.mp hmem
  exact (hleaves leaf hleaf).isSpelled_toExpr comparison hcomparison

end Filter

/-! ## Texts alone decide -/

theorem Schema.bind_eraseSpans (schema : Schema α) (expr : Expr) :
    schema.bind expr.eraseSpans = schema.bind expr := by
  induction expr with
  | comparison property operator value => rfl
  | logical connective left right ihLeft ihRight =>
      simp only [Expr.eraseSpans, bind, ihLeft, ihRight]

/-- The text of the filter is read as an expression that is bound to the
filter. -/
theorem Filter.read_render {schema : Schema α} {filter : Filter α}
    (hleaves : ∀ leaf ∈ filter.comparisons, leaf.IsRestorable schema)
    {limits : Limits} (hnesting : filter.depth ≤ limits.nesting + 1)
    (hdepth : filter.depth ≤ limits.treeDepth) :
    ∃ tokens expr,
      (Lexicon.ofNames schema.names).tokenize filter.render = .ok tokens ∧
        Expr.ofTokens limits tokens = .ok expr ∧
        schema.bind expr = .ok filter := by
  have hspelled := isSpelled_toExpr hleaves
  obtain ⟨scope, hscope, htree, hbrackets⟩ :=
    Expr.exists_scope_of_isSpelled hspelled
  have htokens :=
    Expr.tokenize_render Schema.isFieldName_of_mem_names hspelled
  rw [render_toExpr, ← hscope] at htokens
  have hlevels : scope.tree.depth = filter.depth := by
    rw [← Expr.depth_eraseSpans, htree, Expr.depth_eraseSpans, depth_toExpr]
  have hfits : Folding.Fits limits 0 scope :=
    { nesting := by rw [hbrackets, depth_toExpr]; omega
      depth := by rw [hlevels]; exact hdepth }
  refine ⟨scope.tokens, scope.tree, htokens, Folding.ofTokens_scope hfits, ?_⟩
  rw [← schema.bind_eraseSpans, htree, eraseSpans_toExpr]
  exact bind_toExpr hleaves

/-! ## Leaves of queries -/

/-- A value of a query ends at the first tick after the one before it. -/
theorem Token.IsSpelled.tick_notMem_literal {names : List String}
    {token : Token} (htoken : token.IsSpelled names .value) :
    tick ∉ token.literal.toList := by
  obtain ⟨-, rest, hlexeme⟩ := htoken
  exact (quoted_of_isLexeme hlexeme).2

theorem Schema.isRestorable_of_bindComparison {schema : Schema α}
    {property operator value : Token} {leaf : Comparison α}
    (hbind : schema.bindComparison property operator value = .ok leaf)
    (hvalue : value.IsSpelled schema.names .value)
    (hexact : leaf.field.type.IsExact) : leaf.IsRestorable schema := by
  have hbinding := isBinding_of_bindComparison hbind
  have hkind := hexact.isExactValue hbinding.literal
  refine
    { field_mem := hbinding.field_mem
      eq_of_sameName := hbinding.eq_of_sameName
      supports := hbinding.supports
      tick_notMem := ?_
      read_text := hkind.read_text }
  by_cases htype : leaf.field.type = .string
  · -- A string is the literal itself, which may have blanks at its ends.
    obtain ⟨-, -, hread⟩ := bindComparison_eq_ok_iff.mp hbind
    rw [htype] at hread
    rw [← Except.ok.inj hread]
    exact hvalue.tick_notMem_literal
  · exact (hkind.standsBetweenTicks htype).withoutTick

theorem Schema.isRestorable_of_bind {schema : Schema α}
    (hexact : ∀ field ∈ schema.fields, field.type.IsExact) {expr : Expr}
    (hspelled : expr.IsSpelled schema.names) {filter : Filter α}
    (hbind : schema.bind expr = .ok filter) :
    ∀ leaf ∈ filter.comparisons, leaf.IsRestorable schema := by
  intro leaf hmem
  obtain ⟨comparison, hcomparison, hleaf⟩ :=
    exists_bindComparison_of_bind hbind leaf hmem
  have hfield := (isTyped_of_bindComparison hleaf).field_mem
  exact isRestorable_of_bindComparison hleaf (hspelled _ hcomparison).2.2
    (hexact _ hfield)

/-! ## Filters that are the same as themselves -/

theorem Filter.isSame_self {filter : Filter α}
    (hnumbers : ∀ leaf ∈ filter.comparisons, leaf.value.isNaN = false) :
    filter.isSame filter = true := by
  induction filter with
  | comparison leaf =>
      have hvalue := hnumbers leaf (List.mem_singleton_self leaf)
      simp [isSame, Comparison.isSame, Field.isSame, Value.equals_self hvalue]
  | logical connective left right ihLeft ihRight =>
      have hleft := ihLeft fun leaf hmem =>
        hnumbers leaf (List.mem_append_left _ hmem)
      have hright := ihRight fun leaf hmem =>
        hnumbers leaf (List.mem_append_right _ hmem)
      simp [isSame, hleft, hright]

end RecordFilter

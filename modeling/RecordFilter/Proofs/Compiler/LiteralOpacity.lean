import RecordFilter.Proofs.Compiler.OnePass
import RecordFilter.Proofs.Query.Rewording
import RecordFilter.Proofs.Query.RoundTrip
import RecordFilter.Proofs.Sql.Placeholders

/-!
# Literals do not reach the structure

Two queries that differ in their literals only are parsed to the same tree but
for the literals, or refused for the same reason, and the clauses of the bound
filters are the same text. The literals are parameters of the clauses: there is
one question mark for each of them and none besides.
-/

namespace RecordFilter

/-- All texts but those of literals. -/
def hideLiteral : TokenKind → String → String
  | .value, _ => ""
  | _, text => text

/-- The tokens differ at most in their places and, if they are literals, in
their texts. -/
structure Token.IsAlike (token other : Token) : Prop where
  kind_eq : token.kind = other.kind
  text_eq : token.kind ≠ .value → token.text = other.text

instance (token other : Token) : Decidable (token.IsAlike other) :=
  decidable_of_iff
    (token.kind = other.kind ∧ (token.kind ≠ .value → token.text = other.text))
    ⟨fun ⟨hkind, htext⟩ => ⟨hkind, htext⟩,
      fun halike => ⟨halike.kind_eq, halike.text_eq⟩⟩

namespace Token

theorem IsAlike.reword_eq {token other : Token}
    (halike : token.IsAlike other) :
    token.reword hideLiteral = other.reword hideLiteral := by
  have htext : hideLiteral token.kind token.text =
      hideLiteral other.kind other.text := by
    rw [← halike.kind_eq]
    by_cases hkind : token.kind = .value
    · rw [hkind]
      rfl
    · rw [halike.text_eq hkind]
  rw [reword, reword, htext, halike.kind_eq]

theorem map_reword_eq_of_forall₂ {tokens others : List Token}
    (halike : List.Forall₂ IsAlike tokens others) :
    tokens.map (·.reword hideLiteral) = others.map (·.reword hideLiteral) := by
  induction halike with
  | nil => rfl
  | cons hhead htail ih =>
      rw [List.map_cons, List.map_cons, ih, hhead.reword_eq]

end Token

/-! ## Parsing -/

/-- The expression without its literals and without the places of its tokens. -/
def Expr.outline : Expr → Expr
  | .comparison property operator value =>
      .comparison property.eraseSpan operator.eraseSpan
        ⟨value.kind, "", ⟨0, 0⟩⟩
  | .logical connective left right =>
      .logical connective left.outline right.outline

theorem Expr.reword_hideLiteral {names : List String} {expr : Expr}
    (hspelled : expr.IsSpelled names) :
    expr.reword hideLiteral = expr.outline := by
  induction expr with
  | comparison property operator value =>
      obtain ⟨⟨hproperty, -⟩, ⟨hoperator, -⟩, ⟨hvalue, -⟩⟩ :=
        isSpelled_comparison hspelled
      simp only [reword, outline, Token.reword, Token.eraseSpan, hproperty,
        hoperator, hvalue, hideLiteral]
  | logical connective left right ihLeft ihRight =>
      obtain ⟨hleft, hright⟩ := isSpelled_logical hspelled
      rw [reword, outline, ihLeft hleft, ihRight hright]

theorem Expr.ofTokens_of_alike (limits : Limits) {tokens others : List Token}
    (halike : List.Forall₂ Token.IsAlike tokens others) :
    (∃ expr otherExpr, ofTokens limits tokens = .ok expr ∧
      ofTokens limits others = .ok otherExpr ∧
      expr.reword hideLiteral = otherExpr.reword hideLiteral) ∨
    ∃ error otherError, ofTokens limits tokens = .error error ∧
      ofTokens limits others = .error otherError ∧
      error.reword hideLiteral = otherError.reword hideLiteral := by
  have hconnective : ∀ text, hideLiteral .connective text = text :=
    fun _ => rfl
  exact ofTokens_of_reword_eq hideLiteral hconnective limits
    (Token.map_reword_eq_of_forall₂ halike)

/-! ## Clauses -/

variable {α : Type}

namespace Schema

variable {schema : Schema α}

theorem condition_eq_of_bindComparison
    {property operator value otherProperty otherOperator otherValue : Token}
    (hproperty : property.text = otherProperty.text)
    (hoperator : operator.text = otherOperator.text)
    {leaf otherLeaf : Comparison α}
    (hleaf : schema.bindComparison property operator value = .ok leaf)
    (hotherLeaf : schema.bindComparison otherProperty otherOperator otherValue =
      .ok otherLeaf) :
    (Filter.comparison leaf).toSql.condition =
      (Filter.comparison otherLeaf).toSql.condition := by
  obtain ⟨hfield, ⟨hlexeme, -⟩, -⟩ := bindComparison_eq_ok_iff.mp hleaf
  obtain ⟨hotherField, ⟨hotherLexeme, -⟩, -⟩ :=
    bindComparison_eq_ok_iff.mp hotherLeaf
  have hsameField : leaf.field = otherLeaf.field := by
    rw [hproperty, hotherField] at hfield
    exact (List.cons.inj hfield).1.symm
  have hsameOperator : leaf.operator = otherLeaf.operator := by
    apply Operator.lexeme_injective
    rw [hlexeme, hoperator, hotherLexeme]
  rw [Filter.toSql, Filter.toSql, hsameField, hsameOperator]
  exact Sql.condition_ofComparison _ _ _ _

theorem condition_eq_of_bind {expr other : Expr}
    (hsame : expr.outline = other.outline) {filter otherFilter : Filter α}
    (hbind : schema.bind expr = .ok filter)
    (hotherBind : schema.bind other = .ok otherFilter) :
    filter.toSql.condition = otherFilter.toSql.condition := by
  induction expr generalizing other filter otherFilter with
  | comparison property operator value =>
      cases other with
      | logical => contradiction
      | comparison otherProperty otherOperator otherValue =>
          obtain ⟨hproperty, hoperator, -⟩ := Expr.comparison.inj hsame
          obtain ⟨leaf, hleaf, rfl⟩ := bind_comparison_eq_ok_iff.mp hbind
          obtain ⟨otherLeaf, hotherLeaf, rfl⟩ :=
            bind_comparison_eq_ok_iff.mp hotherBind
          exact condition_eq_of_bindComparison (congrArg Token.text hproperty)
            (congrArg Token.text hoperator) hleaf hotherLeaf
  | logical connective left right ihLeft ihRight =>
      cases other with
      | comparison => contradiction
      | logical otherConnective otherLeft otherRight =>
          obtain ⟨rfl, hsameLeft, hsameRight⟩ := Expr.logical.inj hsame
          obtain ⟨_, hleftBind, _, hrightBind, rfl⟩ :=
            bind_logical_eq_ok_iff.mp hbind
          obtain ⟨_, hotherLeft, _, hotherRight, rfl⟩ :=
            bind_logical_eq_ok_iff.mp hotherBind
          simp only [Filter.toSql, ihLeft hsameLeft hleftBind hotherLeft,
            ihRight hsameRight hrightBind hotherRight]

end Schema

/-- Queries of which the tokens differ in literals only are parsed to trees that
differ in literals only, and the clauses of these are one text, or both are
refused for the same reason. And the clause of a filter has as many question
marks as the filter has values for them and comparisons. -/
theorem Compiler.literals_are_opaque (compiler : Compiler α) :
    (∀ query other tokens others,
      compiler.tokenize query = .ok tokens →
      compiler.tokenize other = .ok others →
      List.Forall₂ Token.IsAlike tokens others →
      (∃ expr otherExpr, compiler.parse query = .ok expr ∧
        compiler.parse other = .ok otherExpr ∧
        expr.outline = otherExpr.outline ∧
        ∀ filter otherFilter, compiler.schema.bind expr = .ok filter →
          compiler.schema.bind otherExpr = .ok otherFilter →
          filter.toSql.clause = otherFilter.toSql.clause) ∨
      ∃ error otherError, compiler.parse query = .error (.parse error) ∧
        compiler.parse other = .error (.parse otherError) ∧
        error.reword hideLiteral = otherError.reword hideLiteral) ∧
    ∀ filter : Filter α,
      (∀ leaf ∈ filter.comparisons, leaf.field ∈ compiler.schema.fields) →
      Sql.placeholders filter.toSql.clause = filter.toSql.parameters.length ∧
        Sql.placeholders filter.toSql.clause = filter.comparisons.length := by
  constructor
  · intro query other tokens others htokens hothers halike
    rcases Expr.ofTokens_of_alike compiler.options.limits halike with
      ⟨expr, otherExpr, hparse, hotherParse, hsame⟩ |
      ⟨error, otherError, hfails, hotherFails, hsame⟩
    · left
      obtain ⟨-, hlexed⟩ := tokenize_eq_ok_iff.mp htokens
      obtain ⟨-, hotherLexed⟩ := tokenize_eq_ok_iff.mp hothers
      have hspelled := Expr.isSpelled_of_ofTokens hlexed hparse
      have hotherSpelled := Expr.isSpelled_of_ofTokens hotherLexed hotherParse
      rw [Expr.reword_hideLiteral hspelled,
        Expr.reword_hideLiteral hotherSpelled] at hsame
      refine ⟨expr, otherExpr, parse_eq_ok_iff.mpr ⟨tokens, htokens, hparse⟩,
        parse_eq_ok_iff.mpr ⟨others, hothers, hotherParse⟩, hsame, ?_⟩
      intro filter otherFilter hbind hotherBind
      exact congrArg Sql.Condition.render
        (Schema.condition_eq_of_bind hsame hbind hotherBind)
    · right
      refine ⟨error, otherError, ?_, ?_, hsame⟩
      · rw [parse_of_tokenize htokens, hfails]
        rfl
      · rw [parse_of_tokenize hothers, hotherFails]
        rfl
  · intro filter hfields
    have hmarks : Sql.placeholders filter.toSql.clause =
        filter.comparisons.length := by
      apply Filter.placeholders_clause
      intro leaf hmem
      have hfield := hfields leaf hmem
      exact (compiler.schema.names_valid _ hfield).questionMark_notMem
    exact ⟨by rw [hmarks, filter.length_parameters_toSql], hmarks⟩

namespace Contact

/-- A query that differs from `contactQuery` in its literals only, which look
like parts of queries and clauses. -/
def disguisedQuery : String :=
  "AGE != '-12' && (Nickname == ') || ? OR 1' || age << '0') || Nickname @= '?'"

theorem areAlike_disguisedQuery :
    (OnePass.contactCompiler.tokenize OnePass.contactQuery).toOption.bind
      (fun tokens =>
        (OnePass.contactCompiler.tokenize disguisedQuery).toOption.map
          fun others => decide (List.Forall₂ Token.IsAlike tokens others)) =
      some true := by
  simp only [Compiler.tokenize, Compiler.lexicon,
    Lexicon.ofNames_eq_insertionSort]
  decide +kernel

theorem literals_are_opaque_disguisedQuery :
    ∃ tokens others,
      OnePass.contactCompiler.tokenize OnePass.contactQuery = .ok tokens ∧
      OnePass.contactCompiler.tokenize disguisedQuery = .ok others ∧
      List.Forall₂ Token.IsAlike tokens others ∧
      ∃ expr otherExpr,
        OnePass.contactCompiler.parse OnePass.contactQuery = .ok expr ∧
        OnePass.contactCompiler.parse disguisedQuery = .ok otherExpr ∧
        ∃ filter otherFilter, schema.bind expr = .ok filter ∧
          schema.bind otherExpr = .ok otherFilter ∧
          filter.toSql.clause = otherFilter.toSql.clause ∧
          Sql.placeholders filter.toSql.clause = 4 := by
  have hcount :
      (OnePass.contactCompiler.compile disguisedQuery).toOption.map
        (·.filter.comparisons.length) = some 4 := by
    simp only [Compiler.compile, Compiler.bind, Compiler.parse,
      Compiler.tokenize, Compiler.lexicon, Lexicon.ofNames_eq_insertionSort]
    decide +kernel
  obtain ⟨predicate, hcompile, hfour⟩ := OnePass.exists_compile_contactQuery
  obtain ⟨otherPredicate, hotherCompile, -⟩ :=
    Outcome.toOption_map_eq_some_iff.mp hcount
  obtain ⟨tokens, expr, filter, htokens, hparse, hbind, rfl⟩ :=
    Compiler.compile_eq_ok_iff_stages.mp hcompile
  obtain ⟨others, otherExpr, otherFilter, hothers, hotherParse, hotherBind,
    rfl⟩ := Compiler.compile_eq_ok_iff_stages.mp hotherCompile
  have halike : List.Forall₂ Token.IsAlike tokens others := by
    have hdecided := areAlike_disguisedQuery
    rw [htokens, hothers] at hdecided
    exact of_decide_eq_true (Option.some.inj hdecided)
  obtain ⟨hpairs, hclauses⟩ :=
    OnePass.contactCompiler.literals_are_opaque
  have hread := Compiler.parse_eq_ok_iff.mpr ⟨tokens, htokens, hparse⟩
  have hotherRead := Compiler.parse_eq_ok_iff.mpr ⟨others, hothers, hotherParse⟩
  refine ⟨tokens, others, htokens, hothers, halike, expr, otherExpr, hread,
    hotherRead, filter, otherFilter, hbind, hotherBind, ?_, ?_⟩
  · rcases hpairs _ _ _ _ htokens hothers halike with
      ⟨_, _, hfirst, hsecond, -, hsame⟩ | ⟨_, _, hfails, -⟩
    · obtain rfl := Except.ok.inj (hread.symm.trans hfirst)
      obtain rfl := Except.ok.inj (hotherRead.symm.trans hsecond)
      exact hsame filter otherFilter hbind hotherBind
    · rw [hread] at hfails
      contradiction
  · have hfields : ∀ leaf ∈ filter.comparisons, leaf.field ∈ schema.fields :=
      fun leaf hmem => (Schema.isTyped_of_bind hbind leaf hmem).field_mem
    exact (hclauses filter hfields).2.trans hfour

end Contact

end RecordFilter

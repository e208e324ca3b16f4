import RecordFilter.Proofs.Query.Nesting
import RecordFilter.Proofs.Query.Reading
import RecordFilter.Proofs.Schema.Fields

/-!
# Reading a rendered expression

An expression is written with a pair of brackets around every connective. The
text is read again as the same expression, only the places of its tokens change:
the lexemes of the text are those of the expression, and the brackets make up a
derivation of which the tree is the expression again. The brackets nest as deep
as the connectives, which is why rendering may need a higher limit.
-/

namespace RecordFilter

/-! ## Tokens without their places -/

def Token.eraseSpan (token : Token) : Token := { token with span := ⟨0, 0⟩ }

/-- The expression without the places of its tokens. -/
def Expr.eraseSpans : Expr → Expr
  | .comparison property operator value =>
      .comparison property.eraseSpan operator.eraseSpan value.eraseSpan
  | .logical connective left right =>
      .logical connective left.eraseSpans right.eraseSpans

theorem Expr.depth_eraseSpans (expr : Expr) :
    expr.eraseSpans.depth = expr.depth := by
  induction expr with
  | comparison property operator value => rfl
  | logical connective left right ihLeft ihRight =>
      simp only [eraseSpans, depth, ihLeft, ihRight]

/-! ## Tokens of expressions and of their texts -/

/-- A query over the names may hold the token, at some place. -/
structure Token.IsSpelled (names : List String) (kind : TokenKind)
    (token : Token) : Prop where
  kind_eq : token.kind = kind
  isLexeme : ∃ rest, IsLexeme names kind token.text.toList rest

/-- Every comparison is made up of tokens of a query over the names. -/
def Expr.IsSpelled (names : List String) (expr : Expr) : Prop :=
  ∀ comparison ∈ expr.comparisons,
    comparison.1.IsSpelled names .property ∧
      comparison.2.1.IsSpelled names .operator ∧
      comparison.2.2.IsSpelled names .value

theorem Expr.isSpelled_comparison {names : List String}
    {property operator value : Token}
    (hspelled : (comparison property operator value).IsSpelled names) :
    property.IsSpelled names .property ∧ operator.IsSpelled names .operator ∧
      value.IsSpelled names .value :=
  hspelled (property, operator, value) (List.mem_singleton_self _)

theorem Expr.isSpelled_logical {names : List String} {connective : Connective}
    {left right : Expr}
    (hspelled : (logical connective left right).IsSpelled names) :
    left.IsSpelled names ∧ right.IsSpelled names := by
  refine ⟨?_, ?_⟩
  · intro comparison hmem
    exact hspelled comparison (List.mem_append_left _ hmem)
  · intro comparison hmem
    exact hspelled comparison (List.mem_append_right _ hmem)

theorem Piece.isSpelled_of_mem_tokens {names : List String}
    {pieces : List Piece} {trailing : List Char}
    (hreadable : Readable names pieces trailing) (position : Nat) :
    ∀ token ∈ tokens position pieces, token.IsSpelled names token.kind := by
  induction pieces generalizing position with
  | nil => simp [tokens]
  | cons piece pieces ih =>
      obtain ⟨-, hlexeme, hrest⟩ := hreadable
      intro token htoken
      rcases List.mem_cons.mp htoken with rfl | htoken
      · exact ⟨rfl, _, by simpa using hlexeme⟩
      · exact ih hrest _ token htoken

theorem Grammar.Scope.isSpelled_tree {names : List String} {scope : Scope}
    (htokens : ∀ token ∈ scope.tokens, token.IsSpelled names token.kind) :
    scope.tree.IsSpelled names := by
  intro comparison hmem
  have hholds := scope.holdsComparison comparison hmem
  have hproperty := htokens _ hholds.property_mem
  have hoperator := htokens _ hholds.operator_mem
  have hvalue := htokens _ hholds.value_mem
  rw [hholds.property_kind] at hproperty
  rw [hholds.operator_kind] at hoperator
  rw [hholds.value_kind] at hvalue
  exact ⟨hproperty, hoperator, hvalue⟩

/-- An expression that was read from a query can be written again. -/
theorem Expr.isSpelled_of_ofTokens {names : List String} {query : String}
    {tokens : List Token} {limits : Limits} {expr : Expr}
    (htokens : (Lexicon.ofNames names).tokenize query = .ok tokens)
    (hparse : ofTokens limits tokens = .ok expr) : expr.IsSpelled names := by
  obtain ⟨pieces, trailing, hpieces, -, htokensOf⟩ :=
    Lexicon.exists_readable_of_tokensFrom htokens
  obtain ⟨scope, hscope, -, rfl⟩ := Folding.exists_scope_of_ofTokens hparse
  apply scope.isSpelled_tree
  rw [hscope, ← htokensOf]
  exact Piece.isSpelled_of_mem_tokens hpieces 0

theorem Piece.exists_tokens_append (position : Nat) (front back : List Piece) :
    ∃ stop, tokens position (front ++ back) =
      tokens position front ++ tokens stop back := by
  induction front generalizing position with
  | nil => exact ⟨position, rfl⟩
  | cons piece front ih =>
      obtain ⟨stop, hfront⟩ :=
        ih (position + utf8Length piece.blanks + utf8Length piece.lexeme)
      exact ⟨stop, by simp only [List.cons_append, tokens, hfront]⟩

theorem Piece.exists_tokens_cons (position : Nat) (piece : Piece)
    (pieces : List Piece) :
    ∃ span stop, tokens position (piece :: pieces) =
      ⟨piece.kind, String.ofList piece.lexeme, span⟩ :: tokens stop pieces :=
  ⟨_, _, rfl⟩

/-! ## The pieces of a rendered expression -/

namespace Expr

open Piece

/-- The lexemes of the rendering, the first one after some blanks. -/
def pieces (blanks : List Char) : Expr → List Piece
  | .comparison property operator value =>
      [⟨blanks, .property, property.text.toList⟩,
        ⟨[' '], .operator, operator.text.toList⟩,
        ⟨[' '], .value, value.text.toList⟩]
  | .logical connective left right =>
      ⟨blanks, .openBracket, ['(']⟩ ::
        (left.pieces [] ++
          ⟨[' '], .connective, connective.lexeme.toList⟩ ::
            (right.pieces [' '] ++ [⟨[], .closeBracket, [')']⟩]))

theorem spell_pieces (expr : Expr) (blanks : List Char) (after : List Piece)
    (trailing : List Char) :
    spell (expr.pieces blanks ++ after) trailing =
      blanks ++ (expr.render.toList ++ spell after trailing) := by
  induction expr generalizing blanks after with
  | comparison property operator value =>
      simp [pieces, spell, render]
  | logical connective left right ihLeft ihRight =>
      simp [pieces, spell, render, ihLeft, ihRight]

theorem readable_pieces {names : List String} {expr : Expr}
    (hspelled : expr.IsSpelled names) {blanks : List Char}
    (hblanks : AllBlank blanks) {after : List Piece} {trailing : List Char}
    (hafter : Readable names after trailing) :
    Readable names (expr.pieces blanks ++ after) trailing := by
  induction expr generalizing blanks after with
  | comparison property operator value =>
      obtain ⟨⟨-, _, hproperty⟩, ⟨-, _, hoperator⟩, ⟨-, _, hvalue⟩⟩ :=
        isSpelled_comparison hspelled
      have hend : ∀ rest, EndsName (' ' :: rest) :=
        endsName_of_isBlank (by decide)
      exact
        ⟨hblanks, hproperty.of_endsName fun _ => hend _, allBlank_space,
          hoperator.of_endsName nofun, allBlank_space,
          hvalue.of_endsName nofun, hafter⟩
  | logical connective left right ihLeft ihRight =>
      obtain ⟨hleft, hright⟩ := isSpelled_logical hspelled
      have hclosing :
          Readable names (⟨[], .closeBracket, [')']⟩ :: after) trailing :=
        ⟨allBlank_nil, .closeBracket _, hafter⟩
      have hrest := ihRight hright allBlank_space hclosing
      have hjoint :
          Readable names
            (⟨[' '], .connective, connective.lexeme.toList⟩ ::
              (right.pieces [' '] ++ ⟨[], .closeBracket, [')']⟩ :: after))
            trailing :=
        ⟨allBlank_space, .connective connective _, hrest⟩
      have hall := ihLeft hleft allBlank_nil hjoint
      simp only [pieces, List.cons_append, List.append_assoc, List.nil_append]
      exact ⟨hblanks, .openBracket _, hall⟩

/-! ## The derivation of a rendered expression -/

open Grammar in
/-- The tokens of the rendering make up an operand that is the expression again.
-/
theorem exists_operand_of_isSpelled {names : List String} {expr : Expr}
    (hspelled : expr.IsSpelled names) (blanks : List Char) (position : Nat) :
    ∃ operand : Operand,
      operand.tokens = Piece.tokens position (expr.pieces blanks) ∧
      operand.tree.eraseSpans = expr.eraseSpans ∧
      operand.nesting + 1 = expr.depth := by
  induction expr generalizing blanks position with
  | comparison property operator value =>
      obtain ⟨⟨hproperty, -⟩, ⟨hoperator, -⟩, ⟨hvalue, -⟩⟩ :=
        isSpelled_comparison hspelled
      refine
        ⟨.comparison ⟨⟨.property, _, _⟩, rfl⟩ ⟨⟨.operator, _, _⟩, rfl⟩
          ⟨⟨.value, _, _⟩, rfl⟩, rfl, ?_, rfl⟩
      simp only [Operand.tree, eraseSpans, Token.eraseSpan, hproperty,
        hoperator, hvalue, String.ofList_toList]
  | logical connective left right ihLeft ihRight =>
      obtain ⟨hleft, hright⟩ := isSpelled_logical hspelled
      rw [pieces]
      obtain ⟨opening, start, hopening⟩ :=
        exists_tokens_cons position ⟨blanks, .openBracket, ['(']⟩ _
      obtain ⟨middle, hfront⟩ := exists_tokens_append start (left.pieces []) _
      obtain ⟨joint, after, hjoint⟩ := exists_tokens_cons middle
        ⟨[' '], .connective, connective.lexeme.toList⟩ _
      obtain ⟨last, hback⟩ := exists_tokens_append after (right.pieces [' ']) _
      obtain ⟨closing, _, hclosing⟩ :=
        exists_tokens_cons last ⟨[], .closeBracket, [')']⟩ []
      rw [hopening, hfront, hjoint, hback, hclosing]
      obtain ⟨leftOperand, hleftTokens, hleftTree, hleftNesting⟩ :=
        ihLeft hleft [] start
      obtain ⟨rightOperand, hrightTokens, hrightTree, hrightNesting⟩ :=
        ihRight hright [' '] after
      refine
        ⟨.bracketed ⟨⟨.openBracket, "(", opening⟩, rfl⟩
          (.mk leftOperand (.link
            ⟨⟨.connective, connective.lexeme, joint⟩, connective, rfl, rfl⟩
            rightOperand .done))
          ⟨⟨.closeBracket, ")", closing⟩, rfl⟩, ?_, ?_, ?_⟩
      · rw [← hleftTokens, ← hrightTokens]
        simp only [Operand.tokens, Scope.tokens, Chain.tokens, List.append_nil,
          List.append_assoc, List.cons_append, String.ofList_toList]
        rfl
      · simp only [Operand.tree, Scope.tree, Chain.foldOnto, eraseSpans,
          hleftTree, hrightTree]
      · simp only [Operand.nesting, Scope.nesting, Chain.nesting, depth]
        omega

/-- The rendering is a single operand, so it makes up a scope without
connectives. -/
theorem exists_scope_of_isSpelled {names : List String} {expr : Expr}
    (hspelled : expr.IsSpelled names) :
    ∃ scope : Grammar.Scope,
      scope.tokens = Piece.tokens 0 (expr.pieces []) ∧
      scope.tree.eraseSpans = expr.eraseSpans ∧
      scope.nesting = expr.depth - 1 := by
  obtain ⟨operand, htokens, htree, hnesting⟩ :=
    exists_operand_of_isSpelled hspelled [] 0
  refine ⟨.mk operand .done, ?_, htree, ?_⟩
  · rw [← htokens]
    exact List.append_nil operand.tokens
  · simp only [Grammar.Scope.nesting, Grammar.Chain.nesting]
    omega

theorem tokenize_render {names : List String}
    (hnames : ∀ name ∈ names, IsFieldName name) {expr : Expr}
    (hspelled : expr.IsSpelled names) :
    (Lexicon.ofNames names).tokenize expr.render =
      .ok (tokens 0 (expr.pieces [])) := by
  have hafter : Readable names [] [] := allBlank_nil
  have hreadable := readable_pieces hspelled allBlank_nil hafter
  have hspell := expr.spell_pieces [] [] []
  rw [List.append_nil] at hreadable hspell
  rw [Lexicon.tokenize, ← Lexicon.tokensFrom_spell hnames hreadable 0, hspell]
  simp only [spell, List.append_nil, List.nil_append]

end Expr

/-- The rendering of an expression that was read from a query is read as the
same expression if the limit allows for its brackets, and refused for them if
not. -/
theorem Schema.ofTokens_tokenize_render {α : Type} (schema : Schema α)
    {query : String} {limits : Limits} {tokens : List Token} {expr : Expr}
    (htokens : (Lexicon.ofNames schema.names).tokenize query = .ok tokens)
    (hparse : Expr.ofTokens limits tokens = .ok expr) :
    ∃ rendered,
      (Lexicon.ofNames schema.names).tokenize expr.render = .ok rendered ∧
      ∀ nesting,
        (expr.depth - 1 ≤ nesting →
          ∃ again,
            Expr.ofTokens { limits with nesting := nesting } rendered =
              .ok again ∧
            again.eraseSpans = expr.eraseSpans) ∧
        (nesting < expr.depth - 1 →
          ∃ position,
            Expr.ofTokens { limits with nesting := nesting } rendered =
              .error (.nestingTooDeep nesting position)) := by
  obtain ⟨pieces, trailing, hpieces, -, htokensOf⟩ :=
    Lexicon.exists_readable_of_tokensFrom htokens
  obtain ⟨scope, hscope, hfits, rfl⟩ := Folding.exists_scope_of_ofTokens hparse
  have hspelled : scope.tree.IsSpelled schema.names := by
    apply scope.isSpelled_tree
    rw [hscope, ← htokensOf]
    exact Piece.isSpelled_of_mem_tokens hpieces 0
  obtain ⟨whole, hwhole, htree, hnesting⟩ :=
    Expr.exists_scope_of_isSpelled hspelled
  have hdepth : whole.tree.depth ≤ limits.treeDepth := by
    rw [← Expr.depth_eraseSpans, htree, Expr.depth_eraseSpans]
    exact hfits.depth
  have hrendered :=
    Expr.tokenize_render Schema.isFieldName_of_mem_names hspelled
  rw [← hwhole] at hrendered
  refine ⟨whole.tokens, hrendered, fun nesting => ⟨?_, ?_⟩⟩
  · intro hroom
    refine ⟨whole.tree, ?_, htree⟩
    apply Folding.ofTokens_scope
    exact
      { nesting := by simpa [hnesting] using hroom
        depth := hdepth }
  · intro hfull
    apply Folding.ofTokens_of_tooNested
    · rw [hnesting]
      exact hfull
    · exact hdepth

namespace Contact

/-- A query without brackets, of which the rendering needs two pairs. -/
def flatQuery : String :=
  "age << '7' && Nickname == 'a' || AGE >> '3'"

theorem ofTokens_tokenize_render_flatQuery :
    ∃ tokens expr,
      (Lexicon.ofNames schema.names).tokenize flatQuery = .ok tokens ∧
      Expr.ofTokens ⟨0, 3⟩ tokens = .ok expr ∧
      ∃ rendered,
        (Lexicon.ofNames schema.names).tokenize expr.render = .ok rendered ∧
        (∃ again, Expr.ofTokens ⟨2, 3⟩ rendered = .ok again ∧
          again.eraseSpans = expr.eraseSpans) ∧
        ∃ position, Expr.ofTokens ⟨1, 3⟩ rendered =
          .error (.nestingTooDeep 1 position) := by
  have hdepth :
      ((Lexicon.ofNames schema.names).tokenize flatQuery).toOption.bind
        (fun tokens => (Expr.ofTokens ⟨0, 3⟩ tokens).toOption.map Expr.depth) =
      some 3 := by
    rw [Lexicon.ofNames_eq_insertionSort]
    decide +kernel
  cases htokens : (Lexicon.ofNames schema.names).tokenize flatQuery with
  | error error =>
      rw [htokens] at hdepth
      contradiction
  | ok tokens =>
      cases hparse : Expr.ofTokens ⟨0, 3⟩ tokens with
      | error error =>
          simp [htokens, hparse, Except.toOption] at hdepth
      | ok expr =>
          have hthree : expr.depth = 3 := by
            simpa [htokens, hparse, Except.toOption] using hdepth
          obtain ⟨rendered, hrendered, hread⟩ :=
            schema.ofTokens_tokenize_render htokens hparse
          exact
            ⟨tokens, expr, rfl, hparse, rendered, hrendered,
              (hread 2).1 (by omega), (hread 1).2 (by omega)⟩

end Contact

end RecordFilter
